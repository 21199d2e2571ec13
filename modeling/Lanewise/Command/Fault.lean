import Lanewise.Config.Basic
import Lanewise.Report.Target
import Lanewise.Toolkit.Builtin

namespace Lanewise

inductive CommandFault where
  | unknownFormat (name : String)
  | unknownFamily (name : String)
  | unknownBackend (name : String)
  | missingBackend
  | badRequest (cause : TargetFault)
  | badTarget (target : VectorTarget) (cause : TargetFault)
  | notLoaded (path : String) (cause : ConfigFault)
  | badConfig (path : String) (cause : ConfigFault)
  | context (cause : ContextFault)
  deriving DecidableEq

def CommandFault.message : CommandFault → String
  | unknownFormat name => "unknown format '" ++ name ++ "' (expected human or json)"
  | unknownFamily name => "unknown ISA family '" ++ name ++ "' (expected x86, arm or wasm)"
  | unknownBackend name => "unknown backend '" ++ name ++ "' (expected builtin or llvm)"
  | missingBackend => "spmdc was built without the 'llvm' feature"
  | badRequest cause => cause.message
  | badTarget target cause =>
      "cannot describe target '" ++ target.name ++ "': " ++ cause.message
  | notLoaded path cause => "failed to load " ++ path ++ ": " ++ cause.fullMessage
  | badConfig path cause => "invalid configuration in " ++ path ++ ": " ++ cause.fullMessage
  | context cause => cause.fullMessage

def ReportFormat.parse : Option String → Except CommandFault ReportFormat
  | none => .ok .human
  | some name => orFail (.unknownFormat name) (Keyword.ofWord? name)

def IsaFamily.parse (name : String) : Except CommandFault IsaFamily :=
  orFail (.unknownFamily name) (Keyword.ofWord? name)

def Toolkit.parse (name : String) : Except CommandFault Toolkit :=
  if name = "builtin" then .ok .builtin
  else if name = "llvm" then .error .missingBackend
  else .error (.unknownBackend name)

end Lanewise
