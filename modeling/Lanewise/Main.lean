import Lanewise.Command.Run

namespace Lanewise.Program

def faultOf : IO.Error → FileFault
  | .noFileOrDirectory .. => .missing
  | .inappropriateType _ code wording | .permissionDenied _ code wording =>
      .other code.toNat wording
  | failure => .other 5 (toString failure)

def contentsOf (path : String) : IO Check.Contents := do
  match ← (IO.FS.readBinFile path).toBaseIO with
  | .ok bytes => return textOfBytes bytes
  | .error failure => return .error (faultOf failure)

def outcomeOf (arguments : List String) : IO Outcome := do
  let contents ←
    match CommandLine.file? arguments with
    | some path => contentsOf path
    | none => pure (.error .missing)
  return CommandLine.run .unknown (fun _ => contents) arguments

end Lanewise.Program

def main (arguments : List String) : IO UInt32 := do
  let outcome ← Lanewise.Program.outcomeOf arguments
  IO.print outcome.output
  outcome.complaint.forM IO.eprintln
  return outcome.exitCode.toUInt32
