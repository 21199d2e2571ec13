import Lanewise.Command.Fault

namespace Lanewise

structure Description where
  target : Option String := none
  cpu : Option String := none
  arch : Option String := none
  os : Option String := none
  flags : List String := []
  deriving DecidableEq, Repr

namespace Description

def request (host : Host) (words : Description) : Except TargetFault TargetRequest := do
  let target ← words.target.mapM VectorTarget.parse
  let arch ← words.arch.mapM Arch.parse
  let os ← words.os.mapM Os.parse
  let base := TargetRequest.forTarget host (target.getD host.defaultTarget)
  return { base with arch, cpu := words.cpu, os := os.getD base.os }

def opt (words : Description) : Except TargetFault Switches :=
  Switches.setFlags {} words.flags

def policy (host : Host) (toolkit : Toolkit) (words : Description) :
    Except CommandFault Policy := do
  let request ← (words.request host).mapError .badRequest
  let opt ← words.opt.mapError .badRequest
  let target ← (Target.create host toolkit request).mapError (.badTarget request.target)
  return { target, opt }

def run (host : Host) (toolkit : Toolkit) (words : Description) (format : Option String) :
    Except CommandFault String := do
  let format ← ReportFormat.parse format
  let policy ← words.policy host toolkit
  return policy.render format

end Description

end Lanewise
