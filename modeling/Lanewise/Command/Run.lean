import Lanewise.Command.Check
import Lanewise.Command.Line
import Lanewise.Command.Listing

namespace Lanewise

structure Outcome where
  exitCode : UInt8 := 0
  output : String := ""
  complaint : Option String := none
  deriving DecidableEq, Repr

namespace Outcome

def after (output : String) : Except CommandFault String → Outcome
  | .ok rest => { output := output ++ rest }
  | .error failure =>
      { exitCode := 1, output, complaint := some ("error: " ++ failure.message) }

end Outcome

namespace Command

def file? : Command → Option String
  | check path _ _ => some path
  | _ => none

def run (host : Host) (contents : String → Check.Contents) : Command → Outcome
  | targets family =>
      Outcome.after "Vector targets:\n\n" do
        let listing ← Listing.targets host family
        return listing ++ "\nUse 'spmdc describe <target>' for details.\n"
  | cpus => { output := "CPUs:\n\n" ++ Listing.cpus }
  | describe words backend format =>
      Outcome.after "" do
        let toolkit ← Toolkit.parse backend
        words.run host toolkit format
  | check path backend format =>
      Outcome.after "" do
        let toolkit ← Toolkit.parse backend
        Check.run host toolkit path (contents path) format
  | template => { output := Config.template host }

end Command

namespace CommandLine

def versionText : String := "spmdc 0.1.0\n"

def usage : String :=
  "SPMD compiler target inspector\n\nUsage: spmdc [-v|--verbose] <COMMAND>\n\nCommands: "
    ++ Text.commaList (Keyword.words Name) ++ "\n"

def runNone : NoCommand → Outcome
  | .help => { output := usage }
  | .version => { output := versionText }
  | .misuse => { exitCode := 2, complaint := some usage }

def run (host : Host) (contents : String → Check.Contents) (arguments : List String) : Outcome :=
  match read arguments with
  | .ok command => command.run host contents
  | .error reason => runNone reason

def file? (arguments : List String) : Option String := (read arguments).toOption.bind Command.file?

end CommandLine

end Lanewise
