import Lanewise.Command.Fault
import Lanewise.Config.Text

namespace Lanewise.Check

abbrev Contents := Except FileFault String

def load (host : Host) (path : String) (contents : Contents) : Except CommandFault Config :=
  (contents.mapError (.unreadable path) >>= Config.parse host).mapError (.notLoaded path)

abbrev Checked := Context Unit Unit

def build (host : Host) (toolkit : Toolkit) (path : String) (config : Config) :
    Except CommandFault Checked :=
  (config.build host toolkit).mapError (.badConfig path)

def report (path : String) (config : Config) (ctx : Checked) (policy : Policy) : Document :=
  .map [
    ("config", .text path),
    ("phase", .keyword ctx.phase),
    ("math-lib", .keyword ctx.settings.mathLib),
    ("calling-convention", .keyword ctx.settings.callingConv),
    ("suppressed-lines", .nat ctx.silencedLines.size),
    ("dump-stages", .words config.codegen.dumpStages),
    ("skip-stages", .words config.codegen.skipStages),
    ("target", policy.report)]

def reportText (path : String) (ctx : Checked) (policy : Policy) : String :=
  Text.unlines [
    path ++ ": ok (" ++ ctx.phase.title ++ ")",
    "  Math library:     " ++ ctx.settings.mathLib.title,
    "  Calling conv:     " ++ ctx.settings.callingConv.title,
    "  Suppressed lines: " ++ toString ctx.silencedLines.size,
    ""]
  ++ policy.reportText

def run (host : Host) (toolkit : Toolkit) (path : String) (contents : Contents)
    (format : Option String) : Except CommandFault String := do
  let format ← ReportFormat.parse format
  let config ← load host path contents
  let ctx ← build host toolkit path config
  let policy ← ctx.policy.mapError .context
  return match format with
    | .human => reportText path ctx policy
    | .json => (report path config ctx policy).report

end Lanewise.Check
