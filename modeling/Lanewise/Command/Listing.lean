import Lanewise.Command.Fault

namespace Lanewise.Listing

def targetLine (host : Host) (target : VectorTarget) : String :=
  let isDefault : Bool := host.bestIsa? = some target.isa && target = target.isa.defaultTarget
  "  " ++ Text.padRight 18 target.name ++ " " ++ Text.padRight 12 target.isa.displayName ++ " "
    ++ Text.padLeft 2 (toString target.lanes) ++ " x i" ++ toString target.elementBits
    ++ if isDefault then " (host default)" else ""

def targets (host : Host) (family : Option String) : Except CommandFault String := do
  let family ← family.mapM IsaFamily.parse
  let shown := VectorTarget.all.filter fun target =>
    family.all fun family => target.isa.family = family
  return Text.unlines (shown.map (targetLine host))

def cpuLine (cpu : Cpu) : String :=
  let aliases :=
    if cpu.aliases.isEmpty then "" else " (alias " ++ Text.commaList cpu.aliases ++ ")"
  "  " ++ Text.padRight 18 cpu.name ++ " " ++ Text.padRight 5 cpu.family.name ++ " up to "
    ++ cpu.maxIsa.displayName ++ aliases

def cpus : String := Text.unlines (Cpu.all.map cpuLine)

end Lanewise.Listing
