import Lanewise.Config.Record
import Lanewise.Proofs.Document.Record

namespace Lanewise

instance (host : Host) : LawfulRecord (TargetRequest.record host) where
  keys_nodup := by
    change ["arch", "cpu", "target", "os", "pic", "code-model", "print-target"].Nodup
    decide
  lawful := by simp [TargetRequest.record]
  rebuilds request := by
    obtain ⟨arch, cpu, target, os, pic, codeModel, printTarget⟩ := request
    cases arch <;> cases cpu <;>
      simp [TargetRequest.record, TargetRequest.onHost, TargetRequest.forTarget]
  complete strict := by cases strict

instance : LawfulRecord Switches.record where
  keys_nodup := by decide
  lawful := by simp [Switches.record]
  rebuilds opt := by simp [Switches.record]
  complete strict := by cases strict

instance : LawfulRecord Config.Codegen.record where
  keys_nodup := by decide
  lawful := by simp [Config.Codegen.record]
  rebuilds codegen := by
    obtain ⟨_, _, _, _, _, _, _, _, _, _, _, _, alignment, _, _, _, _, darwinVersion, _, _, _⟩ :=
      codegen
    cases alignment <;> cases darwinVersion <;> simp [Config.Codegen.record]
  complete strict := by cases strict

instance : LawfulRecord FileLine.record where
  keys_nodup := by decide
  lawful := by simp [FileLine.record]
  rebuilds line := by simp [FileLine.record]
  complete _ := by simp [FileLine.record, Field.of]

instance : LawfulRecord Config.Diagnostics.record where
  keys_nodup := by decide
  lawful := by simp [Config.Diagnostics.record]
  rebuilds diagnostics := by
    obtain ⟨_, _, _, _, _, _, _, _, _, limit, _⟩ := diagnostics
    cases limit <;> simp [Config.Diagnostics.record]
  complete strict := by cases strict

instance : LawfulRecord Config.Paths.record where
  keys_nodup := by decide
  lawful := by simp [Config.Paths.record]
  rebuilds paths := by
    obtain ⟨cwd, _, _, dump⟩ := paths
    cases cwd <;> cases dump <;> simp [Config.Paths.record]
  complete strict := by cases strict

instance (host : Host) : LawfulRecord (Config.record host) where
  keys_nodup := by
    change ["target", "opt", "codegen", "diagnostics", "paths"].Nodup
    decide
  lawful := by simp [Config.record]
  rebuilds config := by simp [Config.record]
  complete strict := by cases strict

end Lanewise
