import Lanewise.Proofs.Cpu
import Lanewise.Proofs.Toolkit.Intrinsics
import Lanewise.Proofs.VectorTarget

namespace Lanewise

variable {text : String}

namespace VectorTarget

theorem nodup_all : all.Nodup := by
  have shapes : supportedShapes.Nodup := by decide
  refine (List.nodup_attach.2 shapes).map ?_
  rintro ⟨⟨isa, elementBits, lanes⟩, _⟩ ⟨⟨isa', elementBits', lanes'⟩, _⟩ same
  cases same
  rfl

theorem names_unique (text : String) :
    all.Pairwise fun target other => ¬(target.name == text ∧ other.name == text) := by
  refine nodup_all.imp fun {target other} differ both => ?_
  simp only [beq_iff_eq] at both
  exact differ (name_injective (both.1.trans both.2.symm))

end VectorTarget

namespace Isa

variable {isa : Isa}

def smallNames (isa : Isa) : List String :=
  List.insert (Text.lower isa.displayName) [isa.targetStem]

theorem smallNames_apart : (all.flatMap smallNames).Nodup := by decide +kernel

-- A name answers in any letter case, so the sets are told apart by the text in small letters. Stems
-- are read as they are written, but they have no other letters.
theorem lower_mem_smallNames (answers : isa.answersTo text) : Text.lower text ∈ isa.smallNames := by
  rw [answersTo, Bool.or_eq_true, Text.sameLetters, beq_iff_eq, beq_iff_eq] at answers
  rcases answers with display | rfl
  · rw [← display]
    exact List.mem_insert_self
  · have small : Text.lower isa.targetStem = isa.targetStem := by
      cases isa <;> decide
    rw [small]
    exact List.mem_insert_of_mem (List.mem_singleton_self _)

theorem answers_unique (text : String) :
    all.Pairwise fun isa other => ¬(isa.answersTo text ∧ other.answersTo text) :=
  unique_of_apart smallNames_apart fun _ => lower_mem_smallNames

end Isa

namespace Cpu

theorem answers_unique (text : String) :
    all.Pairwise fun cpu other => ¬(cpu.answersTo text ∧ other.answersTo text) :=
  unique_of_apart names_apart fun _ => answersTo_iff.1

theorem not_answersTo_native (cpu : Cpu) : ¬cpu.answersTo TargetRequest.nativeName := by
  cases cpu <;> decide

end Cpu

theorem order_never_decides (text : String) :
    (VectorTarget.all.countP (·.name == text) ≤ 1 ∧
      ∀ table, VectorTarget.all.Perm table →
        table.find? (·.name == text) = VectorTarget.lookup? text) ∧
    (Isa.all.countP (·.answersTo text) ≤ 1 ∧
      ∀ table, Isa.all.Perm table → table.find? (·.answersTo text) = Isa.ofName? text) ∧
    (Cpu.all.countP (·.answersTo text) ≤ 1 ∧
      (∀ cpu ∈ Cpu.all, ¬cpu.answersTo TargetRequest.nativeName) ∧
      ∀ table, Cpu.all.Perm table → table.find? (·.answersTo text) = Cpu.ofName? text) ∧
    (intrinsicFeatures.countP (fun row => Text.startsWith text row.1) ≤ 1 ∧
      ∀ table, intrinsicFeatures.Perm table →
        (table.find? fun row => Text.startsWith text row.1).map (·.2) = neededFeature? text) ∧
    (Target.intrinsicFamilies.countP (fun row => Text.startsWith text row.1) ≤ 1 ∧
      ∀ table, Target.intrinsicFamilies.Perm table → ∀ target : Target,
        ((table.find? fun row => Text.startsWith text row.1).all fun row =>
          row.2 = target.isa.family && Target.hostsIntrinsics target.arch row.1) =
            target.admitsIntrinsic text) := by
  have features := Text.stems_unique intrinsicFeatures_apart text
  have families := Text.stems_unique Target.intrinsicFamilies_apart text
  refine ⟨⟨?_, fun table perm => ?_⟩, ⟨?_, fun table perm => ?_⟩, ⟨?_, ?_, fun table perm => ?_⟩,
    ⟨?_, fun table perm => ?_⟩, ⟨?_, fun table perm target => ?_⟩⟩
  · exact countP_le_one_of_unique (VectorTarget.names_unique text)
  · exact find?_of_perm (VectorTarget.names_unique text) perm
  · exact countP_le_one_of_unique (Isa.answers_unique text)
  · exact find?_of_perm (Isa.answers_unique text) perm
  · exact countP_le_one_of_unique (Cpu.answers_unique text)
  · exact fun cpu _ => cpu.not_answersTo_native
  · exact find?_of_perm (Cpu.answers_unique text) perm
  · exact countP_le_one_of_unique features
  · rw [find?_of_perm features perm, neededFeature?]
  · exact countP_le_one_of_unique families
  · rw [find?_of_perm families perm, Target.admitsIntrinsic]
    cases Target.intrinsicFamilies.find? fun row => Text.startsWith text row.1 <;> rfl

end Lanewise
