import Lanewise.Host
import Lanewise.Proofs.Isa
import Lanewise.Proofs.Names

namespace Lanewise

namespace Cpu

theorem names_apart : (all.flatMap fun cpu => cpu.name :: cpu.aliases).Nodup := by decide

theorem answersTo_iff {cpu : Cpu} {text : String} :
    cpu.answersTo text ↔ text ∈ cpu.name :: cpu.aliases := by
  rw [answersTo, Bool.or_eq_true, beq_iff_eq, List.contains_iff_mem, List.mem_cons, eq_comm]

theorem ofName?_eq_some_iff {cpu : Cpu} {text : String} :
    ofName? text = some cpu ↔ cpu.answersTo text := by
  rw [ofName?, find?_eq_some_iff_of_apart names_apart (fun _ => answersTo_iff), answersTo_iff]
  exact and_iff_right (mem_all cpu)

theorem name_injective : Function.Injective name :=
  injective_of_found fun _ => ofName?_eq_some_iff.2 (answersTo_iff.2 List.mem_cons_self)

theorem ofName?_eq_none_iff {text : String} :
    ofName? text = none ↔ ∀ cpu : Cpu, ¬cpu.answersTo text := by
  simp [ofName?, mem_all]

theorem has_avxVnni_iff {cpu : Cpu} :
    cpu.has .avxVnni ↔ cpu.maxIsa ∈ [Isa.avx2vnni, .avx512spr, .avx10_2] := by
  cases cpu <;> decide

/-- Below its strongest set a processor may lack two sets, of which one is a lineage of its own and
the other a feature. -/
theorem runs_iff_of_le {cpu : Cpu} {isa : Isa} (below : isa ≤ cpu.maxIsa) :
    cpu.runs isa ↔ (isa = .avx512knl → cpu.maxIsa = .avx512knl) ∧
      (isa = .avx2vnni → cpu.has .avxVnni) := by
  unfold runs
  split
  · next lineage => simp [lineage]
  · next other =>
      split
      · next knights =>
          rw [has_avxVnni_iff, knights]
          rw [knights] at below
          revert below other
          cases isa <;> decide
      · split
        · next feature => simp [feature]
        · next ranked => simp [other, ranked, below]

theorem baseline_maxIsa (isa : Isa) (arch : Arch) : (baseline isa arch).maxIsa = isa := by
  cases isa <;> cases arch <;> rfl

theorem executes_iff_runs {cpu : Cpu} {isa : Isa} {arch : Arch} (x86 : arch.family = .x86)
    (family : cpu.family = .x86) (same : isa.family = .x86) :
    cpu.executes isa arch ↔ cpu.runs isa := by
  have other : arch ≠ .aarch64 := by
    rintro rfl
    cases x86
  simp [executes, family, same, x86, other]

theorem baseline_executes {isa : Isa} {arch : Arch} (family : isa.family = arch.family) :
    (baseline isa arch).executes isa arch := by
  revert family
  cases isa <;> cases arch <;> decide

end Cpu

namespace Host

variable {host : Host} {arch : Arch} {cpu : Cpu}

theorem nativeCpu?_eq_some_iff : host.nativeCpu? arch = some cpu ↔
    ∃ best ∈ host.isas, best.family = arch.family ∧
      (∀ isa ∈ host.isas, isa.family = arch.family → isa ≤ best) ∧
      cpu = Cpu.baseline best arch := by
  rw [nativeCpu?, Option.map_eq_some_iff]
  simp only [Isa.best?_eq_some_iff, List.mem_filter, decide_eq_true_eq]
  constructor
  · rintro ⟨best, ⟨⟨listed, family⟩, strongest⟩, rfl⟩
    exact ⟨best, listed, family, fun isa member same => strongest isa ⟨member, same⟩, rfl⟩
  · rintro ⟨best, listed, family, strongest, rfl⟩
    exact ⟨best, ⟨⟨listed, family⟩, fun isa member => strongest isa member.1 member.2⟩, rfl⟩

theorem nativeCpu?_eq_none_iff :
    host.nativeCpu? arch = none ↔ ∀ isa ∈ host.isas, isa.family ≠ arch.family := by
  rw [nativeCpu?, Option.map_eq_none_iff, Isa.best?_eq_none_iff, List.filter_eq_nil_iff]
  simp

end Host

end Lanewise
