import Lanewise.Proofs.Except
import Lanewise.Proofs.Text.Stem
import Lanewise.Proofs.Text.Trim
import Lanewise.TargetFault

namespace Lanewise

open Text (startsWith)

variable {isa : Isa} {target target' : VectorTarget} {text other : String}

namespace Isa

theorem targetStems_apart : (all.flatMap fun isa => [isa.targetStem]).Nodup := by decide

theorem find?_targetStem_eq_some_iff :
    all.find? (·.targetStem == text) = some isa ↔ isa.targetStem = text := by
  have answers_iff (isa : Isa) : isa.targetStem == text ↔ text ∈ [isa.targetStem] := by
    rw [beq_iff_eq, List.mem_singleton, eq_comm]
  rw [find?_eq_some_iff_of_apart targetStems_apart answers_iff, List.mem_singleton, eq_comm]
  exact and_iff_right (mem_all isa)

theorem targetStem_injective : Function.Injective targetStem := by
  let withStem? (text : String) : Option Isa := all.find? (·.targetStem == text)
  have found (isa : Isa) : withStem? isa.targetStem = some isa :=
    find?_targetStem_eq_some_iff.2 rfl
  exact injective_of_found found

theorem dash_not_mem_targetStem (isa : Isa) : '-' ∉ isa.targetStem.toList := by
  cases isa <;> decide

end Isa

namespace VectorTarget

theorem mem_all (target : VectorTarget) : target ∈ all :=
  List.mem_map.2 ⟨⟨_, target.supported⟩, List.mem_attach _ _, rfl⟩

theorem ofName?_name (target : VectorTarget) : ofName? target.name = some target := by
  have listed : ∀ target ∈ all, ofName? target.name = some target := by decide +kernel
  exact listed target target.mem_all

theorem name_injective : Function.Injective VectorTarget.name := injective_of_found ofName?_name

theorem not_startsWith_older (target : VectorTarget) : ¬startsWith target.name "sse4-" := by
  have apart : ∀ isa : Isa, Text.diverge (isa.targetStem ++ "-") "sse4-" := by
    intro isa
    cases isa <;> decide
  have stem : startsWith target.name (target.isa.targetStem ++ "-") := Text.startsWith_append _ _
  exact fun older => Text.not_both_of_diverge (apart target.isa) ⟨stem, older⟩

theorem lookup?_eq_some_iff : lookup? text = some target ↔ target.name = text := by
  constructor
  · intro found
    simpa using List.find?_some found
  · rintro rfl
    obtain ⟨found, looked⟩ : ∃ found, lookup? target.name = some found :=
      Option.isSome_iff_exists.1 (List.find?_isSome.2 ⟨target, target.mem_all, by simp⟩)
    have same : found.name = target.name := by simpa using List.find?_some looked
    rw [looked, name_injective same]

theorem olderSpelling?_eq_some_iff : olderSpelling? text = some target ↔
    ∃ shape, text = "sse4-" ++ shape ∧ target.name = "sse4.2-" ++ shape := by
  simp only [olderSpelling?, Option.bind_eq_some_iff, Text.afterStem?_eq_some_iff,
    lookup?_eq_some_iff]

theorem bareStem?_eq_some_iff : bareStem? text = some target ↔
    ∃ isa : Isa, isa.targetStem = text ∧ isa.defaultTarget = target := by
  simp only [bareStem?, Option.map_eq_some_iff, Isa.find?_targetStem_eq_some_iff]

end VectorTarget

inductive NameForm where
  | listed
  | older
  | bare
  deriving DecidableEq, Repr

namespace NameForm

variable {form form' : NameForm}

/-- What a name means: the target of that name, the target of a name in the older spelling of the
SSE4.2 targets, or the default target of the instruction set whose stem is the whole name. -/
def Names : NameForm → String → VectorTarget → Prop
  | listed, name, target => target.name = name
  | older, name, target => ∃ shape, name = "sse4-" ++ shape ∧ target.name = "sse4.2-" ++ shape
  | bare, name, target => ∃ isa : Isa, isa.targetStem = name ∧ isa.defaultTarget = target

theorem Names.told (names : form.Names text target) :
    (form = .bare ↔ '-' ∉ text.toList) ∧ (form = .older ↔ startsWith text "sse4-") := by
  cases form with
  | listed =>
      obtain rfl := names
      have dash : '-' ∈ target.name.toList := by simp [VectorTarget.name]
      simp [target.not_startsWith_older, dash]
  | older =>
      obtain ⟨shape, rfl, -⟩ := names
      simp [Text.startsWith_append]
  | bare =>
      obtain ⟨isa, rfl, -⟩ := names
      have dash := isa.dash_not_mem_targetStem
      have older : ¬startsWith isa.targetStem "sse4-" := fun begins =>
        dash ((Text.startsWith_iff.1 begins).subset (by decide))
      simp [older, dash]

theorem Names.unique (names : form.Names text target) (names' : form'.Names text target') :
    form = form' ∧ target = target' := by
  obtain ⟨bare, older⟩ := names.told
  obtain ⟨bare', older'⟩ := names'.told
  obtain rfl : form = form' := by
    cases form <;> cases form' <;> simp_all
  refine ⟨rfl, ?_⟩
  cases form with
  | listed => exact VectorTarget.name_injective (names.trans names'.symm)
  | older =>
      obtain ⟨shape, rfl, named⟩ := names
      obtain ⟨shape', split, named'⟩ := names'
      have shapes : shape = shape' := by simpa using split
      exact VectorTarget.name_injective (named.trans (shapes ▸ named'.symm))
  | bare =>
      obtain ⟨isa, rfl, rfl⟩ := names
      obtain ⟨isa', stem, rfl⟩ := names'
      rw [Isa.targetStem_injective stem]

end NameForm

namespace VectorTarget

theorem ofName?_eq_some_iff :
    ofName? text = some target ↔ ∃ form : NameForm, form.Names (canonical text) target := by
  have names_of_some {found : VectorTarget} (looked : ofName? text = some found) :
      ∃ form : NameForm, form.Names (canonical text) found := by
    simp only [ofName?, Option.orElse_eq_orElse, Option.orElse_eq_or, Option.or_eq_some_iff,
      lookup?_eq_some_iff, olderSpelling?_eq_some_iff, bareStem?_eq_some_iff] at looked
    rcases looked with listed | ⟨-, older | ⟨-, bare⟩⟩
    · exact ⟨.listed, listed⟩
    · exact ⟨.older, older⟩
    · exact ⟨.bare, bare⟩
  refine ⟨names_of_some, ?_⟩
  rintro ⟨form, names⟩
  cases looked : ofName? text with
  | some found =>
      obtain ⟨form', names'⟩ := names_of_some looked
      rw [(names.unique names').2]
  | none =>
      simp only [ofName?, Option.orElse_eq_orElse, Option.orElse_eq_or,
        Option.or_eq_none_iff] at looked
      obtain ⟨listed, older, bare⟩ := looked
      cases form with
      | listed => cases listed.symm.trans (lookup?_eq_some_iff.2 names)
      | older => cases older.symm.trans (olderSpelling?_eq_some_iff.2 names)
      | bare => cases bare.symm.trans (bareStem?_eq_some_iff.2 names)

theorem ofName?_eq_none_iff : ofName? text = none ↔
    ∀ (form : NameForm) target, ¬form.Names (canonical text) target := by
  simp only [Option.eq_none_iff_forall_ne_some, Ne, ofName?_eq_some_iff, not_exists]
  exact forall_comm

theorem canonical_eq (text : String) :
    canonical text = String.ofList (Text.trim (Text.lower text).toList) := by
  simp only [canonical, Text.lower, String.toList_ofList, Text.trim_map_toLower]

theorem canonical_congr (same : Text.sameLetters text other) :
    canonical text = canonical other := by
  rw [Text.sameLetters, beq_iff_eq] at same
  rw [canonical_eq, canonical_eq, same]

theorem canonical_surrounded {before after : String}
    (blank : ∀ c ∈ before.toList ++ after.toList, Text.isBlank c) (text : String) :
    canonical (before ++ text ++ after) = canonical text := by
  obtain ⟨leading, trailing⟩ := List.forall_mem_append.1 blank
  simp only [canonical, String.toList_append, Text.trim_surrounded leading trailing]

theorem ofName?_congr (same : canonical text = canonical other) : ofName? text = ofName? other := by
  simp only [ofName?, same]

theorem isa_defaultTarget (isa : Isa) : isa.defaultTarget.isa = isa := by
  cases isa <;> rfl

theorem targetStem_of_ofName? (dashless : '-' ∉ (canonical text).toList)
    (named : ofName? text = some target) : target.isa.targetStem = canonical text := by
  obtain ⟨form, names⟩ := ofName?_eq_some_iff.1 named
  obtain rfl : form = .bare := names.told.1.2 dashless
  obtain ⟨isa, stem, rfl⟩ := names
  rw [isa_defaultTarget, stem]

theorem isa_of_answersTo (answers : isa.answersTo text) (named : ofName? text = some target) :
    target.isa = isa := by
  rw [Isa.answersTo, Bool.or_eq_true, beq_iff_eq] at answers
  rcases answers with display | rfl
  · have dashless : ∀ isa : Isa, '-' ∉ (canonical isa.displayName).toList := by
      intro isa
      cases isa <;> decide
    -- A display name in small letters is the stem of its own set or of none.
    have own : ∀ isa ∈ Isa.all,
        ∀ found ∈ Isa.all.find? (·.targetStem == canonical isa.displayName), found = isa := by
      decide +kernel
    have spelled := canonical_congr display
    have stem := targetStem_of_ofName? (spelled ▸ dashless isa) named
    rw [← spelled] at stem
    exact own isa isa.mem_all _ (Isa.find?_targetStem_eq_some_iff.2 stem)
  · have kept : ∀ isa : Isa, canonical isa.targetStem = isa.targetStem := by
      intro isa
      cases isa <;> decide
    have dashless := isa.dash_not_mem_targetStem
    rw [← kept isa] at dashless
    exact Isa.targetStem_injective ((targetStem_of_ofName? dashless named).trans (kept isa))

theorem parse_decided (text : String) :
    (∃ core, Text.IsCore core.toList text.toList ∧ canonical text = Text.lower core) ∧
    (∀ target, parse text = .ok target ↔
      ∃ form : NameForm, form.Names (canonical text) target) ∧
    (∀ (form form' : NameForm) target target', form.Names (canonical text) target →
      form'.Names (canonical text) target' → form = form' ∧ target = target') ∧
    (∀ failure, parse text = .error failure ↔
      (∀ (form : NameForm) target, ¬form.Names (canonical text) target) ∧
        failure = .unknownTarget text) ∧
    (∀ before core after : String, (∀ c ∈ before.toList ++ after.toList, Text.isBlank c) →
      Text.sameLetters core text →
      ∀ target, parse (before ++ core ++ after) = .ok target ↔ parse text = .ok target) ∧
    (∀ target : VectorTarget, parse target.name = .ok target) ∧
    ∀ isa isa', Isa.parse text = .ok isa → Isa.ofTarget text = .ok isa' → isa = isa' := by
  refine ⟨⟨String.ofList (Text.trim text.toList), ?_, rfl⟩, fun target => ?_,
    fun _ _ _ _ names names' => names.unique names', fun failure => ?_, ?_, fun target => ?_, ?_⟩
  · rw [String.toList_ofList]
    exact Text.trim_eq_iff.1 rfl
  · exact orFail_eq_ok.trans ofName?_eq_some_iff
  · rw [parse, orFail_eq_error, ofName?_eq_none_iff]
    exact and_congr_right' eq_comm
  · intro before core after blank same target
    have read := (canonical_surrounded blank core).trans (canonical_congr same)
    rw [parse, parse, orFail_eq_ok, orFail_eq_ok, ofName?_congr read]
  · exact orFail_eq_ok.2 (ofName?_name target)
  · intro isa isa' read read'
    obtain ⟨target, named, rfl⟩ := map_eq_ok.1 read'
    have answers : isa.answersTo text := by
      simpa using List.find?_some (orFail_eq_ok.1 read)
    exact (isa_of_answersTo answers (orFail_eq_ok.1 named)).symm

example : parse " SSE4-i32x8\n" = .ok { isa := .sse42, elementBits := 32, lanes := 8 } := by
  decide +kernel

end VectorTarget

end Lanewise
