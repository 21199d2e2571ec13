import Lanewise.Proofs.Document.Codec
import Lanewise.Proofs.Names

namespace Lanewise

variable {σ α : Type} {format : DocumentFormat}

namespace Field

def copy (field : Field σ) (source structure' : σ) : σ :=
  (field.entry source).elim structure' fun document =>
    (field.store .toml document structure').toOption.getD structure'

structure Lawful (field : Field σ) : Prop where
  isPlain_entry : ∀ {source written}, field.entry source = some written → written.isPlain
  store_similar : ∀ {source written document}, field.entry source = some written →
    written.Similar document → ∀ format structure',
      field.store format document structure' = .ok (field.copy source structure')

section

variable {key : String} {codec : Codec α}

@[simp] theorem key_of {get : σ → α} {set : α → σ → σ} : (of key codec get set).key = key := rfl

@[simp] theorem key_omitted {get : σ → Option α} {set : Option α → σ → σ} :
    (omitted key codec get set).key = key := rfl

variable [LawfulCodec codec]

@[simp] theorem copy_of {get : σ → α} {set : α → σ → σ} {source structure' : σ} :
    (of key codec get set).copy source structure' = set (get source) structure' := by
  simp [copy, of, Codec.read_write, Except.map, Except.toOption]

@[simp] theorem lawful_of {get : σ → α} {set : α → σ → σ} : (of key codec get set).Lawful where
  isPlain_entry := by
    rintro source _ ⟨⟩
    exact LawfulCodec.isPlain_write _
  store_similar := by
    rintro source _ document ⟨⟩ similar format structure'
    rw [copy_of]
    simp [of, LawfulCodec.read_similar format (get source) document similar, Except.map]

theorem nullable_read_write (codec : Codec α) [LawfulCodec codec] {value : α}
    {document : Document} (similar : (codec.write value).Similar document)
    (format : DocumentFormat) : codec.nullable.read format document = .ok (some value) := by
  have read := LawfulCodec.read_similar format value document similar
  generalize codec.write value = written at similar
  cases similar <;> simp [Codec.nullable, read, Except.map]

@[simp] theorem copy_omitted {get : σ → Option α} {set : Option α → σ → σ}
    {source structure' : σ} :
    (omitted key codec get set).copy source structure' =
      (get source).elim structure' fun value => set (some value) structure' := by
  cases found : get source with
  | none => simp [copy, omitted, found]
  | some value =>
      have plain : (codec.write value).isPlain := LawfulCodec.isPlain_write value
      have similar := Document.similar_self _ plain
      simp [copy, omitted, nullable, of, found, nullable_read_write codec similar, Except.map,
        Except.toOption]

@[simp] theorem lawful_omitted {get : σ → Option α} {set : Option α → σ → σ} :
    (omitted key codec get set).Lawful where
  isPlain_entry := by
    intro source written found
    obtain ⟨value, -, rfl⟩ := Option.map_eq_some_iff.1 found
    exact LawfulCodec.isPlain_write value
  store_similar := by
    intro source written document found similar format structure'
    obtain ⟨value, given, rfl⟩ := Option.map_eq_some_iff.1 found
    rw [copy_omitted, given]
    simp [omitted, nullable, of, nullable_read_write codec similar, Except.map]

end

end Field

/-- What there is to check of a record, so that it reads back what it writes. -/
class LawfulRecord (record : Record σ) : Prop where
  keys_nodup : (record.fields.map (·.key)).Nodup
  lawful : ∀ field ∈ record.fields, field.Lawful
  rebuilds : ∀ source,
    record.fields.foldl (fun structure' field => field.copy source structure') record.base = source
  complete : record.isStrict → ∀ field ∈ record.fields, ∀ source, (field.entry source).isSome

namespace Record

variable {record : Record σ} {fields : List (Field σ)}
  {entries others : List (String × Document)}

theorem field?_eq_some (keys_nodup : (record.fields.map (·.key)).Nodup) {field : Field σ}
    (listed : field ∈ record.fields) : record.field? field.key = some field := by
  have apart : (record.fields.flatMap fun field => [field.key]).Nodup := by
    rwa [← List.map_eq_flatMap]
  have answers_iff (other : Field σ) : other.key == field.key ↔ field.key ∈ [other.key] := by
    rw [beq_iff_eq, List.mem_singleton, eq_comm]
  exact (find?_eq_some_iff_of_apart apart answers_iff).2 ⟨listed, List.mem_singleton_self _⟩

theorem isSome_field? (record : Record σ) (key : String) :
    (record.field? key).isSome = (record.fields.map (·.key)).contains key := by
  rw [Bool.eq_iff_iff, field?, List.find?_isSome, List.contains_iff_mem, List.mem_map]
  simp

theorem foldlM_known (record : Record σ) (format : DocumentFormat)
    (entries : List (String × Document)) (structure' : σ) :
    entries.foldlM (record.storeEntry format) structure' =
      (entries.filter fun entry => (record.field? entry.1).isSome).foldlM
        (record.storeEntry format) structure' := by
  induction entries generalizing structure' with
  | nil => rfl
  | cons entry entries ih =>
      cases known : record.field? entry.1 with
      | none =>
          rw [List.filter_cons_of_neg (by simp [known]), List.foldlM_cons, storeEntry, known]
          exact ih structure'
      | some field =>
          rw [List.filter_cons_of_pos (by simp [known]), List.foldlM_cons, List.foldlM_cons]
          exact congrArg _ (funext ih)

def written (fields : List (Field σ)) (source : σ) : List (String × Document) :=
  fields.filterMap fun field => (field.entry source).map (field.key, ·)

theorem foldlM_storeEntry (format : DocumentFormat)
    (known : ∀ field ∈ fields, record.field? field.key = some field)
    (lawful : ∀ field ∈ fields, field.Lawful) {source : σ}
    (similar : Document.SimilarEntries (written fields source) entries) (structure' : σ) :
    entries.foldlM (record.storeEntry format) structure' =
      .ok (fields.foldl (fun structure' field => field.copy source structure') structure') := by
  induction fields generalizing entries structure' with
  | nil =>
      cases similar
      rfl
  | cons field fields ih =>
      have known_later := fun other listed => known other (List.mem_cons_of_mem _ listed)
      have lawful_later := fun other listed => lawful other (List.mem_cons_of_mem _ listed)
      cases found : field.entry source with
      | none =>
          rw [written, List.filterMap_cons_none (by simp [found])] at similar
          rw [ih known_later lawful_later similar, List.foldl_cons, Field.copy, found,
            Option.elim_none]
      | some document =>
          rw [written, List.filterMap_cons_some (by rw [found, Option.map_some])] at similar
          cases similar with
          | cons _ first rest =>
              have stored := (lawful field List.mem_cons_self).store_similar found first
              rw [List.foldlM_cons, storeEntry, known field List.mem_cons_self]
              simp only [stored, ok_bind, List.foldl_cons]
              exact ih known_later lawful_later rest _

theorem any_similar (similar : Document.SimilarEntries entries others) (key : String) :
    others.any (·.1 == key) = entries.any (·.1 == key) := by
  induction entries generalizing others with
  | nil =>
      cases similar
      rfl
  | cons entry entries ih =>
      cases similar with
      | cons _ _ rest => rw [List.any_cons, List.any_cons, ih rest]

theorem missing?_eq_none [lawful : LawfulRecord record] {source : σ}
    (similar : Document.SimilarEntries (record.entries source) others) :
    record.missing? others = none := by
  unfold missing?
  split
  · rename_i strict
    refine List.find?_eq_none.2 fun field listed => ?_
    obtain ⟨document, found⟩ :=
      Option.isSome_iff_exists.1 (lawful.complete strict field listed source)
    have given : (record.entries source).any (·.1 == field.key) := by
      refine List.any_eq_true.2 ⟨(field.key, document), ?_, beq_self_eq_true _⟩
      exact List.mem_filterMap.2 ⟨field, listed, by rw [found, Option.map_some]⟩
    simp [any_similar similar, given]
  · rfl

instance [lawful : LawfulRecord record] : LawfulCodec record.codec where
  isPlain_write source := by
    refine Document.entriesPlain_iff.2 fun entry listed => ?_
    obtain ⟨field, member, written⟩ := List.mem_filterMap.1 listed
    obtain ⟨document, found, rfl⟩ := Option.map_eq_some_iff.1 written
    exact (lawful.lawful field member).isPlain_entry found
  read_similar format source document similar := by
    cases similar with
    | map similar =>
        have stored := foldlM_storeEntry format
          (fun field listed => field?_eq_some lawful.keys_nodup listed) lawful.lawful similar
          record.base
        simp only [codec, read, readMap, stored, ok_bind, missing?_eq_none similar,
          lawful.rebuilds]
        rfl

end Record

end Lanewise
