import Lanewise.Proofs.Document.Record
import Lanewise.Proofs.Toml.RoundTrip

namespace Lanewise

variable {σ α : Type} {codec : Codec α}

class ScalarCodec (codec : Codec α) : Prop where
  isScalar_write : ∀ value, (codec.write value).isScalar

class FlatCodec (codec : Codec α) : Prop where
  isFlat_write : ∀ value, (codec.write value).isFlat

theorem isFlat_of_isScalar {document : Document} (scalar : document.isScalar) :
    document.isFlat := by
  cases document with
  | seq items => cases scalar
  | _ => exact scalar

instance : ScalarCodec Codec.bool := ⟨fun _ => rfl⟩
instance : ScalarCodec Codec.text := ⟨fun _ => rfl⟩
instance : ScalarCodec Codec.path := ⟨fun _ => rfl⟩
instance : ScalarCodec Codec.word := ⟨Document.isPlain_word⟩
instance : ScalarCodec Codec.vectorTarget := ⟨fun _ => rfl⟩
instance [Keyword α] : ScalarCodec (Codec.keyword (α := α)) := ⟨fun _ => rfl⟩

instance [scalar : ScalarCodec codec] : FlatCodec codec :=
  ⟨fun value => isFlat_of_isScalar (scalar.isScalar_write value)⟩

instance [scalar : ScalarCodec codec] : FlatCodec codec.list where
  isFlat_write values := by
    refine List.all_eq_true.2 fun document listed => ?_
    obtain ⟨value, -, rfl⟩ := List.mem_map.1 listed
    exact scalar.isScalar_write value

def Field.IsFlat (field : Field σ) : Prop :=
  ∀ source document, field.entry source = some document → document.isFlat

section

variable [flat : FlatCodec codec] {key : String}

@[simp] theorem Field.isFlat_of {get : σ → α} {set : α → σ → σ} :
    (Field.of key codec get set).IsFlat := by
  rintro source _ ⟨⟩
  exact flat.isFlat_write _

@[simp] theorem Field.isFlat_omitted {get : σ → Option α} {set : Option α → σ → σ} :
    (Field.omitted key codec get set).IsFlat := by
  intro source document found
  obtain ⟨value, -, rfl⟩ := Option.map_eq_some_iff.1 found
  exact flat.isFlat_write value

end

class FlatRecord (record : Record σ) : Prop where
  bare : record.fields.all fun field => Toml.isBareKey field.key
  flat : ∀ field ∈ record.fields, field.IsFlat

namespace Toml

variable {fields : List (Field σ)} {record : Record σ} {key : String}

theorem isLine_written (bare : ∀ field ∈ fields, isBareKey field.key)
    (flat : ∀ field ∈ fields, field.IsFlat) (source : σ) :
    ∀ entry ∈ Record.written fields source, isLine entry := by
  intro entry listed
  obtain ⟨field, member, found⟩ := List.mem_filterMap.1 listed
  obtain ⟨document, given, rfl⟩ := Option.map_eq_some_iff.1 found
  exact Bool.and_eq_true_iff.2 ⟨bare field member, flat field member source document given⟩

theorem isLine_entries (record : Record σ) [flat : FlatRecord record] (source : σ) :
    ∀ entry ∈ record.entries source, isLine entry :=
  isLine_written (List.all_eq_true.1 flat.bare) flat.flat source

theorem written_sublist (fields : List (Field σ)) (source : σ) :
    ((Record.written fields source).map (·.1)).Sublist (fields.map (·.key)) := by
  induction fields with
  | nil => exact .slnil
  | cons field fields ih =>
      cases found : field.entry source with
      | none =>
          rw [Record.written, List.filterMap_cons_none (by rw [found, Option.map_none])]
          exact ih.cons _
      | some document =>
          rw [Record.written, List.filterMap_cons_some (by rw [found, Option.map_some])]
          exact ih.cons_cons _

theorem entries_nodup (record : Record σ) [lawful : LawfulRecord record] (source : σ) :
    ((record.entries source).map (·.1)).Nodup :=
  (written_sublist record.fields source).nodup lawful.keys_nodup

def recordOutline (key : String) (record : Record σ) (source : σ) : Outline :=
  ⟨key, record.entries source, []⟩

theorem fine_recordOutline (bare : isBareKey key) (record : Record σ) [LawfulRecord record]
    [FlatRecord record] (source : σ) : (recordOutline key record source).Fine where
  key := bare
  lines := isLine_entries record source
  lists := by simp [recordOutline]
  elements := by simp [recordOutline]
  apart := by simpa [recordOutline] using entries_nodup record source

end Toml

end Lanewise
