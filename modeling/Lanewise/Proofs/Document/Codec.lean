import Lanewise.Document.Settings
import Lanewise.Document.Target
import Lanewise.Proofs.Except
import Lanewise.Proofs.VectorTarget

/-!
# What a codec writes it reads

A document that is written and read again may come back with its lists of maps as sections. A codec
is lawful when it writes plain documents and reads each of its values from every form that the
written one may come back in.
-/

namespace Lanewise

namespace Document

mutual

def isPlain : Document → Bool
  | .bool _ | .text _ => true
  | .int value => 0 ≤ value && value < UInt32.size
  | .seq items => allPlain items
  | .map entries => entriesPlain entries
  | _ => false

def allPlain : List Document → Bool
  | [] => true
  | item :: rest => item.isPlain && allPlain rest

def entriesPlain : List (String × Document) → Bool
  | [] => true
  | (_, value) :: rest => value.isPlain && entriesPlain rest

end

theorem allPlain_iff {items : List Document} : allPlain items ↔ ∀ item ∈ items, item.isPlain := by
  induction items with
  | nil => simp [allPlain]
  | cons item items ih => simp [allPlain, ih]

theorem entriesPlain_iff {entries : List (String × Document)} :
    entriesPlain entries ↔ ∀ entry ∈ entries, entry.2.isPlain := by
  induction entries with
  | nil => simp [entriesPlain]
  | cons entry entries ih => simp [entriesPlain, ih]

theorem isPlain_word (n : UInt32) : (word n).isPlain := by
  simp only [word, nat, isPlain, Bool.and_eq_true, decide_eq_true_eq]
  exact ⟨Int.natCast_nonneg _, Int.ofNat_lt.2 n.toNat_lt_size⟩

mutual

/-- Documents that differ at most in that lists of maps stand as sections. -/
inductive Similar : Document → Document → Prop
  | bool (value : Bool) : Similar (.bool value) (.bool value)
  | int (value : Int) : Similar (.int value) (.int value)
  | text (value : String) : Similar (.text value) (.text value)
  | seq {items again : List Document} (similar : SimilarItems items again) :
      Similar (.seq items) (.seq again)
  | sections {items again : List Document} (similar : SimilarItems items again) :
      Similar (.seq items) (.sections again)
  | map {entries again : List (String × Document)} (similar : SimilarEntries entries again) :
      Similar (.map entries) (.map again)

inductive SimilarItems : List Document → List Document → Prop
  | nil : SimilarItems [] []
  | cons {item again : Document} {items others : List Document} (first : Similar item again)
      (rest : SimilarItems items others) : SimilarItems (item :: items) (again :: others)

inductive SimilarEntries : List (String × Document) → List (String × Document) → Prop
  | nil : SimilarEntries [] []
  | cons {value again : Document} {entries others : List (String × Document)} (key : String)
      (first : Similar value again) (rest : SimilarEntries entries others) :
      SimilarEntries ((key, value) :: entries) ((key, again) :: others)

end

mutual

theorem similar_self : ∀ document : Document, document.isPlain → document.Similar document
  | .bool value, _ => .bool value
  | .int value, _ => .int value
  | .text value, _ => .text value
  | .seq items, plain => .seq (similarItems_self items plain)
  | .map entries, plain => .map (similarEntries_self entries plain)

theorem similarItems_self : ∀ items : List Document, allPlain items → SimilarItems items items
  | [], _ => .nil
  | item :: rest, plain => by
      obtain ⟨first, later⟩ := Bool.and_eq_true_iff.1 plain
      exact .cons (similar_self item first) (similarItems_self rest later)

theorem similarEntries_self : ∀ entries : List (String × Document), entriesPlain entries →
    SimilarEntries entries entries
  | [], _ => .nil
  | (key, value) :: rest, plain => by
      obtain ⟨first, later⟩ := Bool.and_eq_true_iff.1 plain
      exact .cons key (similar_self value first) (similarEntries_self rest later)

end

theorem similarItems_map {ι : Type} {items : List ι} {value again : ι → Document}
    (similar : ∀ item ∈ items, (value item).Similar (again item)) :
    SimilarItems (items.map value) (items.map again) := by
  induction items with
  | nil => exact .nil
  | cons item items ih =>
      exact .cons (similar item List.mem_cons_self)
        (ih fun item listed => similar item (List.mem_cons_of_mem _ listed))

theorem similarEntries_map {ι : Type} {items : List ι} {value again : ι → Document}
    (key : ι → String) (similar : ∀ item ∈ items, (value item).Similar (again item)) :
    SimilarEntries (items.map fun item => (key item, value item))
      (items.map fun item => (key item, again item)) := by
  induction items with
  | nil => exact .nil
  | cons item items ih =>
      exact .cons _ (similar item List.mem_cons_self)
        (ih fun item listed => similar item (List.mem_cons_of_mem _ listed))

theorem similarEntries_append {entries again others others' : List (String × Document)}
    (first : SimilarEntries entries again) (rest : SimilarEntries others others') :
    SimilarEntries (entries ++ others) (again ++ others') := by
  induction entries generalizing again with
  | nil =>
      cases first
      exact rest
  | cons entry entries ih =>
      cases first with
      | cons key first later => exact .cons key first (ih later)

end Document

class LawfulKeyword (α : Type) [Keyword α] : Prop where
  ofWord?_word : ∀ value : α, Keyword.ofWord? (Keyword.word value) = some value

instance : LawfulKeyword Arch := ⟨fun value => by cases value <;> decide⟩
instance : LawfulKeyword Os := ⟨fun value => by cases value <;> decide⟩
instance : LawfulKeyword PicLevel := ⟨fun value => by cases value <;> decide⟩
instance : LawfulKeyword CodeModel := ⟨fun value => by cases value <;> decide⟩
instance : LawfulKeyword CallingConv := ⟨fun value => by cases value <;> decide⟩
instance : LawfulKeyword OptLevel := ⟨fun value => by cases value <;> decide⟩
instance : LawfulKeyword MathLib := ⟨fun value => by cases value <;> decide⟩
instance : LawfulKeyword CodegenOptLevel := ⟨fun value => by cases value <;> decide⟩
instance : LawfulKeyword SignedOverflow := ⟨fun value => by cases value <;> decide⟩
instance : LawfulKeyword DebugInfo := ⟨fun value => by cases value <;> decide⟩
instance : LawfulKeyword AstDump := ⟨fun value => by cases value <;> decide⟩

class LawfulCodec {α : Type} (codec : Codec α) : Prop where
  isPlain_write : ∀ value, (codec.write value).isPlain
  read_similar : ∀ format value document, (codec.write value).Similar document →
    codec.read format document = .ok value

namespace Codec

variable {α : Type} {format : DocumentFormat}

theorem read_write (codec : Codec α) [LawfulCodec codec] (format : DocumentFormat) (value : α) :
    codec.read format (codec.write value) = .ok value :=
  LawfulCodec.read_similar format value _
    (Document.similar_self _ (LawfulCodec.isPlain_write value))

instance : LawfulCodec bool where
  isPlain_write _ := rfl
  read_similar format value document similar := by
    cases similar
    rfl

instance (expected : String) : LawfulCodec (textAs expected) where
  isPlain_write _ := rfl
  read_similar format value document similar := by
    cases similar
    rfl

instance : LawfulCodec text := inferInstanceAs (LawfulCodec (textAs _))

instance : LawfulCodec path := inferInstanceAs (LawfulCodec (textAs _))

theorem wordOfInt?_toNat (value : UInt32) : wordOfInt? (value.toNat : Int) = some value := by
  have below : value.toNat < UInt32.size := value.toNat_lt_size
  simp [wordOfInt?, Text.word?, below]

instance : LawfulCodec word where
  isPlain_write := Document.isPlain_word
  read_similar format value document similar := by
    cases similar
    exact orFail_eq_ok.2 (wordOfInt?_toNat value)

instance [Keyword α] [LawfulKeyword α] : LawfulCodec (keyword (α := α)) where
  isPlain_write _ := rfl
  read_similar format value document similar := by
    cases similar
    exact orFail_eq_ok.2 (LawfulKeyword.ofWord?_word value)

instance : LawfulCodec vectorTarget where
  isPlain_write _ := rfl
  read_similar format value document similar := by
    cases similar
    have parsed : VectorTarget.parse value.name = .ok value :=
      orFail_eq_ok.2 value.ofName?_name
    simp only [vectorTarget, text, textAs, ok_bind, parsed, mapError_ok]

theorem mapM_read_similar (item : Codec α) [LawfulCodec item] {values : List α}
    {documents : List Document}
    (similar : Document.SimilarItems (values.map item.write) documents) :
    documents.mapM (item.read format) = .ok values := by
  induction values generalizing documents with
  | nil =>
      cases similar
      rfl
  | cons value values ih =>
      cases similar with
      | cons first rest =>
          rw [List.mapM_cons, LawfulCodec.read_similar format value _ first, ih rest]
          rfl

instance (item : Codec α) [LawfulCodec item] : LawfulCodec (list item) where
  isPlain_write values := by
    refine Document.allPlain_iff.2 fun document listed => ?_
    obtain ⟨value, -, rfl⟩ := List.mem_map.1 listed
    exact LawfulCodec.isPlain_write value
  read_similar format values document similar := by
    cases similar with
    | seq similar => exact mapM_read_similar item similar
    | sections similar => exact mapM_read_similar item similar

end Codec

end Lanewise
