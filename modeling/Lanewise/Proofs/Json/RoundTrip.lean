import Lanewise.Proofs.Json.Lists
import Lanewise.Proofs.Names
import Mathlib.Data.List.Perm.Basic

open Lanewise.Parser

namespace Lanewise

namespace Document

variable {items : List Document} {entries : List (String × Document)} {depth : Nat}

mutual

/-- Whether a document can be read back: no number in it is a floating-point one or needs more than
64 bits, and its lists and maps lie inside one another only so deep. -/
def isReadable : Document → Nat → Bool
  | .null, _ | .bool _, _ | .text _, _ | .moment, _ => true
  | .int value, _ => Json.fitsInteger value
  | .float _, _ => false
  | .seq items, depth + 1 | .sections items, depth + 1 => allReadable items depth
  | .map entries, depth + 1 => entriesReadable entries depth
  | .seq _, 0 | .sections _, 0 | .map _, 0 => false

def allReadable : List Document → Nat → Bool
  | [], _ => true
  | item :: rest, depth => item.isReadable depth && allReadable rest depth

def entriesReadable : List (String × Document) → Nat → Bool
  | [], _ => true
  | (_, value) :: rest, depth => value.isReadable depth && entriesReadable rest depth

end

mutual

def readBack : Document → Document
  | .null | .moment => .null
  | .bool value => .bool value
  | .int value => .int value
  | .float bits => .float bits
  | .text value => .text value
  | .seq items | .sections items => .seq (itemsBack items)
  | .map entries => .map (Json.sortEntries (entriesBack entries))

def itemsBack : List Document → List Document
  | [] => []
  | item :: rest => item.readBack :: itemsBack rest

def entriesBack : List (String × Document) → List (String × Document)
  | [] => []
  | (key, value) :: rest => (key, value.readBack) :: entriesBack rest

end

theorem itemsBack_eq (items : List Document) : itemsBack items = items.map readBack := by
  induction items with
  | nil => rfl
  | cons item items ih => rw [itemsBack, ih, List.map_cons]

theorem entriesBack_eq (entries : List (String × Document)) :
    entriesBack entries = entries.map fun entry => (entry.1, entry.2.readBack) := by
  induction entries with
  | nil => rfl
  | cons entry entries ih => rw [entriesBack, ih, List.map_cons]

theorem allReadable_iff : allReadable items depth ↔ ∀ item ∈ items, item.isReadable depth := by
  induction items with
  | nil => simp [allReadable]
  | cons item items ih => simp [allReadable, ih]

theorem entriesReadable_iff :
    entriesReadable entries depth ↔ ∀ entry ∈ entries, entry.2.isReadable depth := by
  induction entries with
  | nil => simp [entriesReadable]
  | cons entry entries ih => simp [entriesReadable, ih]

/-! ## Entries -/

theorem find?_sortEntries {key : String} (apart : (entries.map (·.1)).Nodup) :
    (Json.sortEntries entries).find? (·.1 == key) = entries.find? (·.1 == key) := by
  -- Without repeated keys nothing is replaced, so only the order changes.
  have kept : entries.foldr
      (fun entry rest => if rest.any (·.1 == entry.1) then rest else entry :: rest) [] =
        entries := by
    induction entries with
    | nil => rfl
    | cons entry entries ih =>
        rw [List.map_cons, List.nodup_cons] at apart
        rw [List.foldr_cons, ih apart.2]
        refine if_neg ?_
        simpa using apart.1
  have unique : entries.Pairwise fun row other => ¬(row.1 == key ∧ other.1 == key) := by
    refine (List.pairwise_map.1 apart).imp fun {row other} differs both => ?_
    exact differs ((beq_iff_eq.1 both.1).trans (beq_iff_eq.1 both.2).symm)
  rw [Json.sortEntries, kept]
  exact find?_of_perm unique (List.mergeSort_perm entries _).symm

theorem get?_readBack {key : String} (apart : (entries.map (·.1)).Nodup) :
    (map entries).readBack.get? key = ((map entries).get? key).map readBack := by
  have same : (entriesBack entries).map (·.1) = entries.map (·.1) := by
    simp [entriesBack_eq]
  rw [readBack, get?, get?, find?_sortEntries (same ▸ apart), entriesBack_eq, List.find?_map]
  simp [Function.comp_def]

end Document

namespace Json

variable {rest : List Char} {indent : String} {document : Document}

/-! ## Documents -/

theorem itemTexts_eq (indent : String) (items : List Document) :
    itemTexts indent items = items.map (textOf indent) := by
  induction items with
  | nil => rfl
  | cons item items ih => rw [itemTexts, ih, List.map_cons]

def entryText (indent : String) (entry : String × Document) : String :=
  quote entry.1 ++ ": " ++ textOf indent entry.2

theorem entryTexts_eq (indent : String) (entries : List (String × Document)) :
    entryTexts indent entries = entries.map (entryText indent) := by
  induction entries with
  | nil => rfl
  | cons entry entries ih => rw [entryTexts, ih, List.map_cons, entryText]

theorem stops_textOf (readable : document.isReadable depth) (indent : String) (rest : List Char) :
    Stops isSpace ((textOf indent document).toList ++ rest) := by
  cases document with
  | null | moment => rw [textOf]; exact stops_cons.2 rfl
  | bool value => rw [textOf]; cases value <;> exact stops_cons.2 rfl
  | int value =>
      rw [textOf]
      refine stops_int value rfl (fun c digit => ?_) rest
      simp [isSpace, ne_of_apart ' ' digit, ne_of_apart '\t' digit, ne_of_apart '\n' digit,
        ne_of_apart '\r' digit]
  | float bits => simp [Document.isReadable] at readable
  | text value => rw [textOf, quote_toList]; exact stops_cons.2 rfl
  | seq items | sections items =>
      obtain ⟨tail, same⟩ := enclose_eq_cons '[' ']' indent (itemTexts (indent ++ "  ") items)
      rw [textOf]
      exact same ▸ stops_cons.2 rfl
  | map entries =>
      obtain ⟨tail, same⟩ := enclose_eq_cons '\x7b' '\x7d' indent
        (entryTexts (indent ++ "  ") entries)
      rw [textOf]
      exact same ▸ stops_cons.2 rfl

theorem value_eq_plainValue (stops : Stops (fun c => c = '[' || c = '\x7b') rest) (depth : Nat) :
    value depth rest = plainValue rest := by
  cases depth with
  | zero => rfl
  | succ depth =>
      unfold value
      split
      · exact absurd (stops_cons.1 stops) (by decide)
      · exact absurd (stops_cons.1 stops) (by decide)
      · rfl

theorem value_bracket (depth : Nat) (rest : List Char) : value depth (']' :: rest) = none := by
  rw [value_eq_plainValue (stops_cons.2 rfl)]
  rfl

theorem blank_indented (blank : ∀ c ∈ indent.toList, c = ' ') :
    ∀ c ∈ (indent ++ "  ").toList, c = ' ' := by
  simpa [or_imp, forall_and] using blank

/-- A document is read from its text wherever a value may end behind it, with the white space that
follows. -/
def ReadsBack (depth : Nat) (indent : String) (document : Document) : Prop :=
  ∀ rest, ValueEnds rest → value depth ((textOf indent document).toList ++ rest) =
    some (document.readBack, rest.dropWhile isSpace)

theorem value_seq {items : List Document} (blank : ∀ c ∈ indent.toList, c = ' ')
    (readable : ∀ item ∈ items, item.isReadable depth)
    (reads : ∀ item ∈ items, ReadsBack depth (indent ++ "  ") item) (rest : List Char) :
    value (depth + 1) ((textOf indent (.seq items)).toList ++ rest) =
      some (.seq (items.map Document.readBack), rest.dropWhile isSpace) := by
  have list := enclosed_enclose '[' blank rfl (by decide) (value_bracket depth)
    (fun item listed => stops_textOf (readable item listed) (indent ++ "  ")) reads rest
  rw [← itemTexts_eq] at list
  obtain ⟨tail, same⟩ := enclose_eq_cons '[' ']' indent (itemTexts (indent ++ "  ") items)
  have text : (textOf indent (.seq items)).toList = '[' :: tail := same
  rw [same] at list
  rw [text]
  exact map_of_some list _

theorem entry_entryText {entry : String × Document} (readable : entry.2.isReadable depth)
    (reads : ReadsBack depth indent entry.2) (ends : ValueEnds rest) :
    Json.entry (value depth) ((entryText indent entry).toList ++ rest) =
      some ((entry.1, entry.2.readBack), rest.dropWhile isSpace) := by
  have text : (entryText indent entry).toList ++ rest =
      (quote entry.1).toList ++ ':' :: ([' '] ++ ((textOf indent entry.2).toList ++ rest)) := by
    simp [entryText]
  have key := text_quote entry.1 (':' :: ([' '] ++ ((textOf indent entry.2).toList ++ rest)))
  rw [dropWhile_of_stops (stops_cons.2 rfl)] at key
  rw [text, Json.entry, bind_of_some key, bind_of_some (mark_self _ _),
    dropWhile_append (by simp [isSpace]) (stops_textOf readable indent rest),
    bind_of_some (reads rest ends)]
  rfl

theorem value_map {entries : List (String × Document)} (blank : ∀ c ∈ indent.toList, c = ' ')
    (readable : ∀ entry ∈ entries, entry.2.isReadable depth)
    (reads : ∀ entry ∈ entries, ReadsBack depth (indent ++ "  ") entry.2) (rest : List Char) :
    value (depth + 1) ((textOf indent (.map entries)).toList ++ rest) =
      some ((Document.map entries).readBack, rest.dropWhile isSpace) := by
  have starts (entry : String × Document) (rest : List Char) :
      Stops isSpace ((entryText (indent ++ "  ") entry).toList ++ rest) := by
    rw [entryText, String.toList_append, String.toList_append, quote_toList]
    exact stops_cons.2 rfl
  have list := enclosed_enclose '\x7b' blank rfl (by decide)
    (fun rest => show Json.entry (value depth) ('\x7d' :: rest) = none from rfl)
    (fun entry _ => starts entry)
    (fun entry listed _ => entry_entryText (readable entry listed) (reads entry listed)) rest
  rw [← entryTexts_eq, ← Document.entriesBack_eq] at list
  obtain ⟨tail, same⟩ := enclose_eq_cons '\x7b' '\x7d' indent
    (entryTexts (indent ++ "  ") entries)
  have text : (textOf indent (.map entries)).toList = '\x7b' :: tail := same
  rw [same] at list
  rw [text]
  exact map_of_some list _

-- By recursion on the document: the texts of its parts are indented more, and no deeper than it is.
mutual

theorem readsBack : ∀ (document : Document) (depth : Nat) (indent : String),
    document.isReadable depth → (∀ c ∈ indent.toList, c = ' ') → ReadsBack depth indent document
  | .null, depth, _, _, _, rest, _ | .moment, depth, _, _, _, rest, _ => by
      rw [textOf, Document.readBack]
      exact (value_eq_plainValue (stops_cons.2 rfl) depth).trans (plainValue_null rest)
  | .bool value, depth, _, _, _, rest, _ => by
      rw [textOf, Document.readBack]
      refine (value_eq_plainValue ?_ depth).trans (plainValue_bool value rest)
      cases value <;> exact stops_cons.2 rfl
  | .int value, depth, _, readable, _, rest, ends => by
      rw [textOf, Document.readBack]
      refine (value_eq_plainValue ?_ depth).trans (plainValue_int ?_ ends)
      · refine stops_int value rfl (fun c digit => ?_) rest
        simp [ne_of_apart '[' digit, ne_of_apart '\x7b' digit]
      · simpa [Document.isReadable] using readable
  | .float bits, depth, _, readable, _, _, _ => by simp [Document.isReadable] at readable
  | .text value, depth, _, _, _, rest, _ => by
      rw [textOf, Document.readBack]
      refine (value_eq_plainValue ?_ depth).trans (plainValue_text value rest)
      rw [quote_toList]
      exact stops_cons.2 rfl
  | .seq items, 0, _, readable, _, _, _ | .sections items, 0, _, readable, _, _, _
  | .map entries, 0, _, readable, _, _, _ => by simp [Document.isReadable] at readable
  | .seq items, depth + 1, indent, readable, blank, rest, _
  | .sections items, depth + 1, indent, readable, blank, rest, _ => by
      rw [Document.isReadable] at readable
      rw [textOf, Document.readBack, Document.itemsBack_eq, ← textOf]
      exact value_seq blank (Document.allReadable_iff.1 readable)
        (readsBack_items items depth _ readable (blank_indented blank)) rest
  | .map entries, depth + 1, indent, readable, blank, rest, _ => by
      rw [Document.isReadable] at readable
      exact value_map blank (Document.entriesReadable_iff.1 readable)
        (readsBack_entries entries depth _ readable (blank_indented blank)) rest

theorem readsBack_items : ∀ (items : List Document) (depth : Nat) (indent : String),
    Document.allReadable items depth → (∀ c ∈ indent.toList, c = ' ') →
      ∀ item ∈ items, ReadsBack depth indent item
  | [], _, _, _, _, _, listed => absurd listed List.not_mem_nil
  | first :: items, depth, indent, readable, blank, item, listed => by
      obtain ⟨head, tail⟩ := Bool.and_eq_true_iff.1 readable
      rcases List.mem_cons.1 listed with same | listed
      · rw [same]
        exact readsBack first depth indent head blank
      · exact readsBack_items items depth indent tail blank item listed

theorem readsBack_entries : ∀ (entries : List (String × Document)) (depth : Nat) (indent : String),
    Document.entriesReadable entries depth → (∀ c ∈ indent.toList, c = ' ') →
      ∀ entry ∈ entries, ReadsBack depth indent entry.2
  | [], _, _, _, _, _, listed => absurd listed List.not_mem_nil
  | (key, value) :: entries, depth, indent, readable, blank, entry, listed => by
      obtain ⟨head, tail⟩ := Bool.and_eq_true_iff.1 readable
      rcases List.mem_cons.1 listed with same | listed
      · rw [same]
        exact readsBack value depth indent head blank
      · exact readsBack_entries entries depth indent tail blank entry listed

end

theorem read?_json_append {after : String} (readable : document.isReadable maxDepth)
    (blank : ∀ c ∈ after.toList, isSpace c) (ends : ValueEnds after.toList) :
    read? (document.json ++ after) = some document.readBack := by
  refine parseAll_of_some ?_
  have stops := stops_textOf readable "" after.toList
  have left := dropWhile_append blank stops_nil
  rw [List.append_nil] at left
  rw [String.toList_append, Document.json, bind_of_some (space_eq _), dropWhile_of_stops stops,
    readsBack document maxDepth "" readable (by simp) _ ends, left]

theorem read?_json (readable : document.isReadable maxDepth) :
    read? document.json = some document.readBack := by
  have read := @read?_json_append document "" readable (by simp) stops_nil
  rwa [String.append_empty] at read

end Json

/-- A text determines its document, up to what JSON does not tell apart. -/
theorem Document.readBack_eq_of_json_eq {first second : Document}
    (readable : first.isReadable Json.maxDepth) (other : second.isReadable Json.maxDepth)
    (same : first.json = second.json) : first.readBack = second.readBack := by
  have read := Json.read?_json readable
  rw [same, Json.read?_json other] at read
  exact (Option.some.inj read).symm

end Lanewise
