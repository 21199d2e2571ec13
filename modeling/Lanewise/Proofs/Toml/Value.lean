import Lanewise.Proofs.Toml.Quoted
import Lanewise.Proofs.Toml.Scalar
import Lanewise.Toml.Reader
import Lanewise.Toml.Writer

open Lanewise.Parser

namespace Lanewise

namespace Document

def isScalar : Document → Bool
  | .bool _ | .text _ => true
  | .int value => 0 ≤ value && value < UInt32.size
  | _ => false

def isFlat : Document → Bool
  | .seq items => items.all isScalar
  | document => document.isScalar

end Document

namespace Toml

variable {document : Document} {rest : List Char} {condition : Char → Bool} {depth : Nat}

/-! ## Scalars -/

theorem singleLine_of_ne {item : Parser (List Char)} {c mark : Char} (differs : c ≠ mark)
    (rest : List Char) : singleLine mark item (c :: rest) = none :=
  bind_of_none (char_of_ne differs rest) _

theorem quotedText_of_stops (stops : Stops isQuote rest) : quotedText rest = none := by
  cases rest with
  | nil => rfl
  | cons c rest =>
      have double : Stops (· = '"') (c :: rest) := stops_of_isQuote stops rfl
      have single : Stops (· = '\'') (c :: rest) := stops_of_isQuote stops rfl
      rw [stops_cons, decide_eq_false_iff_not] at double single
      have none : lineText (c :: rest) = none := by
        rw [lineText, orElse_of_none (singleLine_of_ne double rest)]
        exact singleLine_of_ne single rest
      unfold quotedText
      split
      · next same => exact absurd (List.cons.inj same).1 double
      · next same => exact absurd (List.cons.inj same).1 single
      · exact none

theorem plainValue_of_scalar {input : List Char} (stops : Stops isQuote input)
    (read : scalar input = some (document, rest)) : plainValue input = some (document, rest) := by
  rw [plainValue, orElse_of_none (bind_of_none (quotedText_of_stops stops) _)]
  exact read

theorem exists_digits {value : Int} (plain : (Document.int value).isScalar) :
    ∃ n < UInt32.size, value = n ∧ (valueText (.int value)).toList = Nat.toDigits 10 n := by
  obtain ⟨nonnegative, below⟩ : 0 ≤ value ∧ value < UInt32.size := by
    simpa [Document.isScalar] using plain
  obtain ⟨n, rfl⟩ := Int.eq_ofNat_of_zero_le nonnegative
  exact ⟨n, by omega, rfl, Nat.toList_repr⟩

theorem plainValue_scalar (plain : document.isScalar) (ends : ValueEnds rest) :
    plainValue ((valueText document).toList ++ rest) = some (document, rest) := by
  cases document with
  | bool value =>
      cases value with
      | false => exact plainValue_of_scalar (stops_cons.2 rfl) (scalar_false rest)
      | true => exact plainValue_of_scalar (stops_cons.2 rfl) (scalar_true rest)
  | int value =>
      obtain ⟨n, below, rfl, digits⟩ := exists_digits plain
      rw [digits]
      refine plainValue_of_scalar (Text.stops_toDigits n (fun c digit => ?_) rest)
        (scalar_toDigits (Nat.lt_trans below (by decide)) ends)
      have double : c ≠ '"' := fun same => absurd (same ▸ digit) (by decide)
      have single : c ≠ '\'' := fun same => absurd (same ▸ digit) (by decide)
      simp [isQuote, double, single]
  | text value =>
      have read := quotedText_quote value.toList (ends.stops (by decide) (by decide) (by decide))
      rw [valueText, String.toList_ofList]
      refine orElse_of_some ?_ _
      rw [bind_of_some read, String.ofList_toList]
      rfl
  | _ => cases plain

def startsScalar (c : Char) : Bool := isQuote c || Text.isDigitIn 10 c || c = 't' || c = 'f'

theorem quote_eq_cons (text : List Char) : ∃ c tail, quote text = c :: tail ∧ isQuote c := by
  unfold quote onLines
  dsimp only
  split
  · split <;> exact ⟨_, _, rfl, rfl⟩
  split
  · exact ⟨_, _, rfl, rfl⟩
  split
  · exact ⟨_, _, rfl, rfl⟩
  split
  · exact ⟨_, _, rfl, rfl⟩
  split
  · exact ⟨_, _, rfl, rfl⟩
  split <;> exact ⟨_, _, rfl, rfl⟩

theorem scalarText_eq_cons (plain : document.isScalar) :
    ∃ c tail, (valueText document).toList = c :: tail ∧ startsScalar c := by
  cases document with
  | bool value =>
      cases value with
      | false => exact ⟨_, _, rfl, rfl⟩
      | true => exact ⟨_, _, rfl, rfl⟩
  | int value =>
      obtain ⟨n, -, rfl, digits⟩ := exists_digits plain
      obtain ⟨c, tail, same⟩ := List.exists_cons_of_ne_nil (Nat.toDigits_ne_nil (n := n) (b := 10))
      have digit := Text.isDigitIn_toDigits n c (same ▸ List.mem_cons_self)
      exact ⟨c, tail, digits.trans same, by simp [startsScalar, digit]⟩
  | text value =>
      obtain ⟨c, tail, same, quote⟩ := quote_eq_cons value.toList
      exact ⟨c, tail, by rw [valueText, String.toList_ofList, same], by simp [startsScalar, quote]⟩
  | _ => cases plain

theorem stops_scalarText (plain : document.isScalar)
    (apart : ∀ c, startsScalar c → condition c = false) (rest : List Char) :
    Stops condition ((valueText document).toList ++ rest) := by
  obtain ⟨c, tail, same, starts⟩ := scalarText_eq_cons plain
  rw [same]
  exact stops_cons.2 (apart c starts)

theorem value_of_stops {input : List Char} (stops : Stops (fun c => c = '[' || c = '\x7b') input)
    (depth : Nat) : value depth input = plainValue input := by
  cases depth with
  | zero => rfl
  | succ depth =>
      unfold value
      split
      · exact absurd (stops_cons.1 stops) (by decide)
      · exact absurd (stops_cons.1 stops) (by decide)
      · rfl

theorem value_scalar (plain : document.isScalar) (ends : ValueEnds rest) (depth : Nat) :
    value depth ((valueText document).toList ++ rest) = some (document, rest) := by
  rw [value_of_stops (stops_scalarText plain (fun c starts => ?_) rest),
    plainValue_scalar plain ends]
  simp [ne_of_apart '[' starts (by decide),
    ne_of_apart '\x7b' starts (by decide)]

/-! ## Gaps between items -/

def isGapMark (c : Char) : Bool := isBlank c || isLineMark c || c = '#'

theorem gapItem_of_stops (stops : Stops isGapMark rest) : gapItem rest = none := by
  have blank : Stops isBlank rest := stops.mono fun c => by simp +contextual [isGapMark]
  have line : Stops isLineMark rest := stops.mono fun c => by simp +contextual [isGapMark]
  have hash : Stops (· = '#') rest := stops.mono fun c => by simp +contextual [isGapMark]
  rw [gapItem, orElse_of_none (bind_of_none (takeWhile1_of_stops blank) _),
    orElse_of_none (bind_of_none (newline_of_stops line) _)]
  exact bind_of_none (bind_of_none (satisfy_of_stops hash) _) _

theorem gapItem_newline (rest : List Char) : gapItem ('\n' :: rest) = some ((), rest) := by
  rw [gapItem, orElse_of_none (bind_of_none (takeWhile1_of_stops (stops_cons.2 rfl)) _)]
  exact orElse_of_some (bind_of_some (newline_cons rest) _) _

theorem gapItem_blanks {run : List Char} (filled : run ≠ []) (blank : ∀ c ∈ run, isBlank c)
    (stops : Stops isGapMark rest) : gapItem (run ++ rest) = some ((), rest) := by
  have ends : Stops isBlank rest := stops.mono fun c => by simp +contextual [isGapMark]
  exact orElse_of_some (bind_of_some (takeWhile1_append filled blank ends) _) _

theorem gap_of_repeated {input : List Char} {items : List Unit}
    (repeats : repeated gapItem input = (items, rest)) : gap input = some ((), rest) :=
  bind_of_some (congrArg some repeats) _

theorem gap_of_stops (stops : Stops isGapMark rest) : gap rest = some ((), rest) :=
  gap_of_repeated (repeated_of_none (gapItem_of_stops stops))

theorem gap_newline (stops : Stops isGapMark rest) : gap ('\n' :: rest) = some ((), rest) := by
  have repeats := repeated_of_some (gapItem_newline rest) (by simp)
  rw [repeated_of_none (gapItem_of_stops stops)] at repeats
  exact gap_of_repeated repeats

theorem gap_indented (stops : Stops isGapMark rest) :
    gap ('\n' :: ([' ', ' ', ' ', ' '] ++ rest)) = some ((), rest) := by
  have repeats := repeated_of_some (gapItem_newline ([' ', ' ', ' ', ' '] ++ rest)) (by simp)
  rw [repeated_of_some (gapItem_blanks (by simp) (by simp [isBlank]) stops) (by simp; omega),
    repeated_of_none (gapItem_of_stops stops)] at repeats
  exact gap_of_repeated repeats

/-! ## Lists -/

theorem value_bracket (rest : List Char) (depth : Nat) : value depth (']' :: rest) = none := by
  rw [value_of_stops (stops_cons.2 rfl), plainValue,
    orElse_of_none (bind_of_none (quotedText_of_stops (stops_cons.2 rfl)) _)]
  rfl

theorem stops_gap_scalarText (plain : document.isScalar) (rest : List Char) :
    Stops isGapMark ((valueText document).toList ++ rest) := by
  refine stops_scalarText plain (fun c starts => ?_) rest
  have differs (mark : Char) (other : startsScalar mark = false) : c ≠ mark :=
    ne_of_apart mark starts other
  simp [isGapMark, isBlank, isLineMark, differs ' ' (by decide), differs '\t' (by decide),
    differs '\n' (by decide), differs '\r' (by decide), differs '#' (by decide)]

theorem itemTexts_eq (items : List Document) : itemTexts items = items.map valueText := by
  induction items with
  | nil => rfl
  | cons item items ih => rw [itemTexts, ih, List.map_cons]

abbrev itemMark : Parser Unit := do
  gap
  let _ ← char ','
  gap

def itemLine (item : Document) : List Char :=
  ',' :: '\n' :: ([' ', ' ', ' ', ' '] ++ (valueText item).toList)

theorem itemMark_append (stops : Stops isGapMark rest) :
    itemMark (',' :: '\n' :: ([' ', ' ', ' ', ' '] ++ rest)) = some ((), rest) := by
  rw [itemMark, bind_of_some (gap_of_stops (stops_cons.2 rfl)), bind_of_some (char_self _ _)]
  exact gap_indented stops

theorem itemMark_bracket (rest : List Char) : itemMark (']' :: rest) = none := by
  rw [itemMark, bind_of_some (gap_of_stops (stops_cons.2 rfl))]
  exact bind_of_none (char_of_ne (by decide) rest) _

theorem flatMap_lines (first : Document) (items : List Document) :
    ((first :: items).flatMap fun item =>
        [' ', ' ', ' ', ' '] ++ (valueText item).toList ++ [',', '\n']) ++ [']'] =
      [' ', ' ', ' ', ' '] ++ ((valueText first).toList ++
        (items.flatMap itemLine ++ [',', '\n', ']'])) := by
  induction items generalizing first with
  | nil => simp
  | cons second items ih =>
      rw [List.flatMap_cons, List.append_assoc, ih second, List.flatMap_cons]
      simp [itemLine]

theorem arrayText_lines (first second : Document) (items : List Document) :
    (arrayText (itemTexts (first :: second :: items))).toList =
      '[' :: '\n' :: ([' ', ' ', ' ', ' '] ++ ((valueText first).toList ++
        ((second :: items).flatMap itemLine ++ [',', '\n', ']']))) := by
  rw [← flatMap_lines, itemTexts_eq, List.map_cons, List.map_cons, arrayText, String.toList_append,
    String.toList_append, String.toList_join, ← List.map_cons, ← List.map_cons, List.map_map,
    List.flatMap_map]
  · simp
  · simp
  · simp

theorem value_itemLine {item : Document} (plain : item.isScalar) (ends : ValueEnds rest)
    (depth : Nat) :
    (do let _ ← itemMark; value depth) (itemLine item ++ rest) = some (item, rest) := by
  have mark := itemMark_append (stops_gap_scalarText plain rest)
  have line : itemLine item ++ rest =
      ',' :: '\n' :: ([' ', ' ', ' ', ' '] ++ ((valueText item).toList ++ rest)) := rfl
  rw [line, bind_of_some mark]
  exact value_scalar plain ends depth

theorem repeated_itemLine {items : List Document} (plain : ∀ item ∈ items, item.isScalar)
    (rest : List Char) (depth : Nat) :
    repeated (do let _ ← itemMark; value depth)
        (items.flatMap itemLine ++ ',' :: '\n' :: ']' :: rest) =
      (items, ',' :: '\n' :: ']' :: rest) := by
  have stops : (do let _ ← itemMark; value depth) (',' :: '\n' :: ']' :: rest) = none := by
    have mark : itemMark (',' :: '\n' :: ']' :: rest) = some ((), ']' :: rest) := by
      rw [itemMark, bind_of_some (gap_of_stops (stops_cons.2 rfl)), bind_of_some (char_self _ _)]
      exact gap_newline (stops_cons.2 rfl)
    rw [bind_of_some mark]
    exact value_bracket rest depth
  have pieces := repeated_pieces itemLine id ValueEnds id (fun _ _ => List.cons_ne_nil _ _)
    (fun _ _ _ => stops_cons.2 rfl) (fun _ _ _ => rfl) (fun _ => le_rfl)
    (fun item listed after ends => value_itemLine (plain item listed) ends depth)
    (stops_cons.2 rfl) stops
  rwa [List.map_id] at pieces

theorem array_nil (rest : List Char) (depth : Nat) :
    array (value depth) ((arrayText []).toList ++ rest) = some (.seq [], rest) := by
  have none_read : separated itemMark (value depth) (']' :: rest) = none :=
    bind_of_none (value_bracket rest depth) _
  have text : (arrayText []).toList ++ rest = '[' :: ']' :: rest := rfl
  rw [text, array, bind_of_some (char_self _ _), bind_of_some (gap_of_stops (stops_cons.2 rfl)),
    bind_of_some (maybe_of_none none_read), bind_of_some (gap_of_stops (stops_cons.2 rfl))]
  exact bind_of_some (char_self _ _) _

theorem array_singleton {item : Document} (plain : item.isScalar) (rest : List Char)
    (depth : Nat) :
    array (value depth) ((arrayText [valueText item]).toList ++ rest) =
      some (.seq [item], rest) := by
  have stops : (do let _ ← itemMark; value depth) (']' :: rest) = none :=
    bind_of_none (itemMark_bracket rest) _
  have item_read : value depth ((valueText item).toList ++ ']' :: rest) =
      some (item, ']' :: rest) := value_scalar plain (stops_cons.2 rfl) depth
  have read := separated_of_repeated item_read (repeated_of_none stops)
  have text : (arrayText [valueText item]).toList ++ rest =
      '[' :: ((valueText item).toList ++ ']' :: rest) := by
    simp [arrayText]
  rw [text, array, bind_of_some (char_self _ _),
    bind_of_some (gap_of_stops (stops_gap_scalarText plain _)),
    bind_of_some (maybe_of_some read), bind_of_some (gap_of_stops (stops_cons.2 rfl)),
    Option.isSome_some, if_pos rfl, bind_of_some (maybe_of_none (char_of_ne (by decide) rest)),
    bind_of_some (gap_of_stops (stops_cons.2 rfl))]
  exact bind_of_some (char_self _ _) _

theorem array_lines {first second : Document} {items : List Document}
    (plain : ∀ item ∈ first :: second :: items, item.isScalar) (rest : List Char) (depth : Nat) :
    array (value depth)
        ((arrayText (itemTexts (first :: second :: items))).toList ++ rest) =
      some (.seq (first :: second :: items), rest) := by
  have first_plain := plain first List.mem_cons_self
  have later_plain := fun item listed => plain item (List.mem_cons_of_mem first listed)
  let lines := (second :: items).flatMap itemLine ++ ',' :: '\n' :: ']' :: rest
  have first_read : value depth ((valueText first).toList ++ lines) = some (first, lines) :=
    value_scalar first_plain (stops_cons.2 rfl) depth
  have read := separated_of_repeated first_read (repeated_itemLine later_plain rest depth)
  have text : (arrayText (itemTexts (first :: second :: items))).toList ++ rest =
      '[' :: '\n' :: ([' ', ' ', ' ', ' '] ++ ((valueText first).toList ++ lines)) := by
    rw [arrayText_lines]
    simp [lines]
  rw [text, array, bind_of_some (char_self _ _),
    bind_of_some (gap_indented (stops_gap_scalarText first_plain _)),
    bind_of_some (maybe_of_some read), bind_of_some (gap_of_stops (stops_cons.2 rfl)),
    Option.isSome_some, if_pos rfl, bind_of_some (maybe_of_some (char_self _ _)),
    bind_of_some (gap_newline (stops_cons.2 rfl))]
  exact bind_of_some (char_self _ _) _

theorem array_items {items : List Document} (plain : ∀ item ∈ items, item.isScalar)
    (rest : List Char) (depth : Nat) :
    array (value depth) ((arrayText (itemTexts items)).toList ++ rest) =
      some (.seq items, rest) := by
  match items with
  | [] => exact array_nil rest depth
  | [item] => exact array_singleton (plain item List.mem_cons_self) rest depth
  | first :: second :: items => exact array_lines plain rest depth

theorem arrayText_eq_cons (items : List String) :
    ∃ tail, (arrayText items).toList = '[' :: tail := by
  match items with
  | [] => exact ⟨_, rfl⟩
  | [item] => exact ⟨_, by simp [arrayText]; rfl⟩
  | first :: second :: items => exact ⟨_, by simp [arrayText]; rfl⟩

theorem value_flat (flat : document.isFlat) (ends : ValueEnds rest) (depth : Nat) :
    value (depth + 1) ((valueText document).toList ++ rest) = some (document, rest) := by
  cases document with
  | seq items =>
      have read := array_items (List.all_eq_true.1 flat) rest depth
      obtain ⟨tail, same⟩ := arrayText_eq_cons (itemTexts items)
      rw [valueText]
      rw [same] at read ⊢
      exact read
  | _ =>
      refine value_scalar ?_ ends (depth + 1)
      exact flat

end Toml

end Lanewise
