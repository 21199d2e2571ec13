import Lanewise.Proofs.Json.Scalar

open Lanewise.Parser

namespace Lanewise.Json

variable {rest : List Char} {indent : String}

def itemPad (indent : String) : List Char := indent.toList ++ [' ', ' ']

def itemLine (indent item : String) : List Char :=
  ',' :: '\n' :: (itemPad indent ++ item.toList)

theorem intercalate_eq (mark first : List Char) (later : List (List Char)) :
    mark.intercalate (first :: later) = first ++ later.flatMap (mark ++ ·) := by
  induction later generalizing first with
  | nil => simp
  | cons next later ih => simp [List.intercalate_cons_cons, ih]

theorem enclose_cons (opening closing : Char) (indent item : String) (items : List String) :
    (enclose (.singleton opening) (.singleton closing) indent (item :: items)).toList =
      opening :: '\n' :: (itemPad indent ++ (item.toList ++
        (items.flatMap (itemLine indent) ++ '\n' :: (indent.toList ++ [closing])))) := by
  have lines : items.flatMap (itemLine indent) = (items.map fun item =>
      itemPad indent ++ item.toList).flatMap ([',', '\n'] ++ ·) := by
    rw [List.flatMap_map]
    rfl
  rw [enclose, lines]
  simp [intercalate_eq, itemPad, Function.comp_def]

theorem enclose_eq_cons (opening closing : Char) (indent : String) (items : List String) :
    ∃ tail, (enclose (.singleton opening) (.singleton closing) indent items).toList =
      opening :: tail := by
  cases items with
  | nil => exact ⟨[closing], by simp [enclose]⟩
  | cons item items => exact ⟨_, enclose_cons opening closing indent item items⟩

section Enclosed

variable {α β : Type} {item : Parser α} {opening closing : Char} {write : β → String}
  {value : β → α} {pieces : List β}

theorem isSpace_of_blank (blank : ∀ c ∈ indent.toList, c = ' ') :
    ∀ c ∈ '\n' :: itemPad indent, isSpace c := by
  intro c listed
  have cases : c = '\n' ∨ c = ' ' := by
    simp only [itemPad, List.mem_cons, List.mem_append, List.not_mem_nil, or_false, or_self]
      at listed
    exact listed.imp_right fun inside => inside.elim (blank c) id
  rcases cases with rfl | rfl <;> rfl

theorem enclosed_nil (opening : Char) (closes : isSpace closing = false)
    (refuses : ∀ rest, item (closing :: rest) = none) (rest : List Char) :
    enclosed opening closing item (opening :: closing :: rest) =
      some ([], rest.dropWhile isSpace) := by
  have none_read : separated (mark ',') item (closing :: rest) = none :=
    bind_of_none (refuses rest) _
  rw [enclosed, bind_of_some (mark_self _ _), dropWhile_of_stops (stops_cons.2 closes),
    bind_of_some (maybe_of_none none_read), bind_of_some (mark_self _ _)]
  rfl

theorem enclosed_cons {first : β} (opening : Char) (blank : ∀ c ∈ indent.toList, c = ' ')
    (closes : isSpace closing = false) (other : closing ≠ ',')
    (starts : ∀ piece ∈ first :: pieces, ∀ rest, Stops isSpace ((write piece).toList ++ rest))
    (reads : ∀ piece ∈ first :: pieces, ∀ rest, ValueEnds rest →
      item ((write piece).toList ++ rest) = some (value piece, rest.dropWhile isSpace))
    (rest : List Char) :
    enclosed opening closing item (opening :: '\n' :: (itemPad indent ++ ((write first).toList ++
        (pieces.flatMap (fun piece => itemLine indent (write piece)) ++
          '\n' :: (indent.toList ++ closing :: rest))))) =
      some ((first :: pieces).map value, rest.dropWhile isSpace) := by
  let closed := '\n' :: (indent.toList ++ closing :: rest)
  let lines := pieces.flatMap (fun piece => itemLine indent (write piece)) ++ closed
  have ends : ValueEnds lines := by
    cases pieces with
    | nil => exact stops_cons.2 rfl
    | cons next pieces => exact stops_cons.2 rfl
  have padded (piece : β) (listed : piece ∈ first :: pieces) (after : List Char) :
      ('\n' :: itemPad indent ++ ((write piece).toList ++ after)).dropWhile isSpace =
        (write piece).toList ++ after :=
    dropWhile_append (isSpace_of_blank blank) (starts piece listed after)
  have skipped :
      ('\n' :: indent.toList ++ closing :: rest).dropWhile isSpace = closing :: rest := by
    refine dropWhile_append (fun c listed => isSpace_of_blank blank c ?_) (stops_cons.2 closes)
    exact List.mem_cons.2 ((List.mem_cons.1 listed).imp_right (List.mem_append_left _))
  have line (piece : β) (listed : piece ∈ pieces) (after : List Char) (ends : ValueEnds after) :
      (do mark ','; item) (itemLine indent (write piece) ++ after) =
        some (value piece, after.dropWhile isSpace) := by
    have member := List.mem_cons_of_mem first listed
    have text : itemLine indent (write piece) ++ after =
        ',' :: ('\n' :: itemPad indent ++ ((write piece).toList ++ after)) := by simp [itemLine]
    rw [text, bind_of_some (mark_self _ _), padded piece member, reads piece member after ends]
  have later := repeated_pieces (fun piece => itemLine indent (write piece)) value ValueEnds
    (·.dropWhile isSpace) (fun _ _ => List.cons_ne_nil _ _) (fun _ _ _ => stops_cons.2 rfl)
    (fun _ _ _ => dropWhile_of_stops (stops_cons.2 rfl))
    (fun after => (List.dropWhile_sublist _).length_le) line (stops_cons.2 rfl)
    (skipped ▸ bind_of_none (mark_of_ne other rest) _)
  have whole := separated_of_repeated (reads first List.mem_cons_self lines ends) later
  rw [enclosed, bind_of_some (mark_self _ _)]
  refine (bind_of_some ((congrArg _ (padded first List.mem_cons_self lines)).trans
    (maybe_of_some whole)) _).trans ?_
  refine (bind_of_some ((congrArg _ skipped).trans (mark_self closing rest)) _).trans ?_
  rfl

theorem enclosed_enclose (opening : Char) (blank : ∀ c ∈ indent.toList, c = ' ')
    (closes : isSpace closing = false) (other : closing ≠ ',')
    (refuses : ∀ rest, item (closing :: rest) = none)
    (starts : ∀ piece ∈ pieces, ∀ rest, Stops isSpace ((write piece).toList ++ rest))
    (reads : ∀ piece ∈ pieces, ∀ rest, ValueEnds rest →
      item ((write piece).toList ++ rest) = some (value piece, rest.dropWhile isSpace))
    (rest : List Char) :
    enclosed opening closing item
        ((enclose (.singleton opening) (.singleton closing) indent (pieces.map write)).toList
          ++ rest) =
      some (pieces.map value, rest.dropWhile isSpace) := by
  cases pieces with
  | nil =>
      have text : (enclose (.singleton opening) (.singleton closing) indent []).toList ++ rest =
          opening :: closing :: rest := by simp [enclose]
      rw [List.map_nil, text]
      exact enclosed_nil opening closes refuses rest
  | cons first pieces =>
      have read := enclosed_cons opening blank closes other starts reads rest
      rw [List.map_cons, enclose_cons, List.flatMap_map]
      simpa using read

end Enclosed

end Lanewise.Json
