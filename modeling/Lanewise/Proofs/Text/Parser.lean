import Lanewise.Text.Parser
import Mathlib.Data.List.TakeDrop

namespace Lanewise.Parser

variable {α β : Type} {item first second : Parser α} {input rest : List Char} {value : α}
  {condition : Char → Bool}

theorem bind_of_some (read : item input = some (value, rest)) (next : α → Parser β) :
    (item >>= next) input = next value rest := by
  change (item input).bind _ = _
  rw [read]
  rfl

theorem bind_of_none (fails : item input = none) (next : α → Parser β) :
    (item >>= next) input = none := by
  change (item input).bind _ = _
  rw [fails]
  rfl

theorem map_of_some (read : item input = some (value, rest)) (convert : α → β) :
    (convert <$> item) input = some (convert value, rest) := by
  change (item input).bind _ = _
  rw [read]
  rfl

theorem map_of_none (fails : item input = none) (convert : α → β) :
    (convert <$> item) input = none := by
  change (item input).bind _ = _
  rw [fails]
  rfl

theorem orElse_eq (first second : Parser α) (input : List Char) :
    (first <|> second) input = (first input).or (second input) := by
  change (first input <|> second input) = _
  rw [Option.orElse_eq_orElse, Option.orElse_eq_or]

theorem orElse_of_some (read : first input = some (value, rest)) (second : Parser α) :
    (first <|> second) input = some (value, rest) := by
  rw [orElse_eq, read, Option.some_or]

theorem orElse_of_none (fails : first input = none) (second : Parser α) :
    (first <|> second) input = second input := by
  rw [orElse_eq, fails, Option.none_or]

theorem maybe_of_some (read : item input = some (value, rest)) :
    maybe item input = some (some value, rest) :=
  orElse_of_some (map_of_some read _) _

theorem maybe_of_none (fails : item input = none) : maybe item input = some (none, input) :=
  orElse_of_none (map_of_none fails _) _

theorem ne_of_apart {c : Char} (mark : Char) (admitted : condition c)
    (refused : condition mark = false) : c ≠ mark := by
  rintro rfl
  rw [admitted] at refused
  cases refused

theorem satisfy_of_true {c : Char} (admitted : condition c) :
    satisfy condition (c :: rest) = some (c, rest) :=
  if_pos admitted

theorem satisfy_of_false {c : Char} (refused : condition c = false) :
    satisfy condition (c :: rest) = none :=
  if_neg (by simp [refused])

theorem char_of_ne {c other : Char} (differs : other ≠ c) (rest : List Char) :
    char c (other :: rest) = none :=
  satisfy_of_false (decide_eq_false differs)

theorem char_self (c : Char) (rest : List Char) : char c (c :: rest) = some (c, rest) :=
  satisfy_of_true (decide_eq_true rfl)

def Stops (condition : Char → Bool) (rest : List Char) : Prop :=
  ∀ c ∈ rest.head?, condition c = false

@[simp] theorem stops_nil : Stops condition [] := by simp [Stops]

@[simp] theorem stops_cons {c : Char} : Stops condition (c :: rest) ↔ condition c = false := by
  simp [Stops]

theorem Stops.mono {other : Char → Bool} (stops : Stops condition rest)
    (weaker : ∀ c, condition c = false → other c = false) : Stops other rest :=
  fun c head => weaker c (stops c head)

theorem satisfy_of_stops (stops : Stops condition rest) : satisfy condition rest = none := by
  cases rest with
  | nil => rfl
  | cons c rest =>
      rw [stops_cons] at stops
      simp [satisfy, stops]

theorem takeWhile_append {run : List Char} (admitted : ∀ c ∈ run, condition c)
    (stops : Stops condition rest) :
    takeWhile condition (run ++ rest) = some (run, rest) := by
  have taken : rest.takeWhile condition = [] := by
    cases rest with
    | nil => rfl
    | cons c rest => rw [List.takeWhile_cons_of_neg (by simpa using stops)]
  have dropped : rest.dropWhile condition = rest := by
    cases rest with
    | nil => rfl
    | cons c rest => rw [List.dropWhile_cons_of_neg (by simpa using stops)]
  rw [takeWhile, List.span_eq_takeWhile_dropWhile, List.takeWhile_append_of_pos admitted,
    List.dropWhile_append_of_pos admitted, taken, dropped, List.append_nil]

theorem takeWhile_of_stops (stops : Stops condition rest) :
    takeWhile condition rest = some ([], rest) :=
  takeWhile_append (fun _ listed => absurd listed List.not_mem_nil) stops

theorem takeWhile1_append {run : List Char} (some : run ≠ []) (admitted : ∀ c ∈ run, condition c)
    (stops : Stops condition rest) :
    takeWhile1 condition (run ++ rest) = .some (run, rest) := by
  obtain ⟨c, run, rfl⟩ := List.exists_cons_of_ne_nil some
  rw [takeWhile1, List.cons_append,
    bind_of_some (satisfy_of_true (admitted c List.mem_cons_self)),
    bind_of_some (takeWhile_append (fun c listed => admitted c (List.mem_cons_of_mem _ listed))
      stops)]
  rfl

theorem takeWhile1_of_stops (stops : Stops condition rest) : takeWhile1 condition rest = none :=
  bind_of_none (satisfy_of_stops stops) _

theorem exists_run (condition : Char → Bool) (text : List Char) :
    ∃ run after, text = run ++ after ∧ (∀ c ∈ run, condition c) ∧ Stops condition after := by
  induction text with
  | nil => exact ⟨[], [], rfl, by simp, stops_nil⟩
  | cons c text ih =>
      by_cases admitted : condition c
      · obtain ⟨run, after, rfl, inside, stops⟩ := ih
        exact ⟨c :: run, after, rfl, by simpa [admitted] using inside, stops⟩
      · exact ⟨[], c :: text, rfl, by simp, by simpa using admitted⟩

theorem exactly_append {run : List Char} (admitted : ∀ c ∈ run, condition c) (rest : List Char) :
    exactly condition run.length (run ++ rest) = some (run, rest) := by
  induction run with
  | nil => rfl
  | cons c run ih =>
      rw [List.length_cons, exactly, List.cons_append,
        bind_of_some (satisfy_of_true (admitted c List.mem_cons_self)),
        bind_of_some (ih fun c listed => admitted c (List.mem_cons_of_mem _ listed))]
      rfl

theorem repeated_of_none (fails : item input = none) : repeated item input = ([], input) := by
  rw [repeated, fails]

theorem repeated_of_some (read : item input = some (value, rest))
    (shorter : rest.length < input.length) :
    repeated item input = (value :: (repeated item rest).1, (repeated item rest).2) := by
  rw [repeated, read]
  exact if_pos shorter

/-- Pieces that are not empty, each of them read where another may follow, together with what is
skipped behind it, and then a rest that is no piece. -/
theorem repeated_pieces (text : β → List Char) (value : β → α) (Follows : List Char → Prop)
    (skip : List Char → List Char) {pieces : List β}
    (filled : ∀ piece ∈ pieces, text piece ≠ [])
    (follows : ∀ piece ∈ pieces, ∀ after, Follows (text piece ++ after))
    (kept : ∀ piece ∈ pieces, ∀ after, skip (text piece ++ after) = text piece ++ after)
    (shrinks : ∀ after, (skip after).length ≤ after.length)
    (reads : ∀ piece ∈ pieces, ∀ after, Follows after →
      item (text piece ++ after) = some (value piece, skip after))
    (last : Follows rest) (stops : item (skip rest) = none) :
    repeated item (skip (pieces.flatMap text ++ rest)) = (pieces.map value, skip rest) := by
  induction pieces with
  | nil => exact repeated_of_none stops
  | cons piece pieces ih =>
      have after : Follows (pieces.flatMap text ++ rest) := by
        cases pieces with
        | nil => exact last
        | cons next pieces =>
            rw [List.flatMap_cons, List.append_assoc]
            exact follows next (by simp) _
      have read := reads piece List.mem_cons_self _ after
      have shorter : (skip (pieces.flatMap text ++ rest)).length <
          (text piece ++ (pieces.flatMap text ++ rest)).length := by
        have longer := List.length_pos_iff.2 (filled piece List.mem_cons_self)
        have left := shrinks (pieces.flatMap text ++ rest)
        rw [List.length_append]
        omega
      rw [List.flatMap_cons, List.append_assoc, kept piece List.mem_cons_self,
        repeated_of_some read shorter,
        ih (fun piece listed => filled piece (List.mem_cons_of_mem _ listed))
          (fun piece listed => follows piece (List.mem_cons_of_mem _ listed))
          (fun piece listed => kept piece (List.mem_cons_of_mem _ listed))
          (fun piece listed => reads piece (List.mem_cons_of_mem _ listed))]
      rfl

theorem separated_of_repeated {mark : Parser β} {middle : List Char} {values : List α}
    (read : item input = some (value, middle))
    (repeats : repeated (do let _ ← mark; item) middle = (values, rest)) :
    separated mark item input = some (value :: values, rest) := by
  rw [separated, bind_of_some read, bind_of_some (congrArg some repeats)]
  rfl

theorem parseAll_of_some {text : String} (read : item text.toList = some (value, [])) :
    parseAll item text = some value := by
  rw [parseAll]
  exact congrArg (Option.map (·.1)) (bind_of_some read _)

section Spelled

variable {item : Parser (List Char)} {closing written text : List Char}

/-- A parser reads what is written before a closing piece by piece, and the pieces make up a
text. -/
inductive Spelled (item : Parser (List Char)) (closing : List Char) :
    List Char → List Char → Prop
  | nil : Spelled item closing [] []
  | cons (piece front : List Char) {written text : List Char} (filled : piece ≠ [])
      (read : item (piece ++ (written ++ closing)) = some (front, written ++ closing))
      (later : Spelled item closing written text) :
      Spelled item closing (piece ++ written) (front ++ text)

theorem Spelled.repeated (spelled : Spelled item closing written text)
    (stops : item closing = none) :
    ∃ parts, Parser.repeated item (written ++ closing) = (parts, closing) ∧
      parts.flatten = text := by
  induction spelled with
  | nil => exact ⟨[], repeated_of_none stops, rfl⟩
  | @cons piece front written text filled read later ih =>
      obtain ⟨parts, repeats, rfl⟩ := ih
      have shorter : (written ++ closing).length < (piece ++ (written ++ closing)).length := by
        have longer := List.length_pos_iff.2 filled
        simp only [List.length_append]
        omega
      refine ⟨front :: parts, ?_, List.flatten_cons⟩
      rw [List.append_assoc, repeated_of_some read shorter, repeats]

theorem spelled_of_runs (write : List Char → List Char) (literal : Char → Bool)
    (Fine : List Char → Prop) (suffix : ∀ before after, Fine (before ++ after) → Fine after)
    (runs : ∀ run after, run ≠ [] → (∀ c ∈ run, literal c) → Stops literal after →
      write (run ++ after) = run ++ write after ∧
        item (run ++ (write after ++ closing)) = some (run, write after ++ closing))
    (step : ∀ after, Stops literal after → Fine after →
      (∀ other, other.length < after.length → Fine other →
        Spelled item closing (write other) other) →
      Spelled item closing (write after) after)
    (fine : Fine text) : Spelled item closing (write text) text := by
  -- The induction is on the length, as a step takes any number of characters.
  induction size : text.length using Nat.strongRecOn generalizing text with
  | ind size ih =>
      obtain ⟨run, after, rfl, inside, stops⟩ := exists_run literal text
      have later : Spelled item closing (write after) after := by
        refine step after stops (suffix run after fine) fun other shorter other_fine => ?_
        refine ih other.length ?_ other_fine rfl
        rw [List.length_append] at size
        omega
      cases run with
      | nil => exact later
      | cons c run =>
          obtain ⟨written, read⟩ := runs (c :: run) after (List.cons_ne_nil c run) inside stops
          rw [written]
          exact .cons _ _ (List.cons_ne_nil c run) read later

end Spelled

end Lanewise.Parser
