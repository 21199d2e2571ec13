import Lanewise.Proofs.Text.Number
import Lanewise.Proofs.Text.Parser
import Lanewise.Toml.Scalar
import Mathlib.Data.List.Count

open Lanewise.Parser

namespace Lanewise.Toml

variable {run rest : List Char} {condition : Char → Bool} {n : Nat}

def isValueEnd (c : Char) : Bool := c = '\n' || c = ',' || c = ']'

def ValueEnds (rest : List Char) : Prop := Stops (!isValueEnd ·) rest

theorem ValueEnds.stops (ends : ValueEnds rest) (line : condition '\n' = false)
    (comma : condition ',' = false) (bracket : condition ']' = false) : Stops condition rest := by
  intro c head
  have marks : isValueEnd c := by simpa using ends c head
  have cases : c = '\n' ∨ c = ',' ∨ c = ']' := by simpa [isValueEnd, or_assoc] using marks
  obtain rfl | rfl | rfl := cases <;> assumption

theorem stops_append (digits : ∀ c ∈ run, Text.isDigitIn 10 c)
    (apart : ∀ c, Text.isDigitIn 10 c → condition c = false) (stops : Stops condition rest) :
    Stops condition (run ++ rest) := by
  cases run with
  | nil => exact stops
  | cons c run => exact stops_cons.2 (apart c (digits c List.mem_cons_self))

theorem exactly_run (inside : ∀ c ∈ run, condition c) (stops : Stops condition rest) (count : Nat) :
    exactly condition count (run ++ rest) =
      if count ≤ run.length then some (run.take count, run.drop count ++ rest) else none := by
  induction run generalizing count with
  | nil =>
      cases count with
      | zero => rfl
      | succ count => exact bind_of_none (satisfy_of_stops stops) _
  | cons c run ih =>
      cases count with
      | zero => rfl
      | succ count =>
          have later := ih (fun c listed => inside c (List.mem_cons_of_mem _ listed)) count
          rw [exactly, List.cons_append,
            bind_of_some (satisfy_of_true (inside c List.mem_cons_self))]
          by_cases enough : count ≤ run.length
          · rw [if_pos enough] at later
            rw [if_pos (by simpa using enough), bind_of_some later]
            rfl
          · rw [if_neg enough] at later
            rw [if_neg (by simpa using enough)]
            exact bind_of_none later _

theorem field_eq_some {width low high value : Nat} {input after : List Char}
    (read : field width low high input = some (value, after)) :
    ∃ digits, exactly (Text.isDigitIn 10) width input = some (digits, after) := by
  cases front : exactly (Text.isDigitIn 10) width input with
  | none =>
      rw [field, bind_of_none front] at read
      cases read
  | some result =>
      rw [field, bind_of_some front] at read
      split at read
      · cases read
      · cases read
        exact ⟨_, rfl⟩

theorem field_char_eq_none {α : Type} {mark : Char} (digits : ∀ c ∈ run, Text.isDigitIn 10 c)
    (stops : Stops (Text.isDigitIn 10) rest) (apart : Stops (· = mark) rest)
    (other : Text.isDigitIn 10 mark = false) (width low high : Nat) (next : Nat → Parser α) :
    (do
      let value ← field width low high
      let _ ← char mark
      next value) (run ++ rest) = none := by
  have whole := exactly_run digits stops width
  by_cases enough : width ≤ run.length
  · rw [if_pos enough] at whole
    have missing : char mark (run.drop width ++ rest) = none := by
      cases left : run.drop width with
      | nil => exact satisfy_of_stops apart
      | cons c tail =>
          refine char_of_ne ?_ _
          rintro rfl
          have listed : c ∈ run := List.mem_of_mem_drop (left ▸ List.mem_cons_self)
          rw [digits c listed] at other
          cases other
    cases read : field width low high (run ++ rest) with
    | none => exact bind_of_none read _
    | some result =>
        obtain ⟨value, after⟩ := result
        obtain ⟨taken, front⟩ := field_eq_some read
        rw [whole, Option.some.injEq, Prod.mk.injEq] at front
        rw [bind_of_some read]
        exact bind_of_none (front.2 ▸ missing) _
  · rw [if_neg enough] at whole
    exact bind_of_none (bind_of_none whole _) _

theorem moment_eq_none (digits : ∀ c ∈ run, Text.isDigitIn 10 c) (ends : ValueEnds rest) :
    moment (run ++ rest) = none := by
  have stops : Stops (Text.isDigitIn 10) rest := ends.stops (by decide) (by decide) (by decide)
  have day : date (run ++ rest) = none :=
    field_char_eq_none digits stops (ends.stops rfl rfl rfl) (by decide) _ _ _ _
  have hour : hourMinute (run ++ rest) = none :=
    field_char_eq_none digits stops (ends.stops rfl rfl rfl) (by decide) _ _ _ _
  rw [moment, orElse_of_none (bind_of_none day _)]
  exact bind_of_none hour _

theorem wholeDigits_toDigits (n : Nat) (ends : ValueEnds rest) :
    wholeDigits (Nat.toDigits 10 n ++ rest) = some (Nat.toDigits 10 n, rest) := by
  rcases Nat.eq_zero_or_pos n with rfl | positive
  · rfl
  have group := takeWhile1_append Nat.toDigits_ne_nil (Text.isDigitIn_toDigits n)
    (ends.stops (by decide) (by decide) (by decide))
  have single : digits 10 (Nat.toDigits 10 n ++ rest) = some (Nat.toDigits 10 n, rest) := by
    have stops : (do let _ ← char '_'; takeWhile1 (Text.isDigitIn 10)) rest = none :=
      bind_of_none (satisfy_of_stops (ends.stops rfl rfl rfl)) _
    rw [digits, bind_of_some (separated_of_repeated group (repeated_of_none stops)),
      List.flatten_singleton]
    rfl
  unfold wholeDigits
  split
  · next front => exact absurd front (Text.toDigits_append_ne positive _ _)
  · exact single

theorem sign_toDigits (n : Nat) (rest : List Char) :
    sign (Nat.toDigits 10 n ++ rest) = some (false, Nat.toDigits 10 n ++ rest) := by
  refine bind_of_some (maybe_of_none (satisfy_of_stops (Text.stops_toDigits n ?_ rest))) _
  intro c digit
  have plus : c ≠ '+' := fun same => absurd (same ▸ digit) (by decide)
  have minus : c ≠ '-' := fun same => absurd (same ▸ digit) (by decide)
  simp [plus, minus]

theorem decimalFloat_eq_none (n : Nat) (ends : ValueEnds rest) :
    decimalFloat (Nat.toDigits 10 n ++ rest) = none := by
  have places : fraction rest = none :=
    bind_of_none (satisfy_of_stops (ends.stops rfl rfl rfl)) _
  have exponent : power rest = none :=
    bind_of_none (satisfy_of_stops (ends.stops rfl rfl rfl)) _
  rw [decimalFloat, bind_of_some (sign_toDigits n rest),
    bind_of_some (wholeDigits_toDigits n ends), bind_of_some (maybe_of_none places),
    bind_of_some (maybe_of_none exponent)]
  rfl

theorem word_toDigits {text : String} {mark : Char} (n : Nat) (spelled : text.toList = ['0', mark])
    (other : Text.isDigitIn 10 mark = false) (apart : Stops (· = mark) rest) :
    word text (Nat.toDigits 10 n ++ rest) = none := by
  have digits := Text.isDigitIn_toDigits n
  obtain ⟨c, tail, same⟩ := List.exists_cons_of_ne_nil (Nat.toDigits_ne_nil (n := n))
  rw [same] at digits ⊢
  have stops : Stops (· = mark) (tail ++ rest) := by
    refine stops_append (fun c listed => digits c (List.mem_cons_of_mem _ listed)) ?_ apart
    intro c digit
    refine decide_eq_false fun same => ?_
    rw [← same, digit] at other
    cases other
  rw [word, spelled, Option.map_eq_none_iff, Option.eq_none_iff_forall_ne_some]
  intro left found
  have front : ['0', mark] ++ left = c :: (tail ++ rest) :=
    List.isPrefixOf?_eq_some_iff_append_eq.1 found
  rw [← (List.cons.inj front).2] at stops
  exact of_decide_eq_false (stops_cons.1 stops) rfl

theorem integer_toDigits (fits : n < 0x8000000000000000) (ends : ValueEnds rest) :
    integer (Nat.toDigits 10 n ++ rest) = some ((n : Int), rest) := by
  have hex : baseInteger "0x" 16 (Nat.toDigits 10 n ++ rest) = none :=
    bind_of_none (word_toDigits n rfl (by decide) (ends.stops rfl rfl rfl)) _
  have octal : baseInteger "0o" 8 (Nat.toDigits 10 n ++ rest) = none :=
    bind_of_none (word_toDigits n rfl (by decide) (ends.stops rfl rfl rfl)) _
  have binary : baseInteger "0b" 2 (Nat.toDigits 10 n ++ rest) = none :=
    bind_of_none (word_toDigits n rfl (by decide) (ends.stops rfl rfl rfl)) _
  have inside : int64? (n : Int) = some (n : Int) := if_pos (by omega)
  rw [integer, orElse_of_none hex, orElse_of_none octal, orElse_of_none binary, decimalInteger,
    bind_of_some (sign_toDigits n rest), bind_of_some (wholeDigits_toDigits n ends),
    Text.valueIn_toDigits, if_neg (by simp), inside]
  rfl

theorem scalar_toDigits (fits : n < 0x8000000000000000) (ends : ValueEnds rest) :
    scalar (Nat.toDigits 10 n ++ rest) = some (.int n, rest) := by
  rw [scalar, orElse_of_none (bind_of_none (moment_eq_none (Text.isDigitIn_toDigits n) ends) _),
    orElse_of_none (map_of_none (decimalFloat_eq_none n ends) _)]
  exact orElse_of_some (map_of_some (integer_toDigits fits ends) _) _

theorem scalar_true (rest : List Char) : scalar ("true".toList ++ rest) = some (.bool true, rest) :=
  rfl

theorem scalar_false (rest : List Char) :
    scalar ("false".toList ++ rest) = some (.bool false, rest) :=
  rfl

end Lanewise.Toml
