import Lanewise.Proofs.Text.Parser
import Lanewise.Toml.Quoted
import Mathlib.Data.List.Basic

open Lanewise.Parser

namespace Lanewise.Toml

variable {item : Parser (List Char)} {written text rest after : List Char} {mark c : Char}

def isLiteral (c : Char) : Bool := isPlain c && c ≠ '\t' && c ≠ '"' && c ≠ '\\'

theorem isLiteral_iff : isLiteral c ↔ isPlain c ∧ c ≠ '\t' ∧ c ≠ '"' ∧ c ≠ '\\' := by
  simp [isLiteral, and_assoc]

theorem escapeInLine_eq (c : Char) :
    escapeInLine c = if isLiteral c then [c] else escapeControl c := rfl

def isLineMark (c : Char) : Bool := c = '\n' || c = '\r'

theorem toNat_lt_of_not_isLiteral (escaped : isLiteral c = false) : c.toNat < 128 := by
  by_cases control : ' ' ≤ c
  · have special : c = '\x7f' ∨ c = '\t' ∨ c = '"' ∨ c = '\\' := by
      simp only [isLiteral, isPlain, control] at escaped
      grind
    rcases special with rfl | rfl | rfl | rfl <;> decide
  · rw [Char.not_le, Char.lt_def, UInt32.lt_iff_toNat_lt] at control
    exact Nat.lt_trans control (by decide)

theorem hexPadded_of_lt : ∀ n < 128,
    let digits := (Text.hexPadded 4 n).map Char.toUpper
    digits.length = 4 ∧ digits.all isHexDigit ∧ Text.valueIn 16 digits = n := by
  decide +kernel

theorem charOf?_toNat (c : Char) : charOf? c.toNat = some c := by
  have valid : c.toNat.isValidChar := c.valid
  rw [charOf?, if_pos valid, Char.ofNat_toNat]

theorem hexChar_append {digits : List Char} (hex : ∀ c ∈ digits, isHexDigit c)
    (value : Text.valueIn 16 digits = c.toNat) (rest : List Char) :
    hexChar digits.length (digits ++ rest) = some (c, rest) := by
  rw [hexChar, bind_of_some (exactly_append hex rest), value, charOf?_toNat]
  rfl

theorem escape_letter {letter : Char} (listed : (letter, c) ∈ escapeLetters) (rest : List Char) :
    escape ('\\' :: letter :: rest) = some ([c], rest) := by
  simp only [escapeLetters, List.mem_cons, Prod.mk.injEq, List.not_mem_nil, or_false] at listed
  rcases listed with ⟨rfl, rfl⟩ | ⟨rfl, rfl⟩ | ⟨rfl, rfl⟩ | ⟨rfl, rfl⟩ | ⟨rfl, rfl⟩ | ⟨rfl, rfl⟩ |
    ⟨rfl, rfl⟩ <;> rfl

theorem escape_escapeControl (escaped : isLiteral c = false) (rest : List Char) :
    escape (escapeControl c ++ rest) = some ([c], rest) := by
  unfold escapeControl
  split
  · next letter _ found =>
    have named := List.find?_some found
    have listed := List.mem_of_find?_eq_some found
    obtain rfl := of_decide_eq_true named
    exact escape_letter listed rest
  · obtain ⟨size, hex, value⟩ := hexPadded_of_lt c.toNat (toNat_lt_of_not_isLiteral escaped)
    have read := hexChar_append (List.all_eq_true.1 hex) value rest
    rw [size] at read
    rw [escape, List.append_assoc, List.cons_append, bind_of_some (char_self _ _),
      List.cons_append, bind_of_some (satisfy_of_true rfl), List.nil_append]
    exact bind_of_some read _

theorem escapeControl_eq_cons (c : Char) : ∃ letter tail,
    escapeControl c = '\\' :: letter :: tail ∧
      isBlank letter = false ∧ isLineMark letter = false := by
  unfold escapeControl
  split
  · next letter _ found =>
    have listed := List.mem_map_of_mem (f := Prod.fst) (List.mem_of_find?_eq_some found)
    have fine : ∀ letter ∈ escapeLetters.map Prod.fst,
        isBlank letter = false ∧ isLineMark letter = false := by
      simp [escapeLetters, isBlank, isLineMark]
    exact ⟨letter, [], rfl, fine letter listed⟩
  · exact ⟨'u', _, rfl, by decide⟩

theorem stops_inLine {condition : Char → Bool} (quote : condition '"' = false)
    (slash : condition '\\' = false) (stops : Stops isLiteral after) (rest : List Char) :
    Stops condition (after.flatMap escapeInLine ++ '"' :: rest) := by
  cases after with
  | nil => simpa using quote
  | cons c after =>
      obtain ⟨letter, tail, same, -⟩ := escapeControl_eq_cons c
      rw [stops_cons] at stops
      rw [List.flatMap_cons, escapeInLine_eq, stops]
      simpa [same] using slash

theorem unescaped_append {run : List Char} (filled : run ≠ []) (literal : ∀ c ∈ run, isLiteral c)
    (stops : Stops (fun c => isPlain c && c ≠ '"' && c ≠ '\\') rest) :
    unescaped (run ++ rest) = some (run, rest) := by
  refine takeWhile1_append filled (fun c listed => ?_) stops
  obtain ⟨plain, -, quote, slash⟩ := isLiteral_iff.1 (literal c listed)
  simp [plain, quote, slash]

theorem unescaped_of_stops (stops : Stops (fun c => isPlain c && c ≠ '"' && c ≠ '\\') rest) :
    unescaped rest = none :=
  takeWhile1_of_stops stops

theorem flatMap_escapeInLine {run : List Char} (literal : ∀ c ∈ run, isLiteral c) :
    run.flatMap escapeInLine = run := by
  have plain : ∀ c ∈ run, escapeInLine c = [c] := fun c listed => by
    rw [escapeInLine_eq, if_pos (literal c listed)]
  exact (List.flatMap_congr plain).trans (List.flatMap_singleton' run)

theorem escape_of_stops (stops : Stops (· = '\\') rest) : escape rest = none :=
  bind_of_none (satisfy_of_stops stops) _

theorem stops_slash {run : List Char} (filled : run ≠ []) (literal : ∀ c ∈ run, isLiteral c)
    (rest : List Char) : Stops (· = '\\') (run ++ rest) := by
  obtain ⟨c, run, rfl⟩ := List.exists_cons_of_ne_nil filled
  have head := isLiteral_iff.1 (literal c List.mem_cons_self)
  exact stops_cons.2 (by simpa using head.2.2.2)

theorem spelled_inLine (text rest : List Char) :
    Spelled (escape <|> unescaped) ('"' :: rest) (text.flatMap escapeInLine) text := by
  refine spelled_of_runs (·.flatMap escapeInLine) isLiteral (fun _ => True) (fun _ _ fine => fine)
    ?runs ?step trivial
  case runs =>
    intro run after filled literal stops
    refine ⟨by rw [List.flatMap_append, flatMap_escapeInLine literal], ?_⟩
    rw [orElse_of_none (escape_of_stops (stops_slash filled literal _))]
    exact unescaped_append filled literal (stops_inLine (by decide) (by decide) stops rest)
  case step =>
    intro after stops _ shorter
    cases after with
    | nil => exact .nil
    | cons c after =>
        rw [stops_cons] at stops
        obtain ⟨letter, tail, same, -⟩ := escapeControl_eq_cons c
        have later := shorter after (by simp) trivial
        rw [List.flatMap_cons, escapeInLine_eq, stops]
        exact .cons _ [c] (by simp [same]) (orElse_of_some (escape_escapeControl stops _) _) later

theorem singleLine_of_spelled (spelled : Spelled item (mark :: rest) written text)
    (stops : item (mark :: rest) = none) :
    singleLine mark item (mark :: (written ++ mark :: rest)) = some (text, rest) := by
  obtain ⟨parts, repeats, rfl⟩ := spelled.repeated stops
  rw [singleLine, bind_of_some (char_self _ _), bind_of_some (congrArg some repeats),
    bind_of_some (char_self _ _)]
  rfl

theorem lineText_inLine (text rest : List Char) :
    lineText ('"' :: (text.flatMap escapeInLine ++ '"' :: rest)) = some (text, rest) := by
  refine orElse_of_some (singleLine_of_spelled (spelled_inLine text rest) ?_) _
  rw [orElse_of_none (escape_of_stops (stops_cons.2 rfl))]
  exact takeWhile1_of_stops (stops_cons.2 rfl)

theorem verbatim_append {run : List Char} (filled : run ≠ [])
    (plain : ∀ c ∈ run, isPlain c ∧ c ≠ '\'')
    (stops : Stops (fun c => isPlain c && c ≠ '\'') rest) :
    verbatim (run ++ rest) = some (run, rest) :=
  takeWhile1_append filled (fun c listed => by simp [plain c listed]) stops

theorem lineText_verbatim (plain : ∀ c ∈ text, isPlain c ∧ c ≠ '\'') (rest : List Char) :
    lineText ('\'' :: (text ++ '\'' :: rest)) = some (text, rest) := by
  have stops : Stops (fun c => isPlain c && c ≠ '\'') ('\'' :: rest) := stops_cons.2 rfl
  have spelled : Spelled verbatim ('\'' :: rest) text text := by
    cases text with
    | nil => exact .nil
    | cons c text =>
        have read := verbatim_append (List.cons_ne_nil c text) plain stops
        have whole := Spelled.cons _ _ (List.cons_ne_nil c text) read .nil
        simpa using whole
  rw [lineText, orElse_of_none]
  · exact singleLine_of_spelled spelled (takeWhile1_of_stops stops)
  · exact bind_of_none (char_of_ne (by decide) _) _

end Lanewise.Toml
