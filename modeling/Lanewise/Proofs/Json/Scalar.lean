import Lanewise.Json.Reader
import Lanewise.Json.Writer
import Lanewise.Proofs.Text.Number
import Mathlib.Data.List.Basic
import Mathlib.Data.List.Count

open Lanewise.Parser

namespace Lanewise.Json

variable {rest : List Char} {c : Char} {condition : Char → Bool}

def isSpace (c : Char) : Bool := c = ' ' || c = '\t' || c = '\n' || c = '\r'

theorem space_eq (input : List Char) : space input = some ((), input.dropWhile isSpace) :=
  bind_of_some (congrArg some (List.span_eq_takeWhile_dropWhile isSpace input)) _

theorem mark_self (c : Char) (rest : List Char) :
    mark c (c :: rest) = some ((), rest.dropWhile isSpace) :=
  (bind_of_some (char_self c rest) _).trans (space_eq rest)

theorem mark_of_ne {other : Char} (differs : other ≠ c) (rest : List Char) :
    mark c (other :: rest) = none :=
  bind_of_none (char_of_ne differs rest) _

theorem dropWhile_of_stops (stops : Stops isSpace rest) : rest.dropWhile isSpace = rest := by
  cases rest with
  | nil => rfl
  | cons c rest => exact List.dropWhile_cons_of_neg (by simpa using stops)

theorem dropWhile_append {run : List Char} (blank : ∀ c ∈ run, isSpace c)
    (stops : Stops isSpace rest) : (run ++ rest).dropWhile isSpace = rest := by
  rw [List.dropWhile_append_of_pos blank, dropWhile_of_stops stops]

def ValueEnds (rest : List Char) : Prop := Stops (fun c => c ≠ ',' && c ≠ '\n') rest

theorem ValueEnds.stops (ends : ValueEnds rest) (comma : condition ',' = false)
    (line : condition '\n' = false) : Stops condition rest := by
  intro c head
  have marks : c = ',' ∨ c = '\n' := by
    have other := ends c head
    grind
  rcases marks with rfl | rfl <;> assumption

def isLiteral (c : Char) : Bool := ' ' ≤ c && c ≠ '"' && c ≠ '\\'

theorem escape_of_literal (literal : isLiteral c) : escape c = [c] := by
  have listed : ∀ entry ∈ escapeLetters, isLiteral entry.1 = false := by decide
  have missing : escapeLetters.lookup c = none := by
    rw [List.lookup_eq_none_iff]
    intro entry member
    rw [bne_iff_ne]
    rintro rfl
    rw [listed entry member] at literal
    cases literal
  have printable : ¬c < ' ' := by
    rw [Char.not_lt]
    simp only [isLiteral, Bool.and_eq_true, decide_eq_true_eq] at literal
    exact literal.1.1
  rw [escape, missing]
  exact if_neg printable

theorem flatMap_escape {run : List Char} (literal : ∀ c ∈ run, isLiteral c) :
    run.flatMap escape = run :=
  (List.flatMap_congr fun c listed => escape_of_literal (literal c listed)).trans
    (List.flatMap_singleton' run)

theorem lt_of_not_isLiteral (escaped : isLiteral c = false)
    (missing : escapeLetters.lookup c = none) : c < ' ' := by
  rw [List.lookup_eq_none_iff] at missing
  have quote : c ≠ '"' := by simpa using missing ('"', '"') (by decide)
  have slash : c ≠ '\\' := by simpa using missing ('\\', '\\') (by decide)
  rw [← Char.not_le]
  intro printable
  simp [isLiteral, printable, quote, slash] at escaped

theorem hexPadded_of_lt : ∀ n < 32,
    (Text.hexPadded 4 n).length = 4 ∧ (Text.hexPadded 4 n).all (Text.isDigitIn 16) ∧
      Text.valueIn 16 (Text.hexPadded 4 n) = n := by
  decide +kernel

theorem numbered_hexPadded (control : c < ' ') (rest : List Char) :
    numbered (Text.hexPadded 4 c.toNat ++ rest) = some (c, rest) := by
  have small : c.toNat < 32 := by
    rw [Char.lt_def, UInt32.lt_iff_toNat_lt] at control
    exact control
  obtain ⟨size, hex, value⟩ := hexPadded_of_lt c.toNat small
  have digits := exactly_append (List.all_eq_true.1 hex) rest
  rw [size] at digits
  have read : hexFour (Text.hexPadded 4 c.toNat ++ rest) = some (c.toNat, rest) := by
    rw [hexFour, map_of_some digits, value]
  have valid : c.toNat.isValidChar := c.valid
  rw [numbered, bind_of_some read, if_neg (by omega), if_pos valid, Char.ofNat_toNat]
  rfl

theorem unescape_escape (escaped : isLiteral c = false) (rest : List Char) :
    unescape (escape c ++ rest) = some ([c], rest) := by
  have letters : ∀ entry ∈ escapeLetters,
      entry.2 ≠ 'u' ∧ unescapeLetters.lookup entry.2 = some entry.1 := by decide
  cases found : escapeLetters.lookup c with
  | some letter =>
      obtain ⟨before, after, split, -⟩ := List.lookup_eq_some_iff.1 found
      obtain ⟨other, named⟩ := letters (c, letter) (by simp [split])
      rw [escape, found, unescape, List.cons_append, bind_of_some (char_self _ _),
        List.singleton_append, bind_of_some (satisfy_of_true rfl), if_neg other, named]
      rfl
  | none =>
      have control := lt_of_not_isLiteral escaped found
      rw [escape, found, unescape, if_pos control, List.append_assoc, List.cons_append,
        bind_of_some (char_self _ _), List.singleton_append, bind_of_some (satisfy_of_true rfl),
        if_pos rfl, bind_of_some (numbered_hexPadded control rest)]
      rfl

theorem escape_eq_cons (escaped : isLiteral c = false) : ∃ tail, escape c = '\\' :: tail := by
  cases found : escapeLetters.lookup c with
  | some letter => exact ⟨_, by rw [escape, found]⟩
  | none => exact ⟨_, by rw [escape, found, if_pos (lt_of_not_isLiteral escaped found)]; rfl⟩

theorem spelled_quoted (text rest : List Char) :
    Spelled (unescape <|> plain) ('"' :: rest) (text.flatMap escape) text := by
  have stops_written {after : List Char} (stops : Stops isLiteral after) :
      Stops isLiteral (after.flatMap escape ++ '"' :: rest) := by
    cases after with
    | nil => exact stops_cons.2 rfl
    | cons c after =>
        obtain ⟨tail, same⟩ := escape_eq_cons (stops_cons.1 stops)
        rw [List.flatMap_cons, same]
        exact stops_cons.2 rfl
  refine spelled_of_runs (·.flatMap escape) isLiteral (fun _ => True) (fun _ _ fine => fine)
    ?runs ?step trivial
  case runs =>
    intro run after filled literal stops
    refine ⟨by rw [List.flatMap_append, flatMap_escape literal], ?_⟩
    obtain ⟨c, run, rfl⟩ := List.exists_cons_of_ne_nil filled
    have differs : c ≠ '\\' := fun same => absurd (same ▸ literal c List.mem_cons_self) (by decide)
    refine (orElse_of_none (bind_of_none (char_of_ne differs _) _) _).trans ?_
    exact takeWhile1_append filled literal (stops_written stops)
  case step =>
    intro after stops _ shorter
    cases after with
    | nil => exact .nil
    | cons c after =>
        rw [stops_cons] at stops
        have later := shorter after (by simp) trivial
        obtain ⟨tail, same⟩ := escape_eq_cons stops
        exact .cons _ [c] (by simp [same]) (orElse_of_some (unescape_escape stops _) _) later

theorem quote_toList (value : String) :
    (quote value).toList = '"' :: (value.toList.flatMap escape ++ ['"']) := by
  simp [quote]

theorem text_quote (value : String) (rest : List Char) :
    text ((quote value).toList ++ rest) = some (value, rest.dropWhile isSpace) := by
  have stops : (unescape <|> plain) ('"' :: rest) = none := by
    refine (orElse_of_none (bind_of_none (satisfy_of_false rfl) _) _).trans ?_
    exact takeWhile1_of_stops (stops_cons.2 rfl)
  obtain ⟨parts, repeats, whole⟩ := (spelled_quoted value.toList rest).repeated stops
  rw [quote_toList, List.cons_append, List.append_assoc, List.singleton_append, text,
    bind_of_some (char_self _ _), bind_of_some (congrArg some repeats),
    bind_of_some (mark_self _ _), whole, String.ofList_toList]
  rfl

def fitsInteger (value : Int) : Bool := -0x8000000000000000 ≤ value && value < UInt64.size

theorem wholeDigits_toDigits (n : Nat) (stops : Stops Char.isDigit rest) :
    wholeDigits (Nat.toDigits 10 n ++ rest) = some (Nat.toDigits 10 n, rest) := by
  rcases Nat.eq_zero_or_pos n with rfl | positive
  · rfl
  have digits := takeWhile1_append Nat.toDigits_ne_nil (Text.isDigit_toDigits n) stops
  unfold wholeDigits
  split
  · next front => exact absurd front (Text.toDigits_append_ne positive _ _)
  · exact digits

theorem number_of_sign {input : List Char} {sign : Option Char} {value : Int} (n : Nat)
    (signed : maybe (char '-') input = some (sign, Nat.toDigits 10 n ++ rest))
    (fits : integer? sign.isSome n = some value) (ends : ValueEnds rest) :
    number input = some (.int value, rest.dropWhile isSpace) := by
  have places : fraction rest = none :=
    bind_of_none (satisfy_of_stops (ends.stops rfl rfl)) _
  have exponent : power rest = none :=
    bind_of_none (satisfy_of_stops (ends.stops rfl rfl)) _
  rw [number, bind_of_some signed,
    bind_of_some (wholeDigits_toDigits n (ends.stops (by decide) (by decide))),
    bind_of_some (maybe_of_none places), bind_of_some (maybe_of_none exponent),
    bind_of_some (space_eq rest), Text.valueIn_toDigits]
  simp only [Option.isNone_none, Bool.and_self, if_true, fits]
  rfl

theorem toList_ofNat (n : Nat) : (toString (Int.ofNat n)).toList = Nat.toDigits 10 n :=
  Nat.toList_repr

theorem toList_negSucc (n : Nat) :
    (toString (Int.negSucc n)).toList = '-' :: Nat.toDigits 10 (n + 1) := by
  change ("-" ++ Nat.repr (n + 1)).toList = _
  rw [String.toList_append, Nat.toList_repr]
  rfl

theorem number_int {value : Int} (fits : fitsInteger value) (ends : ValueEnds rest) :
    number ((toString value).toList ++ rest) = some (.int value, rest.dropWhile isSpace) := by
  simp only [fitsInteger, Bool.and_eq_true, decide_eq_true_eq] at fits
  cases value with
  | ofNat n =>
      have below : n < UInt64.size := Int.ofNat_lt.1 fits.2
      have stops : Stops (· = '-') (Nat.toDigits 10 n ++ rest) :=
        Text.stops_toDigits n (fun c digit => by simpa using ne_of_apart '-' digit rfl) rest
      rw [toList_ofNat]
      exact number_of_sign n (maybe_of_none (satisfy_of_stops stops)) (if_pos below) ends
  | negSucc n =>
      have above : 0 < n + 1 ∧ n + 1 ≤ 0x8000000000000000 := by omega
      rw [toList_negSucc]
      exact number_of_sign (n + 1) (maybe_of_some (char_self _ _)) (if_pos above) ends

theorem named_word (word : String) (value : Document) (rest : List Char) :
    named word value (word.toList ++ rest) = some (value, rest.dropWhile isSpace) := by
  have read : Parser.word word (word.toList ++ rest) = some ((), rest) := by
    rw [Parser.word, List.isPrefixOf?_eq_some_iff_append_eq.2 rfl]
    rfl
  rw [named, bind_of_some read, bind_of_some (space_eq rest)]
  rfl

theorem plainValue_null (rest : List Char) :
    plainValue ("null".toList ++ rest) = some (.null, rest.dropWhile isSpace) :=
  named_word "null" .null rest

theorem plainValue_bool (value : Bool) (rest : List Char) :
    plainValue ((if value then "true" else "false").toList ++ rest) =
      some (.bool value, rest.dropWhile isSpace) := by
  cases value with
  | false => exact named_word "false" (.bool false) rest
  | true =>
      refine (orElse_of_none rfl _).trans ((orElse_of_none rfl _).trans ?_)
      exact orElse_of_some (named_word "true" (.bool true) rest) _

theorem plainValue_text (value : String) (rest : List Char) :
    plainValue ((quote value).toList ++ rest) = some (.text value, rest.dropWhile isSpace) :=
  orElse_of_some (map_of_some (text_quote value rest) _) _

theorem stops_int (value : Int) (minus : condition '-' = false)
    (digits : ∀ c, c.isDigit → condition c = false) (rest : List Char) :
    Stops condition ((toString value).toList ++ rest) := by
  cases value with
  | ofNat n =>
      rw [toList_ofNat]
      exact Text.stops_toDigits n digits rest
  | negSucc n =>
      rw [toList_negSucc]
      exact stops_cons.2 minus

theorem plainValue_int {value : Int} (fits : fitsInteger value) (ends : ValueEnds rest) :
    plainValue ((toString value).toList ++ rest) = some (.int value, rest.dropWhile isSpace) := by
  have stops : Stops (· = '"') ((toString value).toList ++ rest) :=
    stops_int value rfl (fun c digit => by simpa using ne_of_apart '"' digit rfl) rest
  have no_text : text ((toString value).toList ++ rest) = none :=
    bind_of_none (satisfy_of_stops stops) _
  exact (orElse_of_none (map_of_none no_text _) _).trans (orElse_of_some (number_int fits ends) _)

end Lanewise.Json
