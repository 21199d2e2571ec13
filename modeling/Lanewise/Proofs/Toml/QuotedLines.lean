import Lanewise.Proofs.Toml.QuotedLine

open Lanewise.Parser

namespace Lanewise.Toml

variable {item : Parser (List Char)} {written text rest after : List Char} {mark c : Char}

/-! ## Quotes on several lines -/

/-- A run of quotes ends here, or ends in the three quotes that close a text. -/
def EndsRun (mark : Char) (after : List Char) : Prop :=
  Stops (· = mark) after ∨
    ∃ rest, after = mark :: mark :: mark :: rest ∧ Stops (· = mark) rest

theorem takeWhile_eq_nil {condition : Char → Bool} (stops : Stops condition rest) :
    rest.takeWhile condition = [] := by
  cases rest with
  | nil => rfl
  | cons c rest => exact List.takeWhile_cons_of_neg (by simpa using stops)

theorem innerQuotes_append {run : List Char} (few : run = [mark] ∨ run = [mark, mark])
    (ends : EndsRun mark after) : innerQuotes mark (run ++ after) = some (run, after) := by
  have all : ∀ c ∈ run, decide (c = mark) := by rcases few with rfl | rfl <;> simp
  have read : exactly (· = mark) run.length (run ++ after) = some (run, after) :=
    exactly_append all after
  obtain stops | ⟨rest, rfl, stops⟩ := ends
  · rcases few with rfl | rfl <;> simpa [innerQuotes, takeWhile_eq_nil stops] using read
  · rcases few with rfl | rfl <;> simpa [innerQuotes, takeWhile_eq_nil stops] using read

theorem innerQuotes_closing (stops : Stops (· = mark) rest) :
    innerQuotes mark (mark :: mark :: mark :: rest) = none := by
  simp [innerQuotes, takeWhile_eq_nil stops]

/-! ## On several lines -/

theorem newline_of_stops (stops : Stops isLineMark rest) : newline rest = none := by
  cases rest with
  | nil => rfl
  | cons c rest =>
      rw [stops_cons] at stops
      have other : c ≠ '\n' ∧ c ≠ '\r' := by simpa [isLineMark] using stops
      rw [newline, orElse_of_none (char_of_ne other.1 rest)]
      exact bind_of_none (char_of_ne other.2 rest) _

theorem newline_cons (rest : List Char) : newline ('\n' :: rest) = some ('\n', rest) :=
  orElse_of_some (char_self _ _) _

theorem multiLine_of_spelled
    (spelled : Spelled (item <|> innerQuotes mark) (mark :: mark :: mark :: rest) written text)
    (stops : (item <|> innerQuotes mark) (mark :: mark :: mark :: rest) = none)
    (opens : '\n' ∈ text ∨ Stops isLineMark (written ++ mark :: mark :: mark :: rest)) :
    multiLine mark item (onLines [mark, mark, mark] text written ++ rest) = some (text, rest) := by
  obtain ⟨parts, repeats, flat⟩ := spelled.repeated stops
  have all : ∀ c ∈ [mark, mark, mark], decide (c = mark) := by simp
  have fenced (rest : List Char) : fence mark (mark :: mark :: mark :: rest) = some ((), rest) :=
    bind_of_some (exactly_append all rest) _
  have body : (do
      let parts ← many (item <|> innerQuotes mark)
      fence mark
      return parts.flatten : Parser (List Char)) (written ++ mark :: mark :: mark :: rest) =
        some (text, rest) := by
    rw [bind_of_some (congrArg some repeats), bind_of_some (fenced rest), ← flat]
    rfl
  by_cases lines : '\n' ∈ text
  · have same : onLines [mark, mark, mark] text written ++ rest =
        mark :: mark :: mark :: '\n' :: (written ++ mark :: mark :: mark :: rest) := by
      simp [onLines, lines]
    rw [same, multiLine, bind_of_some (fenced _),
      bind_of_some (maybe_of_some (newline_cons _))]
    exact body
  · have same : onLines [mark, mark, mark] text written ++ rest =
        mark :: mark :: mark :: (written ++ mark :: mark :: mark :: rest) := by
      simp [onLines, lines]
    rw [same, multiLine, bind_of_some (fenced _),
      bind_of_some (maybe_of_none (newline_of_stops (opens.resolve_left lines)))]
    exact body

abbrev escapedPiece : Parser (List Char) :=
  (lineJoin <|> escape <|> unescaped <|> innerNewline) <|> innerQuotes '"'

theorem lineJoin_of_stops (stops : Stops (· = '\\') rest) : lineJoin rest = none :=
  bind_of_none (satisfy_of_stops stops) _

theorem lineJoin_escapeControl (c : Char) (rest : List Char) :
    lineJoin (escapeControl c ++ rest) = none := by
  obtain ⟨letter, tail, same, blank, lineMark⟩ := escapeControl_eq_cons c
  have none_blank : blanks (letter :: (tail ++ rest)) = some ((), letter :: (tail ++ rest)) :=
    bind_of_some (takeWhile_of_stops (stops_cons.2 blank)) _
  rw [same, lineJoin, List.cons_append, List.cons_append, bind_of_some (char_self _ _),
    bind_of_some none_blank]
  exact bind_of_none (newline_of_stops (stops_cons.2 lineMark)) _

theorem escapedPiece_escape (escaped : isLiteral c = false) (rest : List Char) :
    escapedPiece (escapeControl c ++ rest) = some ([c], rest) := by
  refine orElse_of_some ?_ _
  rw [orElse_of_none (lineJoin_escapeControl c rest)]
  exact orElse_of_some (escape_escapeControl escaped rest) _

theorem escapedPiece_literal {run : List Char} (filled : run ≠ [])
    (literal : ∀ c ∈ run, isLiteral c)
    (stops : Stops (fun c => isPlain c && c ≠ '"' && c ≠ '\\') rest) :
    escapedPiece (run ++ rest) = some (run, rest) := by
  have slash := stops_slash filled literal rest
  refine orElse_of_some ?_ _
  rw [orElse_of_none (lineJoin_of_stops slash), orElse_of_none (escape_of_stops slash)]
  exact orElse_of_some (unescaped_append filled literal stops) _

theorem escapedPiece_newline (rest : List Char) :
    escapedPiece ('\n' :: rest) = some (['\n'], rest) := by
  have slash : Stops (· = '\\') ('\n' :: rest) := stops_cons.2 rfl
  refine orElse_of_some ?_ _
  rw [orElse_of_none (lineJoin_of_stops slash), orElse_of_none (escape_of_stops slash),
    orElse_of_none (unescaped_of_stops (stops_cons.2 rfl))]
  exact bind_of_some (newline_cons rest) _

theorem escapedPiece_quote (rest : List Char) :
    escapedPiece ('"' :: rest) = innerQuotes '"' ('"' :: rest) := by
  have slash : Stops (· = '\\') ('"' :: rest) := stops_cons.2 rfl
  refine orElse_of_none ?_ _
  rw [orElse_of_none (lineJoin_of_stops slash), orElse_of_none (escape_of_stops slash),
    orElse_of_none (unescaped_of_stops (stops_cons.2 rfl))]
  exact bind_of_none (newline_of_stops (stops_cons.2 rfl)) _

theorem escapeInLines_of_stops (stops : Stops (· = '"') text) (run : Nat) :
    escapeInLines run text = escapeInLines 0 text := by
  cases text with
  | nil => rfl
  | cons c text =>
      have other : c ≠ '"' := by simpa using stops
      rw [escapeInLines, escapeInLines, if_neg other, if_neg other]

theorem escapeInLines_literal {run : List Char} (literal : ∀ c ∈ run, isLiteral c)
    (after : List Char) : escapeInLines 0 (run ++ after) = run ++ escapeInLines 0 after := by
  induction run with
  | nil => rfl
  | cons c run ih =>
      obtain ⟨plain, -, quote, -⟩ := isLiteral_iff.1 (literal c List.mem_cons_self)
      have line : c ≠ '\n' := by
        rintro rfl
        exact absurd plain (by decide)
      rw [List.cons_append, escapeInLines, if_neg quote, if_neg line, escapeInLine_eq,
        if_pos (literal c List.mem_cons_self),
        ih fun c listed => literal c (List.mem_cons_of_mem _ listed)]
      rfl

theorem escapeInLines_escaped (escaped : isLiteral c = false) (quote : c ≠ '"') (line : c ≠ '\n')
    (rest : List Char) :
    escapeInLines 0 (c :: rest) = escapeControl c ++ escapeInLines 0 rest := by
  rw [escapeInLines, if_neg quote, if_neg line, escapeInLine_eq, escaped]
  rfl

theorem stops_escapeInLines {condition : Char → Bool} (slash : condition '\\' = false)
    (closing : after = [] → Stops condition rest)
    (head : ∀ c ∈ after.head?, isLiteral c ∨ c = '"' ∨ c = '\n' → condition c = false) :
    Stops condition (escapeInLines 0 after ++ rest) := by
  cases after with
  | nil => exact closing rfl
  | cons c after =>
      by_cases quote : c = '"'
      · subst quote
        exact stops_cons.2 (head _ rfl (.inr (.inl rfl)))
      by_cases line : c = '\n'
      · subst line
        exact stops_cons.2 (head _ rfl (.inr (.inr rfl)))
      by_cases literal : isLiteral c
      · rw [escapeInLines, if_neg quote, if_neg line, escapeInLine_eq, if_pos literal]
        exact stops_cons.2 (head _ rfl (.inl literal))
      · obtain ⟨letter, tail, same, -⟩ := escapeControl_eq_cons c
        rw [escapeInLines_escaped (by simpa using literal) quote line, same]
        exact stops_cons.2 slash

theorem endsRun_escapeInLines (apart : Stops (· = '"') after) (stops : Stops (· = '"') rest) :
    EndsRun '"' (escapeInLines 0 after ++ '"' :: '"' :: '"' :: rest) := by
  cases after with
  | nil => exact .inr ⟨rest, rfl, stops⟩
  | cons c after =>
      refine .inl (stops_escapeInLines rfl (by simp) fun d head _ => ?_)
      obtain rfl : c = d := by simpa using head
      exact stops_cons.1 apart

theorem exists_cons_of_not_stops (goes : ¬Stops (· = mark) text) :
    ∃ after, text = mark :: after := by
  cases text with
  | nil => exact absurd stops_nil goes
  | cons c text => exact ⟨text, by simpa using goes⟩

/-- One or two quotes stand for themselves. Of three the last one is escaped. -/
theorem spelled_quotes (stops : Stops (· = '"') rest)
    (shorter : ∀ text : List Char, text.length ≤ after.length →
      Spelled escapedPiece ('"' :: '"' :: '"' :: rest) (escapeInLines 0 text) text) :
    Spelled escapedPiece ('"' :: '"' :: '"' :: rest) (escapeInLines 0 ('"' :: after))
      ('"' :: after) := by
  by_cases one : Stops (· = '"') after
  · have written : escapeInLines 0 ('"' :: after) = ['"'] ++ escapeInLines 0 after := by
      rw [← escapeInLines_of_stops one 1]
      rfl
    rw [written]
    refine .cons ['"'] ['"'] (by simp) ?_ (shorter after Nat.le.refl)
    rw [List.singleton_append, escapedPiece_quote]
    exact innerQuotes_append (.inl rfl) (endsRun_escapeInLines one stops)
  obtain ⟨after, rfl⟩ := exists_cons_of_not_stops one
  by_cases two : Stops (· = '"') after
  · have written : escapeInLines 0 ('"' :: '"' :: after) = ['"', '"'] ++ escapeInLines 0 after := by
      rw [← escapeInLines_of_stops two 2]
      rfl
    rw [written]
    refine .cons ['"', '"'] ['"', '"'] (by simp) ?_ (shorter after (by simp))
    rw [List.cons_append, List.singleton_append, escapedPiece_quote]
    exact innerQuotes_append (.inr rfl) (endsRun_escapeInLines two stops)
  obtain ⟨after, rfl⟩ := exists_cons_of_not_stops two
  have written : escapeInLines 0 ('"' :: '"' :: '"' :: after) =
      ['"', '"'] ++ (escapeControl '"' ++ escapeInLines 0 after) := rfl
  rw [written]
  have later := shorter after (by simp only [List.length_cons]; omega)
  refine .cons ['"', '"'] ['"', '"'] (by simp) ?_
    (.cons (escapeControl '"') ['"'] (by decide) (escapedPiece_escape rfl _) later)
  rw [List.cons_append, List.singleton_append, escapedPiece_quote]
  exact innerQuotes_append (.inr rfl) (.inl (stops_cons.2 rfl))

theorem spelled_inLines (text : List Char) (stops : Stops (· = '"') rest) :
    Spelled escapedPiece ('"' :: '"' :: '"' :: rest) (escapeInLines 0 text) text := by
  refine spelled_of_runs (escapeInLines 0) isLiteral (fun _ => True) (fun _ _ fine => fine)
    ?runs ?step trivial
  case runs =>
    intro run after filled literal ends
    refine ⟨escapeInLines_literal literal after, escapedPiece_literal filled literal ?_⟩
    refine stops_escapeInLines rfl (fun _ => stops_cons.2 rfl) fun c head kind => ?_
    obtain literal | rfl | rfl := kind
    · exact absurd literal (by simpa using ends c head)
    · rfl
    · rfl
  case step =>
    intro after ends _ shorter
    cases after with
    | nil => exact .nil
    | cons c after =>
        rw [stops_cons] at ends
        have later (other : List Char) (length_le : other.length ≤ after.length) :
            Spelled escapedPiece ('"' :: '"' :: '"' :: rest) (escapeInLines 0 other) other :=
          shorter other (Nat.lt_succ_of_le length_le) trivial
        by_cases quote : c = '"'
        · subst quote
          exact spelled_quotes stops later
        by_cases line : c = '\n'
        · subst line
          exact .cons ['\n'] ['\n'] (by simp) (escapedPiece_newline _) (later after Nat.le.refl)
        · rw [escapeInLines_escaped ends quote line]
          obtain ⟨letter, tail, same, -⟩ := escapeControl_eq_cons c
          exact .cons _ [c] (by simp [same]) (escapedPiece_escape ends _) (later after Nat.le.refl)

abbrev verbatimPiece : Parser (List Char) := (verbatim <|> innerNewline) <|> innerQuotes '\''

theorem verbatimPiece_plain {run : List Char} (filled : run ≠ [])
    (plain : ∀ c ∈ run, isPlain c && c ≠ '\'')
    (stops : Stops (fun c => isPlain c && c ≠ '\'') rest) :
    verbatimPiece (run ++ rest) = some (run, rest) :=
  orElse_of_some (orElse_of_some (takeWhile1_append filled plain stops) _) _

theorem verbatimPiece_newline (rest : List Char) :
    verbatimPiece ('\n' :: rest) = some (['\n'], rest) := by
  have fails : verbatim ('\n' :: rest) = none := takeWhile1_of_stops (stops_cons.2 rfl)
  refine orElse_of_some ?_ _
  rw [orElse_of_none fails]
  exact bind_of_some (newline_cons rest) _

theorem verbatimPiece_quote (rest : List Char) :
    verbatimPiece ('\'' :: rest) = innerQuotes '\'' ('\'' :: rest) := by
  have fails : verbatim ('\'' :: rest) = none := takeWhile1_of_stops (stops_cons.2 rfl)
  refine orElse_of_none ?_ _
  rw [orElse_of_none fails]
  exact bind_of_none (newline_of_stops (stops_cons.2 rfl)) _

theorem endsRun_append (apart : Stops (· = mark) after) (stops : Stops (· = mark) rest) :
    EndsRun mark (after ++ mark :: mark :: mark :: rest) := by
  cases after with
  | nil => exact .inr ⟨rest, rfl, stops⟩
  | cons c after => exact .inl (stops_cons.2 (stops_cons.1 apart))

def FitsVerbatim (text : List Char) : Prop :=
  (∀ c ∈ text, isPlain c ∨ c = '\n') ∧ ¬['\'', '\'', '\''] <:+: text

theorem FitsVerbatim.suffix (before : List Char) (fits : FitsVerbatim (before ++ after)) :
    FitsVerbatim after :=
  ⟨fun c listed => fits.1 c (by simp [listed]),
    fun long => fits.2 (long.trans (List.suffix_append before after).isInfix)⟩

theorem spelled_verbatimLines (fits : FitsVerbatim text) (stops : Stops (· = '\'') rest) :
    Spelled verbatimPiece ('\'' :: '\'' :: '\'' :: rest) text text := by
  refine spelled_of_runs (fun text => text) (fun c => isPlain c && c ≠ '\'') FitsVerbatim
    (fun before _ fits => FitsVerbatim.suffix before fits) ?runs ?step fits
  case runs =>
    intro run after filled plain ends
    refine ⟨rfl, verbatimPiece_plain filled plain ?_⟩
    cases after with
    | nil => exact stops_cons.2 rfl
    | cons c after => exact stops_cons.2 (stops_cons.1 ends)
  case step =>
    intro after ends fits shorter
    cases after with
    | nil => exact .nil
    | cons c after =>
        rw [stops_cons] at ends
        by_cases line : c = '\n'
        · subst line
          exact .cons ['\n'] ['\n'] (by simp) (verbatimPiece_newline _)
            (shorter after (by simp) (FitsVerbatim.suffix ['\n'] fits))
        have quote : c = '\'' := by
          have ordinary := (fits.1 c List.mem_cons_self).resolve_right line
          simpa [ordinary] using ends
        subst quote
        by_cases one : Stops (· = '\'') after
        · refine .cons ['\''] ['\''] (by simp) ?_
            (shorter after (by simp) (FitsVerbatim.suffix ['\''] fits))
          rw [List.singleton_append, verbatimPiece_quote]
          exact innerQuotes_append (.inl rfl) (endsRun_append one stops)
        obtain ⟨after, rfl⟩ := exists_cons_of_not_stops one
        by_cases two : Stops (· = '\'') after
        · refine .cons ['\'', '\''] ['\'', '\''] (by simp) ?_
            (shorter after (by simp only [List.length_cons]; omega)
              (FitsVerbatim.suffix ['\'', '\''] fits))
          rw [List.cons_append, List.singleton_append, verbatimPiece_quote]
          exact innerQuotes_append (.inr rfl) (endsRun_append two stops)
        obtain ⟨after, rfl⟩ := exists_cons_of_not_stops two
        exact absurd ⟨[], after, by simp⟩ fits.2

theorem le_longestRun_foldl (mark : Char) (text : List Char) (state : Nat × Nat) :
    state.1 ≤ (text.foldl
      (fun (longest, current) c =>
        if c = mark then (max longest (current + 1), current + 1) else (longest, 0)) state).1 := by
  induction text generalizing state with
  | nil => exact Nat.le.refl
  | cons c text ih =>
      refine Nat.le_trans ?_ (ih _)
      dsimp only
      split
      · exact Nat.le_max_left _ _
      · exact Nat.le.refl

theorem not_infix_of_longestRun (short : longestRun mark text ≤ 2) :
    ¬[mark, mark, mark] <:+: text := by
  rintro ⟨before, after, rfl⟩
  have long := le_longestRun_foldl mark after
  rw [longestRun, List.append_assoc, List.foldl_append, List.foldl_append] at short
  have three := Nat.le_trans (long _) short
  simp only [List.foldl_cons, List.foldl_nil, if_true] at three
  omega

end Lanewise.Toml
