import Lanewise.Proofs.Toml.QuotedLines

open Lanewise.Parser

namespace Lanewise.Toml

variable {text input rest : List Char} {mark c : Char}

def isQuote (c : Char) : Bool := c = '"' || c = '\''

theorem isLineMark_of_isPlain (plain : isPlain c) : isLineMark c = false := by
  have newline : c ≠ '\n' := fun same => absurd (same ▸ plain) (by decide)
  have carriage : c ≠ '\r' := fun same => absurd (same ▸ plain) (by decide)
  simp [isLineMark, newline, carriage]

theorem stops_of_isQuote (stops : Stops isQuote rest) (quote : isQuote mark) :
    Stops (· = mark) rest := by
  intro c head
  have other := stops c head
  rw [decide_eq_false_iff_not]
  rintro rfl
  rw [quote] at other
  cases other

theorem quotedText_of_lineText (read : lineText input = some (text, rest))
    (single : ∀ mark, isQuote mark → ∀ rest, input ≠ mark :: mark :: mark :: rest) :
    quotedText input = some (text, rest) := by
  unfold quotedText
  split
  · next rest => exact absurd rfl (single '"' rfl rest)
  · next rest => exact absurd rfl (single '\'' rfl rest)
  · exact read

theorem quotedText_inLine (text : List Char) (stops : Stops isQuote rest) :
    quotedText (['"'] ++ text.flatMap escapeInLine ++ ['"'] ++ rest) = some (text, rest) := by
  have same : ['"'] ++ text.flatMap escapeInLine ++ ['"'] ++ rest =
      '"' :: (text.flatMap escapeInLine ++ '"' :: rest) := by simp
  rw [same]
  refine quotedText_of_lineText (lineText_inLine text rest) fun mark quote other triple => ?_
  obtain ⟨rfl, tail⟩ := List.cons.inj triple
  cases text with
  | nil =>
      obtain ⟨-, rfl⟩ := List.cons.inj tail
      exact absurd (stops_cons.1 stops) (by decide)
  | cons c text =>
      by_cases literal : isLiteral c
      · rw [List.flatMap_cons, escapeInLine_eq, if_pos literal] at tail
        exact (isLiteral_iff.1 literal).2.2.1 (List.cons.inj tail).1
      · obtain ⟨letter, written, escaped, -⟩ := escapeControl_eq_cons c
        rw [List.flatMap_cons, escapeInLine_eq, if_neg literal, escaped] at tail
        exact absurd (List.cons.inj tail).1 (by decide)

theorem quotedText_verbatim (plain : ∀ c ∈ text, isPlain c ∧ c ≠ '\'')
    (stops : Stops isQuote rest) :
    quotedText (['\''] ++ text ++ ['\''] ++ rest) = some (text, rest) := by
  have same : ['\''] ++ text ++ ['\''] ++ rest = '\'' :: (text ++ '\'' :: rest) := by simp
  rw [same]
  refine quotedText_of_lineText (lineText_verbatim plain rest) fun mark quote other triple => ?_
  obtain ⟨rfl, tail⟩ := List.cons.inj triple
  cases text with
  | nil =>
      obtain ⟨-, rfl⟩ := List.cons.inj tail
      exact absurd (stops_cons.1 stops) (by decide)
  | cons c text => exact (plain c List.mem_cons_self).2 (List.cons.inj tail).1

theorem onLines_append (mark : Char) (text written rest : List Char) :
    ∃ after, onLines [mark, mark, mark] text written ++ rest = mark :: mark :: mark :: after :=
  ⟨_, by rw [onLines, List.append_assoc, List.append_assoc, List.append_assoc]; rfl⟩

theorem quotedText_inLines (text : List Char) (stops : Stops isQuote rest) :
    quotedText (onLines ['"', '"', '"'] text (escapeInLines 0 text) ++ rest) =
      some (text, rest) := by
  have apart : Stops (· = '"') rest := stops_of_isQuote stops rfl
  have read : linesText (onLines ['"', '"', '"'] text (escapeInLines 0 text) ++ rest) =
      some (text, rest) := by
    refine orElse_of_some (multiLine_of_spelled (spelled_inLines text apart) ?_ ?_) _
    · exact (escapedPiece_quote _).trans (innerQuotes_closing apart)
    · refine or_iff_not_imp_left.2 fun line => ?_
      refine stops_escapeInLines rfl (fun _ => stops_cons.2 rfl) fun c head kind => ?_
      obtain literal | rfl | rfl := kind
      · exact isLineMark_of_isPlain (isLiteral_iff.1 literal).1
      · rfl
      · exact absurd (List.mem_of_mem_head? head) line
  obtain ⟨after, same⟩ := onLines_append '"' text (escapeInLines 0 text) rest
  rw [same] at read ⊢
  exact read

theorem quotedText_verbatimLines (plain : ∀ c ∈ text, isPlain c ∨ c = '\n')
    (short : longestRun '\'' text ≤ 2) (stops : Stops isQuote rest) :
    quotedText (onLines ['\'', '\'', '\''] text text ++ rest) = some (text, rest) := by
  have apart : Stops (· = '\'') rest := stops_of_isQuote stops rfl
  have spelled := spelled_verbatimLines ⟨plain, not_infix_of_longestRun short⟩ apart
  obtain ⟨after, same⟩ := onLines_append '\'' text text rest
  have read : linesText (onLines ['\'', '\'', '\''] text text ++ rest) = some (text, rest) := by
    rw [linesText, orElse_of_none]
    · refine multiLine_of_spelled spelled ?_ ?_
      · exact (verbatimPiece_quote _).trans (innerQuotes_closing apart)
      · refine or_iff_not_imp_left.2 fun line => ?_
        cases text with
        | nil => exact stops_cons.2 rfl
        | cons c text =>
            have ordinary := (plain c List.mem_cons_self).resolve_right fun same =>
              line (same ▸ List.mem_cons_self)
            exact stops_cons.2 (isLineMark_of_isPlain ordinary)
    · rw [same]
      rfl
  rw [same] at read ⊢
  exact read

theorem quotedText_quote (text : List Char) (stops : Stops isQuote rest) :
    quotedText (quote text ++ rest) = some (text, rest) := by
  have inLine := quotedText_inLine text stops
  have inLines := quotedText_inLines text stops
  by_cases control : text.any isControl
  · rw [quote, if_pos control]
    split
    · exact inLine
    · exact inLines
  have plain : ∀ c ∈ text, isPlain c ∨ c = '\n' := by
    intro c listed
    by_contra special
    rw [not_or] at special
    exact control (List.any_eq_true.2 ⟨c, listed, by simp [isControl, special]⟩)
  rw [quote, if_neg control]
  split
  · exact inLine
  split
  · next verbatim =>
    refine quotedText_verbatim (fun c listed => ?_) stops
    obtain ⟨line, apart⟩ : '\n' ∉ text ∧ '\'' ∉ text := by simpa using verbatim
    exact ⟨(plain c listed).resolve_right fun same => line (same ▸ listed),
      fun same => apart (same ▸ listed)⟩
  split
  · exact inLines
  split
  · next short => exact quotedText_verbatimLines plain short stops
  split
  · exact inLine
  · exact inLines

end Lanewise.Toml
