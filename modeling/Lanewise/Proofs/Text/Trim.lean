import Lanewise.Text.Basic
import Lanewise.Text.Blank
import Mathlib.Data.List.TakeWhile

namespace Lanewise.Text

variable {text core before after : List Char}

structure IsCore (core text : List Char) : Prop where
  surrounded : ∃ before after, text = before ++ core ++ after ∧ (∀ c ∈ before, isBlank c) ∧
    ∀ c ∈ after, isBlank c
  starts : ∀ c ∈ core.head?, ¬isBlank c
  ends : ∀ c ∈ core.getLast?, ¬isBlank c

theorem trimStart_append (blank : ∀ c ∈ before, isBlank c) :
    trimStart (before ++ text) = trimStart text :=
  List.dropWhile_append_of_pos blank

theorem trimStart_of_starts (starts : ∀ c ∈ text.head?, ¬isBlank c) : trimStart text = text := by
  cases text with
  | nil => rfl
  | cons c rest => exact List.dropWhile_cons_of_neg (starts c rfl)

theorem starts_trimStart (text : List Char) : ∀ c ∈ (trimStart text).head?, ¬isBlank c := by
  intro c first
  have unblank := List.head?_dropWhile_not isBlank text
  rw [show (text.dropWhile isBlank).head? = some c from first] at unblank
  simpa using unblank

theorem trimStart_surrounded (text : List Char) :
    ∃ before, text = before ++ trimStart text ∧ ∀ c ∈ before, isBlank c :=
  ⟨text.takeWhile isBlank, List.takeWhile_append_dropWhile.symm,
    fun _ member => List.mem_takeWhile_imp member⟩

theorem isCore_trim (text : List Char) : IsCore (trim text) text := by
  obtain ⟨before, split, leading⟩ := trimStart_surrounded text
  obtain ⟨after, split', trailing⟩ := trimStart_surrounded (trimStart text).reverse
  have rest : trimStart text = trim text ++ after.reverse := by
    rw [trim, ← List.reverse_append, ← split', List.reverse_reverse]
  refine ⟨⟨before, after.reverse, ?_, leading, by simpa using trailing⟩, ?_, ?_⟩
  · rw [List.append_assoc, ← rest, ← split]
  · intro c first
    refine starts_trimStart text c ?_
    rw [rest, List.head?_append, first]
    rfl
  · rw [trim, List.getLast?_reverse]
    exact starts_trimStart _

theorem trim_of_isCore (isCore : IsCore core text) : trim text = core := by
  obtain ⟨⟨before, after, rfl, leading, trailing⟩, starts, ends⟩ := isCore
  have trailing' : ∀ c ∈ after.reverse, isBlank c := by simpa using trailing
  rw [trim, List.append_assoc, trimStart_append leading]
  cases core with
  | nil =>
      have none : trimStart after = [] := List.dropWhile_eq_nil_iff.2 trailing
      rw [List.nil_append, none]
      rfl
  | cons c rest =>
      have begun : trimStart (c :: rest ++ after) = c :: rest ++ after := trimStart_of_starts starts
      rw [begun, List.reverse_append, trimStart_append trailing', trimStart_of_starts,
        List.reverse_reverse]
      rwa [List.head?_reverse]

theorem trim_eq_iff : trim text = core ↔ IsCore core text :=
  ⟨fun trimmed => trimmed ▸ isCore_trim text, trim_of_isCore⟩

theorem trim_surrounded (leading : ∀ c ∈ before, isBlank c) (trailing : ∀ c ∈ after, isBlank c)
    (text : List Char) : trim (before ++ text ++ after) = trim text := by
  obtain ⟨⟨first, last, split, blank, blank'⟩, starts, ends⟩ := isCore_trim text
  refine trim_of_isCore ⟨⟨before ++ first, last ++ after, ?_, ?_, ?_⟩, starts, ends⟩
  · calc before ++ text ++ after
      _ = before ++ (first ++ trim text ++ last) ++ after := congrArg (before ++ · ++ after) split
      _ = before ++ first ++ trim text ++ (last ++ after) := by simp only [List.append_assoc]
  · exact List.forall_mem_append.2 ⟨leading, blank⟩
  · exact List.forall_mem_append.2 ⟨blank', trailing⟩

theorem not_isBlank_of_between {c : Char} (low : 65 ≤ c.toNat) (high : c.toNat ≤ 122) :
    isBlank c = false := by
  simp [isBlank, blankRanges]
  omega

theorem isBlank_toLower (c : Char) : isBlank c.toLower = isBlank c := by
  delta Char.toLower
  split
  · -- Neither a capital letter nor the small one is white space.
    rename_i upper
    have low : 65 ≤ c.toNat := upper.1
    have high : c.toNat ≤ 90 := upper.2
    have small : (c.val + ('a'.val - 'A'.val)).toNat = c.toNat + 32 := by
      rw [UInt32.toNat_add]
      exact Nat.mod_eq_of_lt (Nat.lt_of_le_of_lt (Nat.add_le_add_right high 32) (by decide))
    rw [not_isBlank_of_between low (by omega), not_isBlank_of_between]
    · exact (Nat.le_add_right_of_le low).trans small.ge
    · exact small.le.trans (by omega)
  · rfl

theorem trim_map_toLower (text : List Char) :
    trim (text.map Char.toLower) = (trim text).map Char.toLower := by
  have same : isBlank ∘ Char.toLower = isBlank := funext isBlank_toLower
  have start (text : List Char) : trimStart (text.map Char.toLower) =
      (trimStart text).map Char.toLower := by
    rw [trimStart, List.dropWhile_map, same, trimStart]
  rw [trim, start, ← List.map_reverse, start, ← List.map_reverse, trim]

end Lanewise.Text
