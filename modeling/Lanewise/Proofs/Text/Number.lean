import Lanewise.Proofs.Text.Parser
import Mathlib.Data.Nat.Basic

namespace Lanewise.Text

variable {text digits : List Char} {c : Char} {n : UInt32}

theorem digitValue_of_isDigit (digit : c.isDigit) : digitValue c = c.toNat - '0'.toNat := by
  rw [Char.isDigit, Bool.and_eq_true, decide_eq_true_eq, decide_eq_true_eq] at digit
  exact if_pos digit

theorem isDigitIn_ten_iff : isDigitIn 10 c ↔ c.isDigit := by
  have code : c.isDigit ↔ '0' ≤ c ∧ c ≤ '9' := by
    rw [Char.isDigit, Bool.and_eq_true, decide_eq_true_eq, decide_eq_true_eq]
    rfl
  constructor
  · intro small
    rw [code]
    by_contra other
    -- A letter is worth ten or more, and any other character more than any digit.
    rw [isDigitIn, decide_eq_true_eq, digitValue, if_neg other] at small
    split at small
    · omega
    · split at small <;> omega
  · intro digit
    have top : c.toNat ≤ '9'.toNat := (Char.isDigit_iff_toNat.1 digit).2
    rw [isDigitIn, decide_eq_true_eq, digitValue_of_isDigit digit]
    simp only [Char.reduceToNat] at top ⊢
    omega

theorem valueIn_eq_ofDigitChars (decimal : ∀ c ∈ digits, c.isDigit) :
    valueIn 10 digits = Nat.ofDigitChars 10 digits 0 := by
  have same : ∀ total, digits.foldl (fun total c => total * 10 + digitValue c) total =
      Nat.ofDigitChars 10 digits total := by
    induction digits with
    | nil => exact fun _ => rfl
    | cons c digits ih =>
        intro total
        rw [List.foldl_cons, ih fun c listed => decimal c (List.mem_cons_of_mem _ listed),
          digitValue_of_isDigit (decimal c List.mem_cons_self), Nat.mul_comm]
        rfl
  exact same 0

theorem readNat?_eq_some_iff {value : Nat} : readNat? 10 text = some value ↔
    text ≠ [] ∧ (∀ c ∈ text, c.isDigit) ∧ Nat.ofDigitChars 10 text 0 = value := by
  have filled : (!text.isEmpty && text.all (isDigitIn 10)) = true ↔
      text ≠ [] ∧ ∀ c ∈ text, c.isDigit := by
    simp [isDigitIn_ten_iff]
  rw [readNat?]
  split
  · rename_i numeric
    obtain ⟨some_digit, decimal⟩ := filled.1 numeric
    rw [valueIn_eq_ofDigitChars decimal, Option.some.injEq]
    exact ⟨fun same => ⟨some_digit, decimal, same⟩, fun spelled => spelled.2.2⟩
  · rename_i other
    refine iff_of_false (by simp) fun spelled => other (filled.2 ⟨spelled.1, spelled.2.1⟩)

theorem isDigit_toDigits (n : Nat) : ∀ c ∈ Nat.toDigits 10 n, c.isDigit :=
  fun _ listed => Nat.isDigit_of_mem_toDigits (by decide) (by decide) listed

theorem isDigitIn_toDigits (n : Nat) : ∀ c ∈ Nat.toDigits 10 n, isDigitIn 10 c :=
  fun c listed => isDigitIn_ten_iff.2 (isDigit_toDigits n c listed)

theorem valueIn_toDigits (n : Nat) : valueIn 10 (Nat.toDigits 10 n) = n := by
  rw [valueIn_eq_ofDigitChars (isDigit_toDigits n)]
  exact Nat.ofDigitChars_toDigits (by decide) (by decide)

theorem stops_toDigits {condition : Char → Bool} (n : Nat)
    (apart : ∀ c, c.isDigit → condition c = false) (rest : List Char) :
    Parser.Stops condition (Nat.toDigits 10 n ++ rest) := by
  obtain ⟨c, digits, same⟩ := List.exists_cons_of_ne_nil (Nat.toDigits_ne_nil (n := n))
  have digit : c.isDigit := isDigit_toDigits n c (same ▸ List.mem_cons_self)
  rw [same]
  exact Parser.stops_cons.2 (apart c digit)

theorem head?_toDigits {n : Nat} (positive : 0 < n) : (Nat.toDigits 10 n).head? ≠ some '0' := by
  induction n using Nat.strongRecOn with
  | ind n ih =>
      rw [Nat.toDigits_eq_if (by decide)]
      split
      · simp only [List.head?_cons, ne_eq, Option.some.injEq, Nat.digitChar_eq_zero]
        omega
      · have later := ih (n / 10) (by omega) (by omega)
        obtain ⟨c, digits, same⟩ := List.exists_cons_of_ne_nil (Nat.toDigits_ne_nil (n := n / 10))
        rw [same] at later ⊢
        exact later

theorem toDigits_append_ne {n : Nat} (positive : 0 < n) (rest tail : List Char) :
    Nat.toDigits 10 n ++ rest ≠ '0' :: tail := by
  intro front
  obtain ⟨c, digits, same⟩ := List.exists_cons_of_ne_nil (Nat.toDigits_ne_nil (n := n))
  have head := head?_toDigits positive
  rw [same] at front head
  exact head (congrArg some (List.cons.inj front).1)

def Spells (text : List Char) (n : UInt32) : Prop :=
  ∃ digits, (text = digits ∨ text = '+' :: digits) ∧ digits ≠ [] ∧ (∀ c ∈ digits, c.isDigit) ∧
    Nat.ofDigitChars 10 digits 0 = n.toNat

theorem word?_eq_some_iff {value : Nat} : word? value = some n ↔ value = n.toNat := by
  rw [word?]
  split
  · rename_i fits
    rw [Option.some.injEq, ← UInt32.toNat_inj, UInt32.toNat_ofNat_of_lt' fits]
  · rename_i large
    refine iff_of_false (by simp) fun same => large ?_
    rw [same]
    exact n.toNat_lt

theorem readWord?_eq_some_iff : readWord? text = some n ↔ Spells text n := by
  have unsigned : readWord? text = some n ↔ dropPlus text ≠ [] ∧ (∀ c ∈ dropPlus text, c.isDigit) ∧
      Nat.ofDigitChars 10 (dropPlus text) 0 = n.toNat := by
    simp only [readWord?, readWordIn?, Option.bind_eq_some_iff, readNat?_eq_some_iff,
      word?_eq_some_iff]
    constructor
    · rintro ⟨value, ⟨some_digit, decimal, same⟩, rfl⟩
      exact ⟨some_digit, decimal, same⟩
    · rintro ⟨some_digit, decimal, same⟩
      exact ⟨n.toNat, ⟨some_digit, decimal, same⟩, rfl⟩
  rw [unsigned]
  constructor
  · intro spelled
    refine ⟨dropPlus text, ?_, spelled⟩
    unfold dropPlus
    split
    · exact .inr rfl
    · exact .inl rfl
  · rintro ⟨digits, rfl | rfl, some_digit, decimal, same⟩
    · -- A text of digits has no plus sign to lose.
      have kept : dropPlus text = text := by
        unfold dropPlus
        split
        · exact absurd (decimal '+' List.mem_cons_self) (by decide)
        · rfl
      rw [kept]
      exact ⟨some_digit, decimal, same⟩
    · exact ⟨some_digit, decimal, same⟩

end Lanewise.Text
