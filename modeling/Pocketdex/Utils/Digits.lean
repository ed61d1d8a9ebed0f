import Mathlib.Data.List.Induction
import Mathlib.Data.Nat.Notation
import Mathlib.Tactic.Ring

/-! Runs of decimal digits, the number they spell, and that number written again. -/

namespace Pocketdex

/-- A digit is the one of a number below ten. -/
theorem exists_digitChar {char : Char} (digit : char.isDigit = true) :
    ∃ number < 10, char = Nat.digitChar number := by
  simp only [Char.isDigit, Bool.and_eq_true, decide_eq_true_eq] at digit
  have low : 48 ≤ char.toNat := digit.1
  have high : char.toNat ≤ 57 := digit.2
  refine ⟨char.toNat - 48, by omega, Char.toNat_inj.mp ?_⟩
  rw [Nat.toNat_digitChar_of_lt_ten (by omega)]
  omega

/-- Digits followed by others spell both numbers, the first one moved to the left. -/
theorem ofDigitChars_append_eq (first second : List Char) :
    Nat.ofDigitChars 10 (first ++ second) 0 =
      Nat.ofDigitChars 10 first 0 * 10 ^ second.length + Nat.ofDigitChars 10 second 0 := by
  rw [Nat.ofDigitChars_append, Nat.ofDigitChars_eq_ofDigitChars_zero, Nat.mul_comm]

/-- One more digit is worth what it stands for. -/
theorem ofDigitChars_concat (digits : List Char) {number : ℕ} (small : number < 10) :
    Nat.ofDigitChars 10 (digits ++ [number.digitChar]) 0 =
      10 * Nat.ofDigitChars 10 digits 0 + number := by
  rw [Nat.ofDigitChars_append, Nat.ofDigitChars_cons_digitChar_of_lt_ten small,
    Nat.ofDigitChars_nil]

/-- A number is written with the digits it is spelled by, when they begin with no zero. -/
theorem toDigits_ofDigitChars {first : Char} {rest : List Char} (nonzero : first ≠ '0')
    (digits : ∀ char ∈ first :: rest, char.isDigit = true) :
    0 < Nat.ofDigitChars 10 (first :: rest) 0 ∧
      Nat.toDigits 10 (Nat.ofDigitChars 10 (first :: rest) 0) = first :: rest := by
  -- Along the digits, each one adds a last digit to a number that is not zero.
  induction rest using List.reverseRecOn with
  | nil =>
    obtain ⟨number, small, rfl⟩ := exists_digitChar (digits first List.mem_cons_self)
    rw [Nat.ofDigitChars_cons_digitChar_of_lt_ten small, Nat.ofDigitChars_nil]
    have positive : number ≠ 0 := fun zero => nonzero (Nat.digitChar_eq_zero.mpr zero)
    refine ⟨by omega, ?_⟩
    rw [Nat.mul_zero, Nat.zero_add, Nat.toDigits_of_lt_base small]
  | append_singleton earlier last ih =>
    obtain ⟨positive, written⟩ := ih fun char member =>
      digits char (List.mem_cons.mpr ((List.mem_cons.mp member).imp_right
        (List.mem_append_left _)))
    obtain ⟨number, small, rfl⟩ := exists_digitChar (digits last (by simp))
    rw [← List.cons_append, ofDigitChars_concat _ small]
    refine ⟨by omega, ?_⟩
    rw [← Nat.toDigits_append_toDigits (by decide) positive small, written,
      Nat.toDigits_of_lt_base small]

/-- Leading zeros spell nothing. -/
theorem ofDigitChars_dropWhile (digits : List Char) :
    Nat.ofDigitChars 10 (digits.dropWhile fun char => char = '0') 0 =
      Nat.ofDigitChars 10 digits 0 := by
  induction digits with
  | nil => rfl
  | cons char rest ih =>
    by_cases zero : char = '0'
    · subst zero
      rw [List.dropWhile_cons_of_pos (by simp), ih]
      rfl
    · rw [List.dropWhile_cons_of_neg (by simpa using zero)]

/-- Without its leading zeros, a run of digits is the numeral of the number it spells. -/
theorem toString_ofDigitChars {digits : List Char}
    (decimal : ∀ char ∈ digits, char.isDigit = true) :
    toString (Nat.ofDigitChars 10 digits 0) =
      if digits.dropWhile (fun char => char = '0') = [] then "0"
      else String.ofList (digits.dropWhile fun char => char = '0') := by
  rw [← ofDigitChars_dropWhile digits]
  cases kept : digits.dropWhile fun char => char = '0' with
  | nil => rfl
  | cons first rest =>
    -- What is left begins with no zero, and is written as it is.
    have nonzero : first ≠ '0' := by
      have some : digits.dropWhile (fun char => char = '0') ≠ [] := by simp [kept]
      have head := List.head_dropWhile_not (fun char => decide (char = '0')) some
      simpa [kept] using head
    have left : ∀ char ∈ first :: rest, char.isDigit = true := fun char member =>
      decimal char ((List.dropWhile_suffix _).subset (kept ▸ member))
    rw [if_neg (List.cons_ne_nil first rest), Nat.toString_eq_ofList_toDigits,
      (toDigits_ofDigitChars nonzero left).2]

end Pocketdex
