/-
Numbers in decimal digits.

The digits of a number have no zero in front, unless they are a single one
(`Text.head?_toDigits_ten`), and stand for the number (`Text.foldl_toDigits_ten`).
-/
import Mathlib.Tactic.Lemma

namespace TreeSchema

namespace Text

lemma digitChar_ne_zero {n : Nat} (h : n ≠ 0) (hlt : n < 10) : Nat.digitChar n ≠ '0' := by
  intro hzero
  have hvalue := Nat.toNat_digitChar_of_lt_ten hlt
  rw [hzero] at hvalue
  exact h (Nat.add_left_cancel hvalue).symm

/-- Zero is the only number with a zero in front. -/
lemma head?_toDigits_ten {n : Nat} (h : n ≠ 0) : (Nat.toDigits 10 n).head? ≠ some '0' := by
  induction n using Nat.strongRecOn with
  | ind n ih =>
    rw [Nat.toDigits_eq_if (by decide)]
    split
    · next hlt =>
      rw [List.head?_cons, Ne, Option.some.injEq]
      exact digitChar_ne_zero h hlt
    · next hge =>
      have hfirst := ih (n / 10) (by omega) (by omega)
      obtain ⟨d, rest, hdigits⟩ :=
        List.exists_cons_of_ne_nil (Nat.toDigits_ne_nil (n := n / 10) (b := 10))
      rw [hdigits] at hfirst ⊢
      exact hfirst

/-- The digits stand for the number. -/
lemma foldl_toDigits_ten (n : Nat) :
    (Nat.toDigits 10 n).foldl (fun value d => 10 * value + (d.toNat - '0'.toNat)) 0 = n := by
  rw [← Nat.ofDigitChars_eq_foldl, Nat.ofDigitChars_ten_toDigits]

lemma isDigit_of_mem_toDigits_ten {n : Nat} {d : Char} (h : d ∈ Nat.toDigits 10 n) :
    d.isDigit = true :=
  Nat.isDigit_of_mem_toDigits (by decide) (by decide) h

/-- A character that is no digit does not stand among the digits. -/
lemma notMem_toDigits_ten {c : Char} (h : c.isDigit = false) (n : Nat) :
    c ∉ Nat.toDigits 10 n := by
  intro hmem
  rw [isDigit_of_mem_toDigits_ten hmem] at h
  cases h

end Text

end TreeSchema
