/-
Decimal digits: a number is read back from the digits written for it, also behind zeros that pad
them to a width.
-/
import ProfileReadme.Number.Decimal
import Mathlib.Algebra.Order.Group.Nat
import Mathlib.Data.List.Induction

namespace ProfileReadme.Decimal

theorem isDigit_of_mem_digitChars {n : Nat} {c : Char} (h : c ∈ digitChars n) :
    c.isDigit = true :=
  Nat.isDigit_of_mem_toDigits (by decide) (by decide) h

theorem digitChars_ne_nil (n : Nat) : digitChars n ≠ [] := Nat.toDigits_ne_nil

theorem ofDigits_digitChars (n : Nat) : ofDigits (digitChars n) = n := Nat.ofDigitChars_ten_toDigits

theorem digitChars_of_lt {n : Nat} (h : n < 10) : digitChars n = [Nat.digitChar n] :=
  Nat.toDigits_of_lt_base h

theorem digitChars_of_ge {n : Nat} (h : 10 ≤ n) :
    digitChars n = digitChars (n / 10) ++ [Nat.digitChar (n % 10)] := by
  unfold digitChars
  rw [Nat.toDigits_eq_if (by decide), if_neg (Nat.not_lt.2 h)]

/-- The highest digit is a zero only where it is the only one. -/
theorem digitChars_leading {n : Nat} {ds : List Char} (h : digitChars n = '0' :: ds) : ds = [] := by
  induction n using Nat.strongRecOn generalizing ds with
  | ind n ih =>
    rcases Nat.lt_or_ge n 10 with small | large
    · rw [digitChars_of_lt small] at h
      exact (List.cons.inj h).2.symm
    · rw [digitChars_of_ge large] at h
      cases hd : digitChars (n / 10) with
      | nil => exact absurd hd (digitChars_ne_nil _)
      | cons d ds' =>
        rw [hd] at h
        obtain ⟨rfl, -⟩ := List.cons.inj h
        rw [ih (n / 10) (by omega) hd] at hd
        -- then a tenth of the number is zero
        have value := ofDigits_digitChars (n / 10)
        rw [hd] at value
        have : n / 10 = 0 := value.symm
        omega

theorem ofDigits_concat (ds : List Char) (c : Char) :
    ofDigits (ds ++ [c]) = 10 * ofDigits ds + digitValue c := by
  simp [ofDigits]

theorem digitValue_lt {c : Char} (h : c.isDigit = true) : digitValue c < 10 := by
  simp only [Char.isDigit, Bool.and_eq_true, decide_eq_true_eq, UInt32.le_iff_toNat_le] at h
  have : c.toNat ≤ 57 := h.2
  unfold digitValue
  omega

theorem ofDigits_lt {ds : List Char} (h : ∀ c ∈ ds, c.isDigit = true) :
    ofDigits ds < 10 ^ ds.length := by
  induction ds using List.reverseRecOn with
  | nil => exact Nat.one_pos
  | append_singleton ds c ih =>
    have last := digitValue_lt (h c (by simp))
    have others := ih fun d hd => h d (by simp [hd])
    rw [ofDigits_concat, List.length_append, List.length_singleton, Nat.pow_succ]
    omega

/-! ## Padding -/

theorem ofDigits_zeros (k : Nat) (ds : List Char) :
    ofDigits (List.replicate k '0' ++ ds) = ofDigits ds := by
  induction k with
  | zero => rfl
  | succ k ih => exact ih

theorem ofDigits_padLeft (width n : Nat) : ofDigits (padLeft width (digitChars n)) = n :=
  (ofDigits_zeros _ _).trans (ofDigits_digitChars n)

theorem isDigit_of_mem_padLeft {width n : Nat} {c : Char} (h : c ∈ padLeft width (digitChars n)) :
    c.isDigit = true := by
  rcases List.mem_append.1 h with zero | digit
  · rw [List.eq_of_mem_replicate zero]; rfl
  · exact isDigit_of_mem_digitChars digit

theorem length_padLeft {width n : Nat} (h : n < 10 ^ (width + 1)) :
    (padLeft (width + 1) (digitChars n)).length = width + 1 := by
  have short := (Nat.length_toDigits_le_iff (b := 10) (by decide) (Nat.succ_pos width)).2 h
  unfold padLeft digitChars
  rw [List.length_append, List.length_replicate]
  omega

end ProfileReadme.Decimal
