/-
Rounding to double precision: it keeps the order of numbers, and numbers of double precision stay
as they are. So differences that are compared with a number of double precision come out as exact
ones do, unless they are smaller than it and rounded up to it.
-/
import ProfileReadme.Number.Binary64
import Mathlib.Tactic.Ring
import Mathlib.Algebra.Order.Group.Nat
import Mathlib.Data.Nat.Log

namespace ProfileReadme.Binary64

/-! ## The nearest whole number -/

theorem nearest_eq (n d : Nat) : nearest n d =
    if d < 2 * (n % d) ∨ 2 * (n % d) = d ∧ n / d % 2 = 1 then n / d + 1 else n / d := by
  unfold nearest
  dsimp only
  split
  · exact (if_neg (by omega)).symm
  · split
    · exact (if_pos (by omega)).symm
    · split
      · exact (if_neg (by omega)).symm
      · exact (if_pos (by omega)).symm

theorem nearest_mono {n n' : Nat} (d : Nat) (h : n ≤ n') : nearest n d ≤ nearest n' d := by
  have quotients : n / d ≤ n' / d := Nat.div_le_div_right h
  rw [nearest_eq, nearest_eq]
  rcases Nat.lt_or_eq_of_le quotients with less | same
  · split <;> split <;> omega
  · -- of one quotient, the larger number has the larger remainder, and is rounded up if any is
    have remainders : n % d ≤ n' % d := by
      have := Nat.div_add_mod n d
      have := Nat.div_add_mod n' d
      rw [same] at *
      omega
    rw [same]
    split <;> split <;> omega

theorem nearest_scale {c : Nat} (hc : 0 < c) (n d : Nat) :
    nearest (n * c) (d * c) = nearest n d := by
  unfold nearest
  dsimp only
  rw [Nat.mul_div_mul_right n d hc, Nat.mul_mod_mul_right, ← Nat.mul_assoc]
  simp only [Nat.mul_lt_mul_right hc]

theorem nearest_mul {d : Nat} (hd : 0 < d) (m : Nat) : nearest (m * d) d = m := by
  unfold nearest
  dsimp only
  rw [Nat.mul_div_cancel m hd, Nat.mul_mod_left]
  exact if_pos (by omega)

theorem nearest_le {n m d : Nat} (hd : 0 < d) (h : n ≤ m * d) : nearest n d ≤ m :=
  (nearest_mono d h).trans (nearest_mul hd m).le

theorem le_nearest {n m d : Nat} (hd : 0 < d) (h : m * d ≤ n) : m ≤ nearest n d :=
  (nearest_mul hd m).ge.trans (nearest_mono d h)

/-! ## The size that is left of a number of units -/

/-- How many binary digits of a number of units are beyond the 53 of a mantissa. -/
def excess (n : Nat) : Nat := Nat.log2 n - 52

/-- A number of units rounded to the 53 highest of its binary digits. -/
def rounded (n : Nat) : Nat := nearest n (2 ^ excess n) * 2 ^ excess n

/-- The number of units from which on numbers are infinite. -/
def tooLarge : Nat := 2 ^ 53 * 2 ^ 2045

theorem le_mantissa_excess (n : Nat) : n ≤ 2 ^ 53 * 2 ^ excess n := by
  have : n < 2 ^ (Nat.log2 n + 1) := Nat.lt_log2_self
  rw [← Nat.pow_add]
  exact this.le.trans (Nat.pow_le_pow_right (by decide) (by unfold excess; omega))

theorem mantissa_excess_le {n : Nat} (h : 0 < excess n) : 2 ^ 52 * 2 ^ excess n ≤ n := by
  have digits : 52 + excess n = Nat.log2 n := by unfold excess at h ⊢; omega
  have : n ≠ 0 := by rintro rfl; simp [excess] at h
  rw [← Nat.pow_add, digits]
  exact Nat.log2_self_le this

theorem mantissa_le (n : Nat) : nearest n (2 ^ excess n) ≤ 2 ^ 53 :=
  nearest_le (Nat.two_pow_pos _) (le_mantissa_excess n)

theorem excess_mono {n n' : Nat} (h : n ≤ n') : excess n ≤ excess n' := by
  unfold excess
  rw [Nat.log2_eq_log_two, Nat.log2_eq_log_two]
  exact Nat.sub_le_sub_right (Nat.log_mono_right h) 52

theorem full_mono {k k' : Nat} (h : k ≤ k') : 2 ^ 53 * 2 ^ k ≤ 2 ^ 53 * 2 ^ k' :=
  Nat.mul_le_mul_left _ (Nat.pow_le_pow_right (by decide) h)

theorem full_strictMono {k k' : Nat} (h : k < k') : 2 ^ 53 * 2 ^ k < 2 ^ 53 * 2 ^ k' :=
  Nat.mul_lt_mul_of_pos_left (Nat.pow_lt_pow_right (by decide) h) (by decide)

theorem mantissa_lt {m k k' : Nat} (hm : m < 2 ^ 53) (h : k ≤ k') : m * 2 ^ k < 2 ^ 53 * 2 ^ k' :=
  Nat.mul_lt_mul_of_lt_of_le hm (Nat.pow_le_pow_right (by decide) h) (Nat.two_pow_pos _)

/-- A number with a digit beyond those that `k` leaves out stays as large as all those digits. -/
theorem le_rounded {n k : Nat} (h : k < excess n) : 2 ^ 53 * 2 ^ k ≤ rounded n :=
  calc 2 ^ 53 * 2 ^ k
      = 2 ^ 52 * 2 ^ (k + 1) := by ring
    _ ≤ 2 ^ 52 * 2 ^ excess n := Nat.mul_le_mul_left _ (Nat.pow_le_pow_right (by decide) h)
    _ ≤ rounded n := Nat.mul_le_mul_right _
        (le_nearest (Nat.two_pow_pos _) (mantissa_excess_le (by omega)))

theorem rounded_mono {n n' : Nat} (h : n ≤ n') : rounded n ≤ rounded n' := by
  rcases Nat.lt_or_eq_of_le (excess_mono h) with less | same
  · -- the larger number has more digits: the power between the two separates them
    calc rounded n
        ≤ 2 ^ 53 * 2 ^ excess n := Nat.mul_le_mul_right _ (mantissa_le n)
      _ ≤ rounded n' := le_rounded less
  · unfold rounded
    rw [same]
    exact Nat.mul_le_mul_right _ (nearest_mono _ h)

/-- Rounding leaves a number whose mantissa has 53 digits. -/
theorem rounded_mantissa {m : Nat} (hm : m < 2 ^ 53) (k : Nat) :
    rounded (m * 2 ^ k) = m * 2 ^ k := by
  have fits : excess (m * 2 ^ k) ≤ k := by
    rcases Nat.eq_zero_or_pos m with rfl | pos
    · simp [excess]
    · have : m * 2 ^ k < 2 ^ (53 + k) := by
        rw [Nat.pow_add]
        exact Nat.mul_lt_mul_of_pos_right hm (Nat.two_pow_pos k)
      have := (Nat.log2_lt (Nat.mul_pos pos (Nat.two_pow_pos k)).ne').2 this
      unfold excess
      omega
  unfold rounded
  obtain ⟨rest, split⟩ := Nat.exists_eq_add_of_le fits
  generalize excess (m * 2 ^ k) = g at *
  rw [split, Nat.pow_add, Nat.mul_comm (2 ^ g), ← Nat.mul_assoc, nearest_mul (Nat.two_pow_pos g)]

/-! ## Numbers nearest to a number of units -/

/-- A number of double precision: of 53 binary digits, in the range of its exponents. -/
def IsDouble : Binary64 → Prop
  | .finite _ m e => m < 2 ^ 53 ∧ leastExp ≤ e ∧ e ≤ greatestExp
  | _ => True

theorem binaryMagnitude_pow {n : Nat} (hn : n ≠ 0) (p : Nat) :
    binaryMagnitude n (Nat.pow 2 p) = (Nat.log2 n : Int) - p := by
  have size : 2 ^ Nat.log2 n ≤ n := Nat.log2_self_le hn
  have top : Nat.log2 (Nat.pow 2 p) = p := Nat.log2_two_pow
  unfold binaryMagnitude scaled
  rw [top]
  dsimp only [Nat.pow_eq]
  split
  · -- no digit of the number is below the denominator
    rename_i above
    have : p + ((Nat.log2 n : Int) - p).toNat = Nat.log2 n := by omega
    rw [← Nat.pow_add, this, if_pos size]
  · rename_i below
    have : 2 ^ p = 2 ^ Nat.log2 n * 2 ^ (-((Nat.log2 n : Int) - p)).toNat := by
      rw [← Nat.pow_add]
      congr 1
      omega
    rw [if_pos (this.le.trans (Nat.mul_le_mul_right _ size))]

theorem nearest_scaled (n : Nat) {p g : Nat} :
    (let (a, b) := scaled n (Nat.pow 2 p) ((g : Int) - p); nearest a b) = nearest n (2 ^ g) := by
  unfold scaled
  dsimp only [Nat.pow_eq]
  split
  · have : p + ((g : Int) - p).toNat = g := by omega
    dsimp only
    rw [← Nat.pow_add, this]
  · have : 2 ^ p = 2 ^ g * 2 ^ (-((g : Int) - p)).toNat := by
      rw [← Nat.pow_add]
      congr 1
      omega
    dsimp only
    rw [this, nearest_scale (Nat.two_pow_pos _)]

theorem ofRatio_pow (negative : Bool) {n p : Nat} (hn : n ≠ 0) (hp : leastExp = -(p : Int)) :
    ofRatio negative n (Nat.pow 2 p) =
      let m := nearest n (2 ^ excess n)
      let (m, e) := if m = 2 ^ 53 then (2 ^ 52, (excess n : Int) - p + 1) else (m, (excess n : Int) - p)
      if greatestExp < e then .infinite negative else .finite negative m e := by
  have exponent : max leastExp (binaryMagnitude n (Nat.pow 2 p) - 52) = (excess n : Int) - p := by
    rw [binaryMagnitude_pow hn, hp]
    unfold excess
    omega
  unfold ofRatio
  rw [if_neg hn, exponent, ← nearest_scaled n (p := p)]
  rfl

theorem ofRatio_units (negative : Bool) {n : Nat} (hn : n ≠ 0) :
    (rounded n < tooLarge ∧ ∃ m e, ofRatio negative n unitsOfOne = .finite negative m e ∧
      m * 2 ^ (e - leastExp).toNat = rounded n) ∨
    (tooLarge ≤ rounded n ∧ ofRatio negative n unitsOfOne = .infinite negative) := by
  unfold unitsOfOne
  generalize exponent : 1074 = p
  have hp : leastExp = -(p : Int) := by rw [← exponent]; rfl
  rw [ofRatio_pow negative hn hp]
  dsimp only
  -- rounding up may carry into one more digit
  rcases Nat.lt_or_eq_of_le (mantissa_le n) with less | carried
  · rw [if_neg less.ne]
    dsimp only
    split
    · rename_i large
      refine .inr ⟨?_, rfl⟩
      have : 2045 < excess n := by unfold greatestExp at large; unfold leastExp at hp; omega
      unfold tooLarge
      exact le_rounded this
    · rename_i small
      refine .inl ⟨?_, _, _, rfl, ?_⟩
      · have : excess n ≤ 2045 := by unfold greatestExp at small; unfold leastExp at hp; omega
        unfold tooLarge rounded
        exact mantissa_lt less this
      · have : ((excess n : Int) - p - leastExp).toNat = excess n := by omega
        rw [this, rounded]
  · rw [if_pos carried]
    dsimp only
    have whole : rounded n = 2 ^ 53 * 2 ^ excess n := by rw [rounded, carried]
    rw [whole]
    split
    · rename_i large
      refine .inr ⟨?_, rfl⟩
      have : 2045 ≤ excess n := by unfold greatestExp at large; unfold leastExp at hp; omega
      unfold tooLarge
      exact full_mono this
    · rename_i small
      refine .inl ⟨?_, _, _, rfl, ?_⟩
      · have : excess n < 2045 := by unfold greatestExp at small; unfold leastExp at hp; omega
        unfold tooLarge
        exact full_strictMono this
      · have : ((excess n : Int) - p + 1 - leastExp).toNat = excess n + 1 := by omega
        rw [this]
        ring

/-- A number of units with its sign, rounded. -/
def roundedUnits (u : Int) : Int := if u < 0 then -(rounded u.natAbs) else rounded u.natAbs

theorem tooLarge_pos : 0 < tooLarge := by
  have (k : Nat) : 0 < 2 ^ 53 * 2 ^ k := Nat.mul_pos (by decide) (Nat.two_pow_pos k)
  unfold tooLarge
  exact this _

theorem roundedUnits_mono {u v : Int} (h : u ≤ v) : roundedUnits u ≤ roundedUnits v := by
  unfold roundedUnits
  split <;> split
  · have := rounded_mono (show v.natAbs ≤ u.natAbs by omega)
    omega
  · omega
  · omega
  · have := rounded_mono (show u.natAbs ≤ v.natAbs by omega)
    omega

theorem ofUnits_cases (u : Int) :
    (-(tooLarge : Int) < roundedUnits u ∧ roundedUnits u < tooLarge ∧
      ∃ negative m e, ofUnits u = .finite negative m e ∧
        (ofUnits u).units = some (roundedUnits u)) ∨
    (roundedUnits u ≤ -(tooLarge : Int) ∧ ofUnits u = .infinite true) ∨
    ((tooLarge : Int) ≤ roundedUnits u ∧ ofUnits u = .infinite false) := by
  have pos := tooLarge_pos
  by_cases zero : u = 0
  · subst zero
    have : roundedUnits 0 = 0 := by decide
    rw [this]
    exact .inl ⟨by omega, by omega, _, _, _, rfl, rfl⟩
  · have hn : u.natAbs ≠ 0 := by omega
    unfold ofUnits roundedUnits
    rcases ofRatio_units (decide (u < 0)) hn with
      ⟨small, m, e, finite, size⟩ | ⟨large, infinite⟩
    · refine .inl ⟨?_, ?_, _, _, _, finite, ?_⟩
      · split <;> omega
      · split <;> omega
      · have value : (m : Int) * (2 ^ (e - leastExp).toNat : Nat) = rounded u.natAbs := by
          rw [← size, Int.natCast_mul]
        rw [finite]
        unfold units
        dsimp only [Nat.pow_eq]
        rw [value]
        simp only [decide_eq_true_eq]
    · rw [infinite]
      by_cases sign : u < 0
      · exact .inr (.inl ⟨by rw [if_pos sign]; omega, by simp [sign]⟩)
      · exact .inr (.inr ⟨by rw [if_neg sign]; omega, by simp [sign]⟩)

/-! ## The order of numbers -/

theorem le_units {a b : Binary64} {x y : Int} (ha : a.units = some x) (hb : b.units = some y) :
    a.le b = decide (x ≤ y) := by
  cases a <;> cases b <;> simp_all [units, le]

theorem le_trans {a b c : Binary64} (hab : a.le b) (hbc : b.le c) : a.le c := by
  cases a <;> cases b <;> cases c <;> simp_all only [le, decide_eq_true_eq, Bool.or_eq_true] <;>
    grind

/-- Numbers of one value: they differ in the sign of a zero at most. -/
def Same (a b : Binary64) : Prop := a.le b ∧ b.le a

theorem same_units {a b : Binary64} {x : Int} (ha : a.units = some x) (hb : b.units = some x) :
    a.Same b := by
  unfold Same
  rw [le_units ha hb, le_units hb ha]
  simp

theorem ofUnits_le {u v : Int} (h : u ≤ v) : (ofUnits u).le (ofUnits v) := by
  have rounds := roundedUnits_mono h
  have pos := tooLarge_pos
  rcases ofUnits_cases u with ⟨_, _, _, _, _, fin, size⟩ | ⟨_, inf⟩ | ⟨_, inf⟩ <;>
    rcases ofUnits_cases v with ⟨_, _, _, _, _, fin', size'⟩ | ⟨_, inf'⟩ | ⟨_, inf'⟩
  · rw [le_units size size']
    simpa using rounds
  · omega
  · rw [fin, inf']; rfl
  · rw [inf, fin']; rfl
  · rw [inf, inf']; rfl
  · rw [inf, inf']; rfl
  · omega
  · omega
  · rw [inf, inf']; rfl

/-- A number of double precision is the nearest one to itself. -/
theorem ofUnits_same {x : Binary64} (hx : x.IsDouble) {u : Int} (hu : x.units = some u) :
    (ofUnits u).Same x := by
  cases x with
  | infinite _ => simp [units] at hu
  | nan => simp [units] at hu
  | finite negative m e =>
    obtain ⟨hm, low, high⟩ := hx
    have size : u.natAbs = m * 2 ^ (e - leastExp).toNat := by
      simp only [units, Nat.pow_eq, Option.some.injEq] at hu
      split at hu <;> simp [← hu, Int.natAbs_mul]
    -- its mantissa has 53 digits, so nothing is rounded away
    have stays : roundedUnits u = u := by
      unfold roundedUnits
      rw [size, rounded_mantissa hm, ← size]
      split <;> omega
    have small : u.natAbs < tooLarge := by
      rw [size]
      have : (e - leastExp).toNat ≤ 2045 := by unfold greatestExp at high; unfold leastExp at *; omega
      unfold tooLarge
      exact mantissa_lt hm this
    rcases ofUnits_cases u with ⟨_, _, _, _, _, _, value⟩ | ⟨large, _⟩ | ⟨large, _⟩
    · rw [stays] at value
      exact same_units value hu
    · omega
    · omega

theorem units_negate {a : Binary64} {x : Int} (ha : a.units = some x) :
    a.negate.units = some (-x) := by
  cases a with
  | infinite _ => simp [units] at ha
  | nan => simp [units] at ha
  | finite negative m e =>
    cases negative <;> simp_all [negate, units]
    omega

theorem units_of_isZero {a : Binary64} {x : Int} (ha : a.units = some x) (zero : a.isZero) :
    x = 0 := by
  cases a <;> simp_all [units, isZero]

theorem sub_same {a b : Binary64} {x y : Int} (ha : a.units = some x) (hb : b.units = some y) :
    (a.sub b).Same (ofUnits (x - y)) := by
  have negated : b.negate.units = some (-y) := units_negate hb
  unfold sub add
  rw [ha, negated]
  dsimp only
  split
  · -- two zeros, of whatever signs
    rename_i zeros
    have hx : x = 0 := units_of_isZero ha (Bool.and_eq_true_iff.1 zeros).1
    have hy : -y = 0 := units_of_isZero negated (Bool.and_eq_true_iff.1 zeros).2
    have none : x - y = 0 := by omega
    rw [none]
    exact same_units (x := 0) (by simp [units]) rfl
  · rw [Int.sub_eq_add_neg]
    exact ⟨ofUnits_le le_rfl, ofUnits_le le_rfl⟩

theorem sub_le_sub {a b c : Binary64} {x y z : Int} (ha : a.units = some x) (hb : b.units = some y)
    (hc : c.units = some z) (h : x ≤ y) : (a.sub c).le (b.sub c) :=
  le_trans (le_trans (sub_same ha hc).1 (ofUnits_le (by omega))) (sub_same hb hc).2

theorem ne_nan_of_le {a b : Binary64} (h : a.le b) : a ≠ .nan ∧ b ≠ .nan := by
  constructor <;> rintro rfl
  · simp [le] at h
  · cases a <;> simp [le] at h

/-- Nothing above zero is at most the difference of a number from itself. -/
theorem not_le_sub_self {least : Binary64} (positive : zero.lt least = true) (x : Binary64) :
    least.le (x.sub x) = false := by
  have above : least.le (ofUnits 0) = false := by
    show least.le zero = false
    cases least <;> simp_all [lt, zero]
  refine Bool.eq_false_iff.2 fun le => ?_
  cases x with
  | nan => exact (ne_nan_of_le le).2 rfl
  | infinite s => exact (ne_nan_of_le le).2 (by cases s <;> rfl)
  | finite s m e =>
    have same := (sub_same (a := .finite s m e) (b := .finite s m e) rfl rfl).1
    rw [Int.sub_self] at same
    rw [le_trans le same] at above
    cases above

theorem le_infinite {a : Binary64} (h : a ≠ .nan) : a.le (.infinite false) := by
  cases a <;> simp_all [le]

/-- With an infinity among them, the later difference is infinite or the same. -/
theorem sub_of_not_finite {start now later : Binary64} (started : start.le now)
    (order : now.le later) (number : now.sub start ≠ .nan)
    (h : ¬ ∃ s n l, start.units = some s ∧ now.units = some n ∧ later.units = some l) :
    later.sub start = .infinite false ∨ later.sub start = now.sub start := by
  rcases start with _ | ⟨_ | _⟩ | _ <;> rcases now with _ | ⟨_ | _⟩ | _ <;>
    rcases later with _ | ⟨_ | _⟩ | _ <;>
    simp_all [le, sub, add, negate, units]

/-- A difference is at most as large at a later reading, also where it is infinite. -/
theorem le_sub_of_le {least start now later : Binary64} (started : start.le now)
    (order : now.le later) (h : least.le (now.sub start)) : least.le (later.sub start) := by
  obtain ⟨hleast, number⟩ := ne_nan_of_le h
  by_cases finite : ∃ s n l, start.units = some s ∧ now.units = some n ∧ later.units = some l
  · obtain ⟨s, n, l, hs, hn, hl⟩ := finite
    rw [le_units hn hl, decide_eq_true_eq] at order
    exact le_trans h (sub_le_sub hn hl hs order)
  · rcases sub_of_not_finite started order number finite with infinite | same
    · rw [infinite]
      exact le_infinite hleast
    · rw [same]
      exact h

/-! ## Rounded and exact differences -/

/-- Whether a number is at most an exact number of units. -/
def atMost (x : Binary64) (u : Int) : Prop :=
  match x with
  | .nan => False
  | .infinite negative => negative = true
  | .finite .. => x.units.getD 0 ≤ u

theorem ofUnits_ne_nan (u : Int) : ofUnits u ≠ .nan := by
  rcases ofUnits_cases u with ⟨_, _, _, _, _, fin, _⟩ | ⟨_, inf⟩ | ⟨_, inf⟩
  · simp [fin]
  · simp [inf]
  · simp [inf]

theorem le_ofUnits_iff {x : Binary64} (hx : x.IsDouble) (u : Int) :
    x.le (ofUnits u) ↔ x.atMost u ∨ x.Same (ofUnits u) := by
  constructor
  · intro h
    cases x with
    | nan => exact absurd rfl (ne_nan_of_le h).1
    | infinite negative =>
      cases negative
      · exact .inr ⟨h, le_infinite (ofUnits_ne_nan u)⟩
      · exact .inl rfl
    | finite negative m e =>
      by_cases exact_le : (finite negative m e).units.getD 0 ≤ u
      · exact .inl exact_le
      · -- the smaller number of units is rounded up, as it is not rounded past `x`
        have up := le_trans (ofUnits_le (le_of_not_ge exact_le)) (ofUnits_same hx rfl).1
        exact .inr ⟨h, up⟩
  · rintro (exact_le | same)
    · cases x with
      | nan => exact exact_le.elim
      | infinite negative =>
        rw [show negative = true from exact_le]
        have := ofUnits_ne_nan u
        cases hu : ofUnits u <;> simp_all [le]
      | finite negative m e =>
        exact le_trans (ofUnits_same hx rfl).2 (ofUnits_le exact_le)
    · exact same.1

/-- A rounded difference is at least `least` exactly if the exact one is, or if it is rounded to
`least`. -/
theorem le_sub_iff {least start now : Binary64} (double : least.IsDouble) {s n : Int}
    (hs : start.units = some s) (hn : now.units = some n) :
    least.le (now.sub start) ↔ least.atMost (n - s) ∨ least.Same (now.sub start) := by
  have difference := sub_same hn hs
  constructor
  · intro h
    refine ((le_ofUnits_iff double _).1 (le_trans h difference.1)).imp_right fun same => ?_
    exact ⟨h, le_trans difference.1 same.2⟩
  · rintro (exact_le | same)
    · exact le_trans ((le_ofUnits_iff double _).2 (.inl exact_le)) difference.2
    · exact same.1

end ProfileReadme.Binary64
