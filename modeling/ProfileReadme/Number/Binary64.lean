/-
Double-precision numbers as exact values. Every finite number is a whole multiple of `2^-1074`,
its `units`; rounding, order, sum and difference are stated on that integer.
-/

namespace ProfileReadme

/-- A double-precision number: `±mant · 2^exp`, an infinity, or no number. -/
inductive Binary64 where
  | finite (negative : Bool) (mant : Nat) (exp : Int)
  | infinite (negative : Bool)
  | nan
deriving DecidableEq, Repr, Inhabited

namespace Binary64

/-- The exponent of the smallest positive number. -/
def leastExp : Int := -1074

/-- The largest exponent of a mantissa below `2^53`. -/
def greatestExp : Int := 971

def zero : Binary64 := .finite false 0 leastExp

/-- How many multiples of `2^-1074` make one. -/
def unitsOfOne : Nat := Nat.pow 2 1074

/-- `num / den` in units of `2^e`, as a fraction. -/
def scaled (num den : Nat) (e : Int) : Nat × Nat :=
  if 0 ≤ e then (num, den * Nat.pow 2 e.toNat) else (num * Nat.pow 2 (-e).toNat, den)

/-- The whole number nearest to `num / den`; a half goes to the even neighbour. -/
def nearest (num den : Nat) : Nat :=
  let q := num / den
  let r := num % den
  if 2 * r < den then q
  else if den < 2 * r then q + 1
  else if q % 2 = 0 then q else q + 1

/-- The exponent of the highest binary digit of `num / den`. -/
def binaryMagnitude (num den : Nat) : Int :=
  let guess := (Nat.log2 num : Int) - Nat.log2 den
  let (n, d) := scaled num den guess
  if d ≤ n then guess else guess - 1

/-- The number nearest to `±num / den`; a tie goes to the even mantissa. -/
def ofRatio (negative : Bool) (num den : Nat) : Binary64 :=
  if num = 0 then .finite negative 0 leastExp
  else
    let e := max leastExp (binaryMagnitude num den - 52)
    let (n, d) := scaled num den e
    let m := nearest n d
    let (m, e) := if m = Nat.pow 2 53 then (Nat.pow 2 52, e + 1) else (m, e)
    if greatestExp < e then .infinite negative else .finite negative m e

/-- The number nearest to `±digits · 10^power`. -/
def ofDecimal (negative : Bool) (digits : Nat) (power : Int) : Binary64 :=
  if digits = 0 then .finite negative 0 leastExp
  else
    let top := (Nat.log2 digits : Int) * 3 / 10 + power
    if 400 < top then .infinite negative
    else if top < -800 - (Nat.log2 digits : Int) then .finite negative 0 leastExp
    else if 0 ≤ power then ofRatio negative (digits * Nat.pow 10 power.toNat) 1
    else ofRatio negative digits (Nat.pow 10 (-power).toNat)

def ofInt (n : Int) : Binary64 := ofRatio (n < 0) n.natAbs 1

/-- The multiple of `2^-1074` that a finite number is. -/
def units : Binary64 → Option Int
  | .finite negative m e =>
    let size : Int := m * Nat.pow 2 (e - leastExp).toNat
    some (if negative then -size else size)
  | _ => none

/-- The number nearest to a multiple of `2^-1074`. -/
def ofUnits (u : Int) : Binary64 := ofRatio (u < 0) u.natAbs unitsOfOne

def isNegative : Binary64 → Bool
  | .finite s _ _ => s
  | .infinite s => s
  | .nan => false

def negate : Binary64 → Binary64
  | .finite s m e => .finite (!s) m e
  | .infinite s => .infinite (!s)
  | .nan => .nan

def isZero : Binary64 → Bool
  | .finite _ m _ => m == 0
  | _ => false

/-- The rounded sum. Two zeros of one sign keep it; any other zero sum is positive. -/
def add (a b : Binary64) : Binary64 :=
  match a.units, b.units with
  | some x, some y =>
    if a.isZero && b.isZero then .finite (a.isNegative && b.isNegative) 0 leastExp
    else ofUnits (x + y)
  | _, _ =>
    match a, b with
    | .nan, _ | _, .nan => .nan
    | .infinite s, .infinite t => if s = t then a else .nan
    | .infinite _, _ => a
    | _, _ => b

def sub (a b : Binary64) : Binary64 := add a b.negate

/-- Order of values; nothing compares with `nan`. -/
def le (a b : Binary64) : Bool :=
  match a, b with
  | .nan, _ | _, .nan => false
  | .infinite s, .infinite t => s || !t
  | .infinite s, _ => s
  | _, .infinite t => !t
  | _, _ => (a.units.getD 0) ≤ (b.units.getD 0)

def lt (a b : Binary64) : Bool :=
  match a, b with
  | .nan, _ | _, .nan => false
  | _, _ => !(b.le a)

/-- The whole number that a finite number without a fraction is. -/
def toInt? (x : Binary64) : Option Int :=
  match x.units with
  | none => none
  | some u => if u % unitsOfOne = 0 then some (u / unitsOfOne) else none

end Binary64

end ProfileReadme
