/-
Decimal text of double-precision numbers: the fewest digits that read back, their layout, and the
reader of decimal numerals. The layout is one record, so its conventions stand in one place.
-/
import ProfileReadme.Number.Binary64

namespace ProfileReadme

/-- A decimal `digits · 10^power`. -/
structure Decimal where
  digits : Nat
  power : Int
deriving DecidableEq, Repr, Inhabited

namespace Decimal

/-- The decimal digits of a number, highest first. -/
def digitChars (n : Nat) : List Char := Nat.toDigits 10 n

def value? (negative : Bool) (d : Decimal) : Binary64 := .ofDecimal negative d.digits d.power

/-- The exponent of the highest decimal digit of `num / den`. -/
def magnitude (num den : Nat) : Int :=
  let guess := ((digitChars num).length : Int) - (digitChars den).length
  let below : Bool :=
    if 0 ≤ guess then num < den * Nat.pow 10 guess.toNat
    else num * Nat.pow 10 (-guess).toNat < den
  if below then guess - 1 else guess

/-- The whole part and the rest of `num / den` in units of `10^power`. -/
def onGrid (num den : Nat) (power : Int) : Nat × Nat × Nat :=
  let (n, d) :=
    if 0 ≤ power then (num, den * Nat.pow 10 power.toNat)
    else (num * Nat.pow 10 (-power).toNat, den)
  (n / d, n % d, d)

/-- The nearer of the two neighbours on a grid that read back as `m · 2^e`. -/
def readingBack (m : Nat) (e : Int) (power : Int) (whole rest unit : Nat) : Option Decimal :=
  let reads (n : Nat) : Bool := Binary64.ofDecimal false n power == .finite false m e
  let low := if reads whole then some (Decimal.mk whole power) else none
  let high := if reads (whole + 1) then some (Decimal.mk (whole + 1) power) else none
  match low, high with
  | some l, some h =>
    if 2 * rest < unit then some l
    else if unit < 2 * rest then some h
    else if whole % 2 = 0 then some l else some h
  | some l, none => some l
  | none, h => h

/-- Drops zeros at the end of the digits. -/
def trim : Nat → Decimal → Decimal
  | 0, d => d
  | fuel + 1, d =>
    if d.digits ≠ 0 ∧ d.digits % 10 = 0 then trim fuel ⟨d.digits / 10, d.power + 1⟩ else d

/-- The decimal of fewest digits that reads back as `m · 2^e`, the nearest of those. -/
def shortest (m : Nat) (e : Int) : Decimal :=
  let (num, den) := Binary64.scaled m 1 (-e)
  let top := magnitude num den
  let attempt (n : Nat) : Option Decimal :=
    let power := top + 1 - n
    let (whole, rest, unit) := onGrid num den power
    readingBack m e power whole rest unit
  match (List.range 17).findSome? (fun i => attempt (i + 1)) with
  | some d => trim 20 d
  | none => ⟨m, 0⟩

/-- How a decimal is laid out. -/
structure Layout where
  /-- The least exponent of the first digit that is written positionally. -/
  leastPositional : Int
  /-- The greatest exponent of the first digit that is written positionally. -/
  greatestPositional : Int
  /-- The least number of digits of a written exponent. -/
  exponentWidth : Nat
  /-- Whether an exponent above zero has its sign written. -/
  plusSign : Bool
  /-- Whether a positional whole number ends in a point and a zero. -/
  pointZero : Bool
deriving DecidableEq, Repr

/-- Numbers in text: positional from `0.0001` up to below `10^16`, else `1e-05` and `1e+16`. -/
def plain : Layout := ⟨-4, 15, 2, true, true⟩

def padLeft (width : Nat) (digits : List Char) : List Char :=
  List.replicate (width - digits.length) '0' ++ digits

/-- The written form of a positive decimal. -/
def layOut (layout : Layout) (d : Decimal) : List Char :=
  let ds := digitChars d.digits
  let top : Int := d.power + ds.length - 1
  if layout.leastPositional ≤ top ∧ top ≤ layout.greatestPositional then
    if 0 ≤ d.power then
      ds ++ List.replicate d.power.toNat '0' ++ (if layout.pointZero then ['.', '0'] else [])
    else if 0 ≤ top then
      ds.take (top.toNat + 1) ++ '.' :: ds.drop (top.toNat + 1)
    else
      '0' :: '.' :: (List.replicate ((-top).toNat - 1) '0' ++ ds)
  else
    let fraction := if ds.length = 1 then [] else '.' :: ds.drop 1
    let sign := if top < 0 then ['-'] else if layout.plusSign then ['+'] else []
    ds.take 1 ++ fraction ++ 'e' :: (sign ++ padLeft layout.exponentWidth (digitChars top.natAbs))

end Decimal

/-- The text of a number in a layout. -/
def Binary64.textIn (layout : Decimal.Layout) : Binary64 → String
  | .nan => "nan"
  | .infinite negative => if negative then "-inf" else "inf"
  | .finite negative m e =>
    let body :=
      if m = 0 then (if layout.pointZero then ['0', '.', '0'] else ['0'])
      else Decimal.layOut layout (Decimal.shortest m e)
    String.ofList (if negative then '-' :: body else body)

/-- The text of a number as it stands in prose and links. -/
def Binary64.text : Binary64 → String := Binary64.textIn Decimal.plain

/-! ## Reading -/

namespace Decimal

def digitValue (c : Char) : Nat := c.toNat - 48

/-- The number that a run of decimal digits denotes. -/
def ofDigits (ds : List Char) : Nat := ds.foldl (fun n c => 10 * n + digitValue c) 0

/-- A numeral split into sign, whole digits, fraction digits and exponent. -/
structure Numeral where
  negative : Bool
  whole : List Char
  fraction : List Char
  exponent : Int
  /-- Whether a point or an exponent was written. -/
  isReal : Bool
deriving Repr

namespace Numeral

def toBinary64 (n : Numeral) : Binary64 :=
  .ofDecimal n.negative (ofDigits (n.whole ++ n.fraction)) (n.exponent - n.fraction.length)

def toInt (n : Numeral) : Int :=
  let size : Int := ofDigits n.whole
  if n.negative then -size else size

end Numeral

/-- A sign at the front: whether it is a minus, and what follows. -/
def takeSign : List Char → Bool × List Char
  | '-' :: cs => (true, cs)
  | '+' :: cs => (false, cs)
  | cs => (false, cs)

/-- The exponent part after the letter `e`: its value and what follows. -/
def takeExponent (cs : List Char) : Option (Int × List Char) :=
  let (negative, rest) := takeSign cs
  match rest.takeWhile Char.isDigit with
  | [] => none
  | ds =>
    let size : Int := ofDigits ds
    some (if negative then -size else size, rest.dropWhile Char.isDigit)

/-- The real number that a decimal numeral names. -/
def realNumeral (cs : List Char) : Option Binary64 := do
  let (negative, body) := takeSign cs
  let word := body.map Char.toLower
  if word = "inf".toList || word = "infinity".toList then some (.infinite negative)
  else if word = "nan".toList then some .nan
  else
    let whole := body.takeWhile Char.isDigit
    let rest := body.dropWhile Char.isDigit
    let (fraction, rest) :=
      match rest with
      | '.' :: rest => (rest.takeWhile Char.isDigit, rest.dropWhile Char.isDigit)
      | rest => ([], rest)
    if whole.isEmpty && fraction.isEmpty then none
    match rest with
    | [] => some (Numeral.toBinary64 ⟨negative, whole, fraction, 0, true⟩)
    | e :: rest =>
      if e = 'e' || e = 'E' then
        let (exponent, rest) ← takeExponent rest
        if rest.isEmpty then
          some (Numeral.toBinary64 ⟨negative, whole, fraction, exponent, true⟩)
        else none
      else none

end Decimal

end ProfileReadme
