/-
Readers of single values. Numbers and truth values are also read from their usual texts.
-/
import ProfileReadme.Schema.Checked
import ProfileReadme.Value.Basic

namespace ProfileReadme

/-- A whole number from `low` to `high`, if there is an upper bound. -/
structure Bounded (low : Int) (high : Option Int) where
  val : Int
  low_le : low ≤ val
  le_high : high.all (val ≤ ·) = true
deriving DecidableEq, Repr

namespace Bounded

/-- A number that is seen to be within the bounds by computing. -/
def of (n : Int) (fits : (decide (low ≤ n) && high.all (n ≤ ·)) = true) : Bounded low high :=
  have ⟨low_le, le_high⟩ := Bool.and_eq_true_iff.1 fits
  ⟨n, of_decide_eq_true low_le, le_high⟩

/-- A number within bounds is also within a lower bound and none above. -/
def widen {low' : Int} (b : Bounded low high) (h : decide (low' ≤ low) = true) :
    Bounded low' none :=
  ⟨b.val, Int.le_trans (of_decide_eq_true h) b.low_le, rfl⟩

end Bounded

/-- How a document value becomes a value of a type. -/
abbrev Reader (α : Type) := Value → Checked α

namespace Reader

/-- The text of bytes in UTF-8. -/
def decode? (content : List UInt8) : Option String := String.fromUTF8? ⟨content.toArray⟩

/-- A text, or bytes that are a text. -/
def text : Reader String
  | .text s => .ok s
  | .bytes bs =>
    match decode? bs with
    | some s => .ok s
    | none => .fail .badEncoding
  | _ => .fail .notText

/-- The text that a value offers to a reader of another kind. -/
def textOffered (fault : Fault) (v : Value) : Option (Checked String) :=
  match v with
  | .text s => some (.ok s)
  | .bytes bs =>
    match decode? bs with
    | some s => some (.ok s)
    | none => some (.fail fault)
  | _ => none

/-! ## Whole numbers -/

/-- Digits in which single underscores may stand between two digits. -/
def groupedDigits : List Char → Option (List Char)
  | [] => none
  | [c] => if c.isDigit then some [c] else none
  | c :: '_' :: cs => if c.isDigit then (groupedDigits cs).map (c :: ·) else none
  | c :: cs => if c.isDigit then (groupedDigits cs).map (c :: ·) else none

/-- The whole number that a text names: sign, digits, and a fraction of zeros. -/
def wholeIn (s : String) : Option Int := do
  let cs := Text.trimWhile Text.isWhiteSpace s.toList
  let (negative, body) := Decimal.takeSign cs
  let whole := body.takeWhile (· ≠ '.')
  let fraction := (body.dropWhile (· ≠ '.')).drop 1
  let ds ← groupedDigits whole
  if fraction.all (· = '0') then
    let size : Int := Decimal.ofDigits ds
    some (if negative then -size else size)
  else none

/-- The most characters in which a whole number is read. -/
def longestWhole : Nat := 4300

def intOfText (s : String) : Checked Int :=
  if longestWhole < s.length then .fail .intSize
  else
    match wholeIn s with
    | some n => .ok n
    | none => .fail .intText

/-- The first whole number that takes more than 64 bits, `2^63`. -/
def wordLimit : Int := 0x8000000000000000

/-- The whole number that a real number is, within 64 bits. -/
def intOfReal (x : Binary64) : Checked Int :=
  match x with
  | .finite .. =>
    match x.toInt? with
    | none => .fail .intFraction
    | some n => if -wordLimit < n ∧ n < wordLimit then .ok n else .fail .intSize
  | _ => .fail .notFinite

def int : Reader Int
  | .int n => .ok n
  | .bool b => .ok (if b then 1 else 0)
  | .real x => intOfReal x
  | v =>
    match textOffered .intText v with
    | some s => s.andThen intOfText
    | none => .fail .notInt

/-- A whole number within bounds. -/
def bounded (low : Int) (high : Option Int) : Reader (Bounded low high) := fun v =>
  (int v).andThen fun n =>
    if h : low ≤ n then
      if h' : high.all (n ≤ ·) = true then .ok ⟨n, h, h'⟩ else .fail (.atMost (high.getD n))
    else .fail (.atLeast low)

/-! ## Truth values -/

def trueWords : List String := ["1", "on", "t", "true", "y", "yes"]

def falseWords : List String := ["0", "off", "f", "false", "n", "no"]

def boolOfInt (n : Int) : Checked Bool :=
  if n = 0 then .ok false else if n = 1 then .ok true else .fail .boolText

def boolOfText (s : String) : Checked Bool :=
  let word := String.ofList (s.toList.map Char.toLower)
  if word ∈ trueWords then .ok true
  else if word ∈ falseWords then .ok false
  else .fail .boolText

def bool : Reader Bool
  | .bool b => .ok b
  | .int n => if -wordLimit ≤ n ∧ n < wordLimit then boolOfInt n else .fail .notBool
  | .real x =>
    match intOfReal x with
    | .ok n => boolOfInt n
    | .bad _ => .fail .notBool
  | v =>
    match textOffered .boolText v with
    | some s => s.andThen boolOfText
    | none => .fail .notBool

/-! ## Real numbers -/

/-- A numeral without its underscores, each of which stands between two digits. -/
def ungrouped : List Char → Option (List Char)
  | [] => some []
  | a :: '_' :: b :: cs =>
    if a.isDigit && b.isDigit then (ungrouped (b :: cs)).map (a :: ·) else none
  | c :: cs => if c = '_' then none else (ungrouped cs).map (c :: ·)

def realOfText (s : String) : Checked Binary64 :=
  match (ungrouped (Text.trimWhile Text.isWhiteSpace s.toList)).bind Decimal.realNumeral with
  | some x => .ok x
  | none => .fail .realText

def real : Reader Binary64
  | .real x => .ok x
  | .bool b => .ok (.ofInt (if b then 1 else 0))
  | .int n =>
    match Binary64.ofInt n with
    | .infinite _ => .fail .notReal
    | x => .ok x
  | v =>
    match textOffered .realText v with
    | some s => s.andThen realOfText
    | none => .fail .notReal

/-- A real number above zero. -/
def positive : Reader Binary64 := fun v =>
  (real v).andThen fun x =>
    if Binary64.zero.lt x then .ok x else .fail (.above 0)

/-! ## Time -/

/-- A point in time: as such, as a date, as text, or counted since 1970. -/
def time : Reader Timestamp
  | .moment t => .ok t
  | .date d => .ok (.ofDate d)
  | .int n =>
    match Timestamp.ofCount n 0 with
    | some t => .ok t
    | none => .fail .timeCount
  | .real x =>
    match Timestamp.ofReal x with
    | some t => .ok t
    | none => .fail .timeCount
  | v =>
    match textOffered .timeText v with
    | some s =>
      s.andThen fun s =>
        match Timestamp.read s with
        | some t => .ok t
        | none => .fail .timeText
    | none => .fail .notTime

end Reader

end ProfileReadme
