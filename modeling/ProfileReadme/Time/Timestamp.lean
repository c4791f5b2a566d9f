/-
Points in time to the microsecond, with or without an offset from universal time: their written
form, the reader of that form, and times given as seconds or milliseconds since 1970.
-/
import ProfileReadme.Number.Decimal
import ProfileReadme.Text.Blank
import ProfileReadme.Time.Calendar

namespace ProfileReadme

structure Timestamp where
  date : Date
  hour : Nat
  minute : Nat
  second : Nat
  micro : Nat
  /-- Seconds ahead of universal time. -/
  offset : Option Int
deriving DecidableEq, Repr, Inhabited

namespace Timestamp

def ofDate (d : Date) : Timestamp := ⟨d, 0, 0, 0, 0, none⟩

/-! ## Writing -/

def pad (width n : Nat) : List Char := Decimal.padLeft width (Decimal.digitChars n)

def writeDate (d : Date) : List Char := pad 4 d.year ++ '-' :: pad 2 d.month ++ '-' :: pad 2 d.day

/-- `Z` for universal time, else sign, hours and minutes. -/
def writeOffset : Option Int → List Char
  | none => []
  | some 0 => ['Z']
  | some seconds =>
    let minutes := seconds.natAbs / 60
    (if seconds < 0 then '-' else '+') :: (pad 2 (minutes / 60) ++ ':' :: pad 2 (minutes % 60))

/-- The written form; a fraction of a second has six digits and stands only if it is not zero. -/
def write (t : Timestamp) : String :=
  String.ofList <|
    writeDate t.date ++ 'T' :: pad 2 t.hour ++ ':' :: pad 2 t.minute ++ ':' :: pad 2 t.second ++
      (if t.micro = 0 then [] else '.' :: pad 6 t.micro) ++ writeOffset t.offset

/-! ## Reading -/

/-- Two digits at the front: their value and the rest. -/
def twoDigits : List Char → Option (Nat × List Char)
  | a :: b :: rest =>
    if a.isDigit && b.isDigit then some (Decimal.ofDigits [a, b], rest) else none
  | _ => none

/-- `yyyy-mm-dd` at the front, naming a day of the calendar. -/
def readDate (cs : List Char) : Option (Date × List Char) := do
  let (century, cs) ← twoDigits cs
  let (year, cs) ← twoDigits cs
  let cs ← Text.after? ['-'] cs
  let (month, cs) ← twoDigits cs
  let cs ← Text.after? ['-'] cs
  let (day, cs) ← twoDigits cs
  let date : Date := ⟨century * 100 + year, month, day⟩
  if date.IsValid then some (date, cs) else none

/-- The fraction of a second after its mark, cut to microseconds. -/
def readFraction : List Char → Option (Nat × List Char)
  | mark :: cs =>
    if mark = '.' || mark = ',' then
      let ds := cs.takeWhile Char.isDigit
      if ds.isEmpty then none
      else
        let kept := ds.take 6
        some (Decimal.ofDigits kept * Nat.pow 10 (6 - kept.length), cs.dropWhile Char.isDigit)
    else some (0, mark :: cs)
  | [] => some (0, [])

/-- Seconds and their fraction, both absent when no colon follows. -/
def readSeconds : List Char → Option (Nat × Nat × List Char)
  | ':' :: cs => do
    let (second, cs) ← twoDigits cs
    let (micro, cs) ← readFraction cs
    if second ≤ 59 then some (second, micro, cs) else none
  | cs => some (0, 0, cs)

/-- An offset that ends the text: nothing, `Z`, or a sign with hours and minutes. -/
def readOffset : List Char → Option (Option Int)
  | [] => some none
  | ['Z'] | ['z'] => some (some 0)
  | sign :: cs => do
    let factor : Int ←
      if sign = '+' then some 1 else if sign = '-' || sign = '−' then some (-1) else none
    let (hours, cs) ← twoDigits cs
    let cs := (Text.after? [':'] cs).getD cs
    let (minutes, cs) ← twoDigits cs
    if cs.isEmpty && minutes < 60 && hours < 24 then
      some (some (factor * (hours * 3600 + minutes * 60 : Nat)))
    else none

/-- The time of day and offset that end a text. -/
def readClock (date : Date) (cs : List Char) : Option Timestamp := do
  let (hour, cs) ← twoDigits cs
  let cs ← Text.after? [':'] cs
  let (minute, cs) ← twoDigits cs
  let (second, micro, cs) ← readSeconds cs
  let offset ← readOffset cs
  if hour ≤ 23 && minute ≤ 59 then some ⟨date, hour, minute, second, micro, offset⟩ else none

/-- A date, a separator and a time of day. -/
def readFull (cs : List Char) : Option Timestamp := do
  let (date, cs) ← readDate cs
  match cs with
  | sep :: cs =>
    if sep = 'T' || sep = 't' || sep = ' ' || sep = '_' then readClock date cs else none
  | [] => none

/-! ## Counted time -/

/-- Counts above this are milliseconds. -/
def millisecondsAbove : Nat := 20000000000

/-- The universal time `seconds` and `micros` after 1970, if it lies in the years 1600 to 9999. -/
def ofCount (count : Int) (micros : Nat) : Option Timestamp :=
  let (seconds, extra) :=
    if count.natAbs ≤ millisecondsAbove then (count, 0)
    else (count.fdiv 1000, (count.fmod 1000).toNat * 1000)
  let total := micros + extra
  let seconds := seconds + (total / 1000000 : Nat)
  if seconds < -11676096000 ∨ 253402300799 < seconds then none
  else
    let inDay := (seconds.fmod 86400).toNat
    some ⟨.ofDays (seconds.fdiv 86400), inDay / 3600, inDay % 3600 / 60, inDay % 60,
      total % 1000000, some 0⟩

/-- The universal time a number of seconds after 1970, to the nearest microsecond. -/
def ofReal (x : Binary64) : Option Timestamp :=
  match x.units with
  | none => none
  | some u =>
    let one := Binary64.unitsOfOne
    let fraction := (u - u.tdiv one * one).natAbs
    ofCount (u.fdiv one) ((2 * fraction * 1000000 + one) / (2 * one))

/-- The number that a text is, when it is a count of seconds. -/
def countIn (cs : List Char) : Option (Int ⊕ Binary64) :=
  let (negative, body) := Decimal.takeSign cs
  let whole := body.takeWhile Char.isDigit
  let rest := body.dropWhile Char.isDigit
  if whole.isEmpty then none
  else
    match rest with
    | [] => some (.inl (if negative then -(Decimal.ofDigits whole) else Decimal.ofDigits whole))
    | '.' :: fraction =>
      if fraction.all Char.isDigit then
        some (.inr (Decimal.Numeral.toBinary64 ⟨negative, whole, fraction, 0, true⟩))
      else none
    | _ => none

/-- The time that a text names: a full time, a date, or a count of seconds. -/
def read (s : String) : Option Timestamp :=
  let cs := s.toList
  match readFull cs with
  | some t => some t
  | none =>
    match countIn cs with
    | some (.inl n) => ofCount n 0
    | some (.inr x) => ofReal x
    | none =>
      match readDate cs with
      | some (d, []) => some (ofDate d)
      | _ => none

end Timestamp

end ProfileReadme
