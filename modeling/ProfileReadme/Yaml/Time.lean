/-
Dates and times as YAML writes them: a date, and after a `T` or space a time of day with an
optional fraction and zone.
-/
import ProfileReadme.Text.Basic
import ProfileReadme.Value.Basic
import ProfileReadme.Yaml.Token

namespace ProfileReadme.Yaml

/-- A zone: universal time, or hours and minutes ahead or behind. -/
inductive Zone where
  | universal
  | ahead (negative : Bool) (hours minutes : Nat)
deriving DecidableEq, Repr

/-- A time of day as written. -/
structure Clock where
  hour : Nat
  minute : Nat
  second : Nat
  fraction : List Char
  zone : Option Zone
deriving Repr

/-- A date as written; it need not be one that the calendar has. -/
structure WrittenTime where
  year : Nat
  month : Nat
  day : Nat
  /-- Whether month and day have two digits each. -/
  full : Bool
  clock : Option Clock
deriving Repr

namespace WrittenTime

/-! ## Reading -/

/-- One or two digits: their value, how many they are, and what follows. -/
def digits12 : List Char → Option (Nat × Nat × List Char)
  | a :: b :: cs =>
    if a.isDigit then
      if b.isDigit then some (Decimal.ofDigits [a, b], 2, cs)
      else some (Decimal.digitValue a, 1, b :: cs)
    else none
  | [a] => if a.isDigit then some (Decimal.digitValue a, 1, []) else none
  | [] => none

def digits2 : List Char → Option (Nat × List Char)
  | a :: b :: cs =>
    if a.isDigit && b.isDigit then some (Decimal.ofDigits [a, b], cs) else none
  | _ => none

def isInset (c : Char) : Bool := c = ' ' || c = '\t'

/-- The zone at the end of a time, if there is one. -/
def zone? (cs : List Char) : Option (Option Zone) :=
  if cs.isEmpty then some none
  else
    match cs.dropWhile isInset with
    | ['Z'] => some (some .universal)
    | sign :: cs =>
      if sign = '-' || sign = '+' then do
        let (hours, _, cs) ← digits12 cs
        let (minutes, cs) ← match cs with
          | [] => some (0, [])
          | ':' :: cs => digits2 cs
          | _ => none
        if cs.isEmpty then some (some (.ahead (sign = '-') hours minutes)) else none
      else none
    | [] => none

def clock? (cs : List Char) : Option Clock := do
  let (hour, _, cs) ← digits12 cs
  let (minute, cs) ← digits2 (← Text.after? [':'] cs)
  let (second, cs) ← digits2 (← Text.after? [':'] cs)
  let (fraction, cs) := match cs with
    | '.' :: cs => (cs.takeWhile Char.isDigit, cs.dropWhile Char.isDigit)
    | cs => ([], cs)
  return ⟨hour, minute, second, fraction, ← zone? cs⟩

/-- What stands between a date and a time of day. -/
def afterGap? : List Char → Option (List Char)
  | 'T' :: cs => some cs
  | 't' :: cs => some cs
  | c :: cs => if isInset c then some (cs.dropWhile isInset) else none
  | [] => none

def read? (cs : List Char) : Option WrittenTime := do
  let (century, cs) ← digits2 cs
  let (rest, cs) ← digits2 cs
  let (month, m, cs) ← digits12 (← Text.after? ['-'] cs)
  let (day, d, cs) ← digits12 (← Text.after? ['-'] cs)
  let clock ← if cs.isEmpty then some none else ((afterGap? cs).bind clock?).map some
  return ⟨100 * century + rest, month, day, m = 2 && d = 2, clock⟩

/-- Whether a plain scalar is a time: a date alone has two digits for month and day. -/
def isPlain (t : WrittenTime) : Bool := t.full || t.clock.isSome

/-! ## Meaning -/

/-- A span of time as messages show it. -/
def spanText (seconds : Int) : String :=
  let days := seconds.fdiv 86400
  let rest := seconds.fmod 86400
  let parts := (if days = 0 then [] else ["days=" ++ toString days]) ++
    (if rest = 0 then [] else ["seconds=" ++ toString rest])
  "datetime.timedelta(" ++ (if parts.isEmpty then "0" else Text.join ", " parts) ++ ")"

/-- The seconds that a zone is ahead of universal time: less than a day either way. -/
def offset : Zone → Except Fault Int
  | .universal => .ok 0
  | .ahead negative hours minutes =>
    let size : Int := 3600 * hours + 60 * minutes
    let seconds := if negative then -size else size
    if size < 86400 then .ok seconds
    else
      .error <| .badTime <|
        "offset must be a timedelta strictly between -timedelta(hours=24) and " ++
          "timedelta(hours=24), not " ++ spanText seconds ++ "."

def date (t : WrittenTime) : Except Fault Date :=
  if t.year = 0 then .error (.badYear 0)
  else if t.month = 0 ∨ 12 < t.month then .error (.badTime "month must be in 1..12")
  else if t.day = 0 ∨ Date.daysInMonth t.year t.month < t.day then
    .error (.badTime "day is out of range for month")
  else .ok ⟨t.year, t.month, t.day⟩

/-- The first six digits of a fraction, as millionths. -/
def micros (fraction : List Char) : Nat :=
  Decimal.ofDigits ((fraction ++ List.replicate 6 '0').take 6)

/-- The date, or the point in time if a time of day was written. -/
def value (t : WrittenTime) : Except Fault Value :=
  match t.clock with
  | none => (date t).map .date
  | some c => do
    let offset ← c.zone.mapM offset
    let d ← date t
    if 23 < c.hour then throw (.badTime "hour must be in 0..23")
    if 59 < c.minute then throw (.badTime "minute must be in 0..59")
    if 59 < c.second then throw (.badTime "second must be in 0..59")
    return .moment ⟨d, c.hour, c.minute, c.second, micros c.fraction, offset⟩

end WrittenTime

end ProfileReadme.Yaml
