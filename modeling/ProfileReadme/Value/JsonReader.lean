/-
The reader of JSON text. Numbers without point and exponent are whole; of equal keys the first
place and the last value count. A limit on nesting is a parameter.
-/
import ProfileReadme.Number.Decimal
import ProfileReadme.Text.Quoted
import ProfileReadme.Value.Basic

namespace ProfileReadme.Json

def isSpace (c : Char) : Bool := c = ' ' || c = '\n' || c = '\r' || c = '\t'

def skipSpace (cs : List Char) : List Char := cs.dropWhile isSpace

/-! ## Strings -/

def hexValue? (c : Char) : Option Nat :=
  if c.isDigit then some (c.toNat - 48)
  else if 'a' ≤ c && c ≤ 'f' then some (c.toNat - 87)
  else if 'A' ≤ c && c ≤ 'F' then some (c.toNat - 55)
  else none

/-- Four hexadecimal digits at the front. -/
def takeUnit : List Char → Option (Nat × List Char)
  | a :: b :: c :: d :: rest => do
    let a ← hexValue? a
    let b ← hexValue? b
    let c ← hexValue? c
    let d ← hexValue? d
    some (((a * 16 + b) * 16 + c) * 16 + d, rest)
  | _ => none

/-- The character of an escape after `\u`: one unit, or a high and a low one. -/
def takeEscaped (cs : List Char) : Option (Char × List Char) := do
  let (high, rest) ← takeUnit cs
  if 0xD800 ≤ high && high < 0xDC00 then
    match rest with
    | '\\' :: 'u' :: rest =>
      let (low, rest) ← takeUnit rest
      if 0xDC00 ≤ low && low < 0xE000 then
        some (Char.ofNat (0x10000 + (high - 0xD800) * 0x400 + (low - 0xDC00)), rest)
      else none
    | _ => none
  else if 0xDC00 ≤ high && high < 0xE000 then none
  else some (Char.ofNat high, rest)

def simpleEscape? (c : Char) : Option Char :=
  match c with
  | '"' => some '"'
  | '\\' => some '\\'
  | '/' => some '/'
  | 'b' => some '\x08'
  | 'f' => some '\x0c'
  | 'n' => some '\n'
  | 'r' => some '\r'
  | 't' => some '\t'
  | _ => none

/-- The string after its opening quote, and what follows the closing one. -/
def takeString : Nat → List Char → List Char → Option (String × List Char)
  | 0, _, _ => none
  | _, _, [] => none
  | fuel + 1, done, c :: cs =>
    if c = '"' then some (String.ofList done.reverse, cs)
    else if c = '\\' then
      match cs with
      | 'u' :: cs => do
        let (c, cs) ← takeEscaped cs
        takeString fuel (c :: done) cs
      | e :: cs => do
        let c ← simpleEscape? e
        takeString fuel (c :: done) cs
      | [] => none
    else if c.toNat < 32 then none
    else takeString fuel (c :: done) cs

/-! ## Numbers -/

/-- A number at the front. -/
def takeNumber (cs : List Char) : Option (Value × List Char) := do
  let negative := cs.head? == some '-'
  let body := if negative then cs.drop 1 else cs
  let whole := body.takeWhile Char.isDigit
  let rest := body.dropWhile Char.isDigit
  if whole.isEmpty || (whole.head? == some '0' && 1 < whole.length) then none
  let (fraction, rest) ←
    match rest with
    | '.' :: rest =>
      let ds := rest.takeWhile Char.isDigit
      if ds.isEmpty then none else some (ds, rest.dropWhile Char.isDigit)
    | rest => some ([], rest)
  let (exponent, rest) ←
    match rest with
    | 'e' :: rest | 'E' :: rest => (Decimal.takeExponent rest).map fun (e, r) => (some e, r)
    | rest => some (none, rest)
  let numeral : Decimal.Numeral :=
    ⟨negative, whole, fraction, exponent.getD 0, !fraction.isEmpty || exponent.isSome⟩
  some (if numeral.isReal then .real numeral.toBinary64 else .int numeral.toInt, rest)

/-! ## Values -/

def literals : List (String × Value) :=
  [("null", .null), ("true", .bool true), ("false", .bool false), ("NaN", .real .nan),
    ("Infinity", .real (.infinite false)), ("-Infinity", .real (.infinite true))]

def takeLiteral (cs : List Char) : Option (Value × List Char) :=
  literals.findSome? fun (word, v) => (Text.after? word.toList cs).map (v, ·)

mutual

/-- A value at the front, at most `room` levels deep. -/
def takeValue : Nat → Nat → List Char → Option (Value × List Char)
  | 0, _, _ => none
  | fuel + 1, room, cs =>
    match skipSpace cs with
    | '"' :: cs => (takeString (cs.length + 1) [] cs).map fun (s, cs) => (.text s, cs)
    | '[' :: cs =>
      match room with
      | 0 => none
      | room + 1 =>
        match skipSpace cs with
        | ']' :: cs => some (.list [], cs)
        | cs => takeItems fuel room [] cs
    | '\x7b' :: cs =>
      match room with
      | 0 => none
      | room + 1 =>
        match skipSpace cs with
        | '\x7d' :: cs => some (.object [], cs)
        | cs => takeFields fuel room [] cs
    | cs => (takeLiteral cs).or (takeNumber cs)

/-- The items of a list up to its closing bracket. -/
def takeItems : Nat → Nat → List Value → List Char → Option (Value × List Char)
  | 0, _, _, _ => none
  | fuel + 1, room, done, cs => do
    let (v, cs) ← takeValue fuel room cs
    match skipSpace cs with
    | ',' :: cs => takeItems fuel room (v :: done) cs
    | ']' :: cs => some (.list (v :: done).reverse, cs)
    | _ => none

/-- The fields of an object up to its closing brace. -/
def takeFields : Nat → Nat → List (Key × Value) → List Char → Option (Value × List Char)
  | 0, _, _, _ => none
  | fuel + 1, room, done, cs =>
    match skipSpace cs with
    | '"' :: cs => do
      let (k, cs) ← takeString (cs.length + 1) [] cs
      let cs ← Text.after? [':'] (skipSpace cs)
      let (v, cs) ← takeValue fuel room cs
      match skipSpace cs with
      | ',' :: cs => takeFields fuel room ((.name k, v) :: done) cs
      | '\x7d' :: cs => some (.object (Fields.ofPairs ((.name k, v) :: done).reverse), cs)
      | _ => none
    | _ => none

end

/-- The value that a text denotes, nested at most `room` levels deep. -/
def read (room : Nat) (s : String) : Option Value :=
  let cs := s.toList
  match takeValue (2 * cs.length + 2) room cs with
  | some (v, rest) => if (skipSpace rest).isEmpty then some v else none
  | none => none

end ProfileReadme.Json
