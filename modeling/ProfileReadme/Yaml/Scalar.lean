/-
What scalars denote. A plain scalar without a tag is what it looks like; all others are texts,
unless a tag says otherwise.
-/
import ProfileReadme.Text.Base64
import ProfileReadme.Text.Blank
import ProfileReadme.Yaml.Node
import ProfileReadme.Yaml.Time

namespace ProfileReadme.Yaml

inductive ScalarKind where
  | null | bool | int | real | time | text | bytes
  /-- A key whose value is laid under the mapping that it stands in. -/
  | merge
  /-- The lone equals sign. -/
  | equals
deriving DecidableEq, Repr

namespace ScalarKind

/-! ## Looks -/

/-- A word in small letters, in capitals, or with a capital at its start. -/
def isWord (word : String) (cs : List Char) : Bool :=
  let small := word.toList
  let large := small.map Char.toUpper
  cs == small || cs == large || cs == large.take 1 ++ small.drop 1

def boolWords : List (String × Bool) :=
  [("yes", true), ("no", false), ("true", true), ("false", false), ("on", true), ("off", false)]

def looksBool (cs : List Char) : Bool := boolWords.any fun (w, _) => isWord w cs

def looksNull (cs : List Char) : Bool := cs.isEmpty || cs == ['~'] || isWord "null" cs

/-- A digit of a class, and then digits and underscores. -/
def isGrouped (first : Char → Bool) : List Char → Bool
  | [] => false
  | c :: cs => first c && cs.all fun c => c.isDigit || c = '_'

/-- A number below sixty, of one or two digits. -/
def isSixtieth : List Char → Bool
  | [a] => a.isDigit
  | [a, b] => '0' ≤ a && a ≤ '5' && b.isDigit
  | _ => false

/-- Parts between colons, each a sixtieth of the one before. -/
def isSexagesimal (first : Char → Bool) (cs : List Char) : Bool :=
  match Text.splitAt (· == ':') cs with
  | head :: part :: parts => isGrouped first head && (part :: parts).all isSixtieth
  | _ => false

def unsigned (cs : List Char) : List Char := (Decimal.takeSign cs).2

def isExponent : List Char → Bool
  | [] => true
  | e :: sign :: ds =>
    (e = 'e' || e = 'E') && (sign = '-' || sign = '+') && !ds.isEmpty && ds.all Char.isDigit
  | _ => false

/-- Digits and underscores, and then an exponent or nothing. -/
def isFraction (cs : List Char) : Bool :=
  isExponent (cs.dropWhile fun c => c.isDigit || c = '_')

def looksReal (cs : List Char) : Bool :=
  let body := unsigned cs
  let whole := body.takeWhile (· ≠ '.')
  match body.dropWhile (· ≠ '.') with
  | '.' :: after =>
    if whole.isEmpty then
      isWord "inf" after || cs == body && isNanWord after
        || cs == body && (after.head?.any Char.isDigit) && isFraction after
    else
      isGrouped Char.isDigit whole && isFraction after
        || isSexagesimal Char.isDigit whole && after.all (fun c => c.isDigit || c = '_')
  | _ => false
where
  /-- The word for what is no number. -/
  isNanWord (cs : List Char) : Bool :=
    cs == ['n', 'a', 'n'] || cs == ['N', 'a', 'N'] || cs == ['N', 'A', 'N']

def isBinaryDigit (c : Char) : Bool := c = '0' || c = '1' || c = '_'

def isOctalDigit (c : Char) : Bool := ('0' ≤ c && c ≤ '7') || c = '_'

def startsCount (c : Char) : Bool := '1' ≤ c && c ≤ '9'

def looksInt (cs : List Char) : Bool :=
  match unsigned cs with
  | ['0'] => true
  | '0' :: 'b' :: ds => !ds.isEmpty && ds.all isBinaryDigit
  | '0' :: 'x' :: ds => !ds.isEmpty && ds.all fun c => isHexDigit c || c = '_'
  | '0' :: ds => ds.all isOctalDigit
  | cs => isGrouped startsCount cs || isSexagesimal startsCount cs

def looksTime (cs : List Char) : Bool := (WrittenTime.read? cs).any (·.isPlain)

/-- What a plain scalar looks like. -/
def ofPlain (text : String) : ScalarKind :=
  let cs := text.toList
  if looksNull cs then .null
  else if looksBool cs then .bool
  else if looksReal cs then .real
  else if looksInt cs then .int
  else if looksTime cs then .time
  else if cs == ['<', '<'] then .merge
  else if cs == ['='] then .equals
  else .text

/-! ## Tags -/

def tags : List (String × ScalarKind) :=
  [("null", .null), ("bool", .bool), ("int", .int), ("float", .real), ("timestamp", .time),
    ("str", .text), ("binary", .bytes), ("merge", .merge), ("value", .equals)]

def ofTag? (tag : String) : Option ScalarKind :=
  tags.findSome? fun (name, k) => if Node.standard ++ name = tag then some k else none

/-- The kind of a scalar; a tag that is not known has none. -/
def of? (tag : Option String) (plain : Bool) (text : String) : Option ScalarKind :=
  match tag with
  | some t => ofTag? t
  | none => some (if plain then ofPlain text else .text)

end ScalarKind

/-! ## Values -/

/-- The digits of a number in a base, which may name the base itself. -/
def baseDigits (base : Nat) (cs : List Char) : List Char :=
  match base, cs with
  | 2, '0' :: 'b' :: ds => ds
  | 8, '0' :: 'o' :: ds => ds
  | 16, '0' :: 'x' :: ds => ds
  | _, ds => ds

/-- The value of a digit in a base. -/
def digitIn? (base : Nat) (c : Char) : Option Nat :=
  (Json.hexValue? c).filter (· < base)

/-- A whole number in a base. Only decimal digits are counted. -/
def intIn (base : Nat) (cs : List Char) : Except Fault Int :=
  let fault := Fault.badInt base (String.ofList cs)
  let (negative, body) := Decimal.takeSign (Text.trimWhile Text.isBlank cs)
  match baseDigits base body with
  | [] => .error fault
  | ds =>
    match ds.mapM (digitIn? base) with
    | none => .error fault
    | some ns =>
      if base = 10 && longestInt < ns.length then .error (.longInt ns.length)
      else
        let size : Int := (ns.foldl (fun n d => base * n + d) 0 : Nat)
        .ok (if negative then -size else size)

/-- Parts between colons as one number, each part a sixtieth of the one before. -/
def sexagesimal (parts : List Int) : Int := parts.foldl (fun n d => 60 * n + d) 0

/-- The whole number of a scalar: with a base or in sixtieths, underscores passed over. -/
def intOf (text : String) : Except Fault Int := do
  let cs := text.toList.filter (· ≠ '_')
  if cs.isEmpty then throw .emptyNumber
  let (negative, body) := Decimal.takeSign cs
  let size ← match body with
    | [] => throw .emptyNumber
    | ['0'] => pure 0
    | '0' :: 'b' :: ds => intIn 2 ds
    | '0' :: 'x' :: ds => intIn 16 ds
    | '0' :: _ => intIn 8 body
    | _ =>
      if body.contains ':' then
        return sexagesimal (← (Text.splitAt (· == ':') body).mapM (intIn 10))
          * (if negative then -1 else 1)
      else intIn 10 body
  return if negative then -size else size

def realIn (cs : List Char) : Except Fault Binary64 :=
  match Decimal.realNumeral (Text.trimWhile Text.isBlank cs) with
  | some x => .ok x
  | none => .error (.badReal (String.ofList cs))

/-- Sixtieths added up from the last part on; `unit` is the worth of the next part. -/
def addSixtieths (unit : Nat) (sum : Binary64) : List (List Char) → Except Fault Binary64
  | [] => .ok sum
  | part :: parts => do
    let x ← realIn part
    let term := match x.toInt? with
      | some n => .ofInt (n * unit)
      | none => x
    addSixtieths (60 * unit) (sum.add term) parts

/-- The real number of a scalar. -/
def realOf (text : String) : Except Fault Binary64 := do
  let cs := (text.toList.filter (· ≠ '_')).map Char.toLower
  if cs.isEmpty then throw .emptyNumber
  let (negative, body) := Decimal.takeSign cs
  let size ←
    if body == ['.', 'i', 'n', 'f'] then pure (.infinite false)
    else if body == ['.', 'n', 'a', 'n'] then return .nan
    else if body.contains ':' then
      addSixtieths 1 .zero (Text.splitAt (· == ':') body).reverse
    else realIn body
  return if negative then size.negate else size

def boolOf (text : String) : Except Fault Bool :=
  let word := String.ofList (text.toList.map Char.toLower)
  match ScalarKind.boolWords.lookup word with
  | some b => .ok b
  | none => .error (.badBool word)

def timeOf (text : String) : Except Fault Value :=
  match WrittenTime.read? text.toList with
  | some t => t.value
  | none => .error .notTime

def bytesOf (text : String) : Except Fault (List UInt8) :=
  let cs := text.toList
  if cs.all (·.toNat < 128) then
    match Text.base64? cs with
    | some bs => .ok bs
    | none => refuse
  else refuse

/-- The value of a scalar of a kind. -/
def ScalarKind.value (text : String) : ScalarKind → Except Fault Value
  | .null => .ok .null
  | .bool => (boolOf text).map .bool
  | .int => (intOf text).map .int
  | .real => (realOf text).map .real
  | .time => timeOf text
  | .text => .ok (.text text)
  | .bytes => (bytesOf text).map .bytes
  | .merge | .equals => refuse

end ProfileReadme.Yaml
