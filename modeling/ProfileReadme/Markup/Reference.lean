/-
Character references: what named and numbered references stand for, in running text and in
attribute values.
-/
import Std.Data.HashMap
import ProfileReadme.Markup.ReferenceTable
import ProfileReadme.Number.Decimal
import ProfileReadme.Text.Basic

namespace ProfileReadme.Markup

/-! ## Named references -/

def hexNumber (cs : List Char) : Nat :=
  cs.foldl (fun n c =>
    16 * n + (if c.isDigit then c.toNat - 48 else c.toLower.toNat - 87)) 0

/-- A name and the text it stands for, from an entry such as `lt=3c`. -/
def parseEntry (entry : List Char) : String × List Char :=
  let name := entry.takeWhile (· ≠ '=')
  let codes := (entry.dropWhile (· ≠ '=')).drop 1
  (String.ofList name, (Text.splitAt (· == ',') codes).map fun c => Char.ofNat (hexNumber c))

def entriesOf (lines : List String) : List (List Char) :=
  lines.flatMap fun line => Text.splitAt (· == ' ') line.toList

/-- The names that written markup needs. -/
def basicReferences : List (List Char × List Char) :=
  [("amp".toList, ['&']), ("lt".toList, ['<']), ("gt".toList, ['>']), ("quot".toList, ['"'])]

/-- What each other name stands for. -/
def references : Std.HashMap String (List Char) :=
  .ofList ((entriesOf referenceLines).map parseEntry)

/-- The names that count without a semicolon. -/
def bareNames : Std.HashMap String Unit :=
  .ofList ((entriesOf bareLines).map fun name => (String.ofList name, ()))

def named? (name : List Char) : Option (List Char) :=
  basicReferences.lookup name <|> references[String.ofList name]?

def isBare (name : List Char) : Bool := bareNames.contains (String.ofList name)

/-! ## Numbered references -/

/-- The characters that the numbers 128 to 159 stand for in old pages; 0 where there is none. -/
def legacyCodes : List Nat :=
  [0x20AC, 0, 0x201A, 0x192, 0x201E, 0x2026, 0x2020, 0x2021, 0x2C6, 0x2030, 0x160, 0x2039, 0x152,
    0, 0x17D, 0, 0, 0x2018, 0x2019, 0x201C, 0x201D, 0x2022, 0x2013, 0x2014, 0x2DC, 0x2122, 0x161,
    0x203A, 0x153, 0, 0x17E, 0x178]

def replacement : Char := '\ufffd'

/-- Numbers that are no character. -/
def isNoCharacter (n : Nat) : Bool := n == 0 || (0xD800 ≤ n && n ≤ 0xDFFF) || 0x10FFFF < n

/-- The character of a number. -/
def numbered (n : Nat) : Char :=
  if isNoCharacter n then replacement
  else if 0x80 ≤ n && n < 0xA0 then
    match legacyCodes[n - 0x80]? with
    | some 0 | none => Char.ofNat n
    | some code => Char.ofNat code
  else Char.ofNat n

/-- Numbers that an attribute value leaves out: controls and code points kept for no character. -/
def isLeftOut (n : Nat) : Bool :=
  (1 ≤ n && n ≤ 8) || n == 0xB || (0xE ≤ n && n ≤ 0x1F) || n == 0x7F || (0xFDD0 ≤ n && n ≤ 0xFDEF)
    || n % 0x10000 == 0xFFFE || n % 0x10000 == 0xFFFF

def numberedInAttribute (n : Nat) : List Char :=
  if isNoCharacter n then [replacement] else if isLeftOut n then [] else [numbered n]

/-! ## Attribute values -/

/-- The number after `&#`, and what follows it and its semicolon. -/
def takeNumber (cs : List Char) : Option (Nat × List Char) :=
  let isHex (c : Char) : Bool := c.isDigit || ('a' ≤ c && c ≤ 'f') || ('A' ≤ c && c ≤ 'F')
  let skipSemicolon (rest : List Char) : List Char := (Text.after? [';'] rest).getD rest
  match cs with
  | 'x' :: cs | 'X' :: cs =>
    match cs.takeWhile isHex with
    | [] => none
    | ds => some (hexNumber ds, skipSemicolon (cs.dropWhile isHex))
  | cs =>
    match cs.takeWhile Char.isDigit with
    | [] => none
    | ds => some (Decimal.ofDigits ds, skipSemicolon (cs.dropWhile Char.isDigit))

def isNameChar (c : Char) : Bool := c ∉ ['\t', '\n', '\x0c', ' ', '<', '&', '#', ';']

/-- The most characters a name may have. -/
def longestName : Nat := 32

/-- The longest start of a run that is a name which needs no semicolon, and how long it is. -/
def longestBare (run : List Char) : Option (List Char × Nat) :=
  ((List.range run.length).reverse.filter (2 ≤ ·)).findSome? fun n =>
    let name := run.take n
    if isBare name then (named? name).map (·, n) else none

/-- What a reference to a name stands for, and how many characters after `&` it takes. -/
def resolveName (cs : List Char) : Option (List Char × Nat) :=
  let run := (cs.take longestName).takeWhile isNameChar
  if run.isEmpty then none
  else
    let closed := (cs.drop run.length).head? == some ';'
    let whole := if closed then named? run else if isBare run then named? run else none
    match whole with
    | some text => some (text, run.length + (if closed then 1 else 0))
    | none => longestBare run

/-- An attribute value with its references resolved; `skip` characters are passed over. -/
def unescapeFrom : Nat → List Char → List Char
  | _, [] => []
  | skip + 1, _ :: cs => unescapeFrom skip cs
  | 0, c :: cs =>
    if c = '&' then
      match cs with
      | '#' :: digits =>
        match takeNumber digits with
        | some (n, rest) => numberedInAttribute n ++ unescapeFrom (cs.length - rest.length) cs
        | none => c :: unescapeFrom 0 cs
      | _ =>
        match resolveName cs with
        | some (text, taken) => text ++ unescapeFrom taken cs
        | none => c :: unescapeFrom 0 cs
    else c :: unescapeFrom 0 cs

def unescape (s : String) : String := String.ofList (unescapeFrom 0 s.toList)

end ProfileReadme.Markup
