/-
The writer of JSON text, on one line or with two blanks per level, with all characters as they are
or in ASCII alone.
-/
import ProfileReadme.Number.Decimal
import ProfileReadme.Text.Quoted
import ProfileReadme.Value.Basic

namespace ProfileReadme.Json

/-- How values are laid out in text. -/
structure Style where
  /-- Whether items stand on lines of their own. -/
  indented : Bool
  /-- Whether characters past ASCII become escapes. -/
  asciiOnly : Bool
deriving DecidableEq, Repr

/-- On one line, in ASCII. -/
def line : Style := ⟨false, true⟩

/-- Two blanks per level, all characters as they are. -/
def page : Style := ⟨true, false⟩

/-! ## Strings and numbers -/

def unitEscape (n : Nat) : List Char := '\\' :: 'u' :: Text.hex 4 n

def writeChar (style : Style) (c : Char) : List Char :=
  match c with
  | '"' => ['\\', '"']
  | '\\' => ['\\', '\\']
  | '\n' => ['\\', 'n']
  | '\r' => ['\\', 'r']
  | '\t' => ['\\', 't']
  | '\x08' => ['\\', 'b']
  | '\x0c' => ['\\', 'f']
  | c =>
    let n := c.toNat
    if n < 32 then unitEscape n
    else if style.asciiOnly && 126 < n then
      if n < 0x10000 then unitEscape n
      else
        unitEscape (0xD800 + (n - 0x10000) / 0x400) ++ unitEscape (0xDC00 + (n - 0x10000) % 0x400)
    else [c]

def writeString (style : Style) (s : String) : String :=
  String.ofList ('"' :: s.toList.flatMap (writeChar style) ++ ['"'])

def writeReal : Binary64 → String
  | .nan => "NaN"
  | .infinite negative => if negative then "-Infinity" else "Infinity"
  | x => x.text

/-! ## Values -/

def newLine (level : Nat) : String := "\n" ++ Text.repeated "  " level

/-- The parts between brackets, laid out at a level. -/
def bracketed (style : Style) (level : Nat) (opening closing : String) (parts : List String) :
    String :=
  if parts.isEmpty then opening ++ closing
  else if style.indented then
    opening ++ newLine (level + 1) ++ Text.join ("," ++ newLine (level + 1)) parts ++
      newLine level ++ closing
  else opening ++ Text.join ", " parts ++ closing

mutual

def writeAt (style : Style) (level : Nat) : Value → String
  | .null => "null"
  | .bool b => if b then "true" else "false"
  | .int n => toString n
  | .real x => writeReal x
  | .text s => writeString style s
  | .bytes bs => writeString style (String.ofList (bs.map fun b => Char.ofNat b.toNat))
  | .date d => writeString style (String.ofList (Timestamp.writeDate d))
  | .moment t => writeString style t.write
  | .list items => bracketed style level "[" "]" (writeItems style (level + 1) items)
  | .object fields => bracketed style level "\x7b" "\x7d" (writeFields style (level + 1) fields)
  | .record _ fields => bracketed style level "\x7b" "\x7d" (writeFields style (level + 1) fields)

def writeItems (style : Style) (level : Nat) : List Value → List String
  | [] => []
  | v :: vs => writeAt style level v :: writeItems style level vs

def writeFields (style : Style) (level : Nat) : List (Key × Value) → List String
  | [] => []
  | (k, v) :: fs =>
    (writeString style (k.label) ++ ": " ++ writeAt style level v) :: writeFields style level fs

end

/-- The text of a value. -/
def write (style : Style) (v : Value) : String := writeAt style 0 v

end ProfileReadme.Json
