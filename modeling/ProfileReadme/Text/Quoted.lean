/-
A text between quotes as messages show it: single quotes, double ones when the text holds a single
quote and no double one, escapes for characters that do not show.
-/
import ProfileReadme.Text.Basic
import ProfileReadme.Text.HiddenTable

namespace ProfileReadme.Text

def hexDigit (n : Nat) : Char := (Nat.digitChar (n % 16))

/-- A number in hexadecimal, padded with zeros to `width`. -/
def hex (width n : Nat) : List Char :=
  let ds := Nat.toDigits 16 n
  List.replicate (width - ds.length) '0' ++ ds

/-- Characters that are shown as escapes. -/
def isHidden (c : Char) : Bool :=
  if c.toNat < 0x7F then c.toNat < 0x20 else inRanges hiddenRanges c

def shownChar (quote c : Char) : List Char :=
  if c = quote || c = '\\' then ['\\', c]
  else if c = '\n' then ['\\', 'n']
  else if c = '\r' then ['\\', 'r']
  else if c = '\t' then ['\\', 't']
  else if isHidden c then
    let n := c.toNat
    if n < 0x100 then '\\' :: 'x' :: hex 2 n
    else if n < 0x10000 then '\\' :: 'u' :: hex 4 n
    else '\\' :: 'U' :: hex 8 n
  else [c]

/-- The text in quotes, with escapes for what does not show. -/
def quoted (s : String) : String :=
  let cs := s.toList
  let quote := if cs.contains '\x27' && !cs.contains '"' then '"' else '\x27'
  String.ofList (quote :: cs.flatMap (shownChar quote) ++ [quote])

end ProfileReadme.Text
