/-
A place in a text, with its line and column, and the classes of characters that YAML tells apart.
Line ends are single characters here: the text has been normalized.
-/

namespace ProfileReadme.Yaml

/-! ## Characters -/

def isBreak (c : Char) : Bool := c = '\n' || c = '\x85' || c = '\u2028' || c = '\u2029'

/-- Blanks, tabs and line breaks. -/
def isGap (c : Char) : Bool := c = ' ' || c = '\t' || isBreak c

def isInset (c : Char) : Bool := c = ' ' || c = '\t'

/-- Characters of anchor names, directive names and tag handles. -/
def isNameChar (c : Char) : Bool := c.isAlphanum || c = '-' || c = '_'

def isHexDigit (c : Char) : Bool :=
  c.isDigit || ('a' ≤ c && c ≤ 'f') || ('A' ≤ c && c ≤ 'F')

/-- Characters that may stand in a document. -/
def isPrintable (c : Char) : Bool :=
  let n := c.toNat
  n == 9 || n == 10 || n == 13 || (0x20 ≤ n && n ≤ 0x7E) || n == 0x85
    || (0xA0 ≤ n && n ≤ 0xFFFD) || 0x10000 ≤ n

/-- What a line break is read as. -/
def breakRead (c : Char) : Char := if c = '\x85' then '\n' else c

/-- Whether a gap or the end comes next. -/
def gapNext : List Char → Bool
  | [] => true
  | c :: _ => isGap c

/-- Whether a line break or the end comes next. -/
def lineEndNext : List Char → Bool
  | [] => true
  | c :: _ => isBreak c

/-- Whether a blank, a line break or the end comes next. -/
def blankNext : List Char → Bool
  | [] => true
  | c :: _ => c = ' ' || isBreak c

/-! ## Places -/

structure Cursor where
  rest : List Char
  index : Nat := 0
  line : Nat := 0
  column : Nat := 0

namespace Cursor

/-- One character further. A byte order mark takes no column. -/
def next (c : Cursor) : Cursor :=
  match c.rest with
  | [] => c
  | ch :: rest =>
    if isBreak ch then ⟨rest, c.index + 1, c.line + 1, 0⟩
    else if ch = '\uFEFF' then ⟨rest, c.index + 1, c.line, c.column⟩
    else ⟨rest, c.index + 1, c.line, c.column + 1⟩

def skip : Nat → Cursor → Cursor
  | 0, c => c
  | n + 1, c => skip n c.next

def head? (c : Cursor) : Option Char := c.rest.head?

def atEnd (c : Cursor) : Bool := c.rest.isEmpty

/-- The characters of a class from here on, and the place after them. -/
def span (p : Char → Bool) (c : Cursor) : List Char × Cursor :=
  let cs := c.rest.takeWhile p
  (cs, c.skip cs.length)

def skipWhile (p : Char → Bool) (c : Cursor) : Cursor := (c.span p).2

def skipBlanks (c : Cursor) : Cursor := c.skipWhile (· = ' ')

def skipToLineEnd (c : Cursor) : Cursor := c.skipWhile (!isBreak ·)

/-- The line break here, if there is one, and the place after it. -/
def takeBreak (c : Cursor) : Option (Char × Cursor) :=
  match c.rest with
  | ch :: _ => if isBreak ch then some (breakRead ch, c.next) else none
  | [] => none

/-- Whether a mark of three characters stands here by itself. -/
def atMark (mark : List Char) (c : Cursor) : Bool :=
  mark.isPrefixOf c.rest && gapNext (c.rest.drop 3)

def documentStartMark : List Char := ['-', '-', '-']

def documentEndMark : List Char := ['.', '.', '.']

/-- Whether a document starts or ends here, at the start of a line. -/
def atDocumentMark (c : Cursor) : Bool := c.atMark documentStartMark || c.atMark documentEndMark

end Cursor

end ProfileReadme.Yaml
