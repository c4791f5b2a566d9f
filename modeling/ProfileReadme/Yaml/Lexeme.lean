/-
The parts of a YAML text that stand by themselves: names, tags, directives and scalars. Each is
read from the place where it begins, and comes with the place after it.
-/
import ProfileReadme.Value.JsonReader
import ProfileReadme.Yaml.Cursor
import ProfileReadme.Yaml.Token

namespace ProfileReadme.Yaml

def refuse : Except Fault α := .error .malformed

/-- Goes on only if something holds. -/
def need (b : Bool) : Except Fault Unit := if b then .ok () else refuse

/-! ## Names and tags -/

def endsName : List Char → Bool
  | [] => true
  | c :: _ => isGap c || c ∈ ['?', ':', ',', ']', '\x7d', '%', '@', '\x60']

/-- The name of an anchor or alias, after its mark. -/
def takeName (c : Cursor) : Except Fault (String × Cursor) := do
  let (name, c) := c.next.span isNameChar
  need (!name.isEmpty && endsName c.rest)
  return (String.ofList name, c)

/-- A tag handle: one exclamation mark, or a name between two of them. -/
def takeHandle (c : Cursor) : Except Fault (String × Cursor) := do
  need (c.head? == some '!')
  let c := c.next
  if c.head? == some ' ' then return ("!", c)
  let (name, c) := c.span isNameChar
  need (c.head? == some '!')
  return (String.ofList ('!' :: name ++ ['!']), c.next)

def isUriChar (c : Char) : Bool :=
  isNameChar c || c ∈ [';', '/', '?', ':', '@', '&', '=', '+', '$', ',', '.', '!', '~', '*', '\x27',
    '(', ')', '[', ']', '%']

/-- The bytes of the percent escapes here. -/
def takeOctets : Nat → Cursor → Except Fault (List UInt8 × Cursor)
  | 0, c => .ok ([], c)
  | fuel + 1, c =>
    match c.rest with
    | '%' :: a :: b :: _ =>
      match Json.hexValue? a, Json.hexValue? b with
      | some a, some b => do
        let (more, c) ← takeOctets fuel (c.skip 3)
        return (UInt8.ofNat (16 * a + b) :: more, c)
      | _, _ => refuse
    | '%' :: _ => refuse
    | _ => .ok ([], c)

def takeUriFrom : Nat → List Char → Cursor → Except Fault (List Char × Cursor)
  | 0, done, c => .ok (done, c)
  | fuel + 1, done, c =>
    match c.rest with
    | '%' :: _ => do
      let (octets, c) ← takeOctets c.rest.length c
      match String.fromUTF8? ⟨octets.toArray⟩ with
      | some s => takeUriFrom fuel (done ++ s.toList) c
      | none => refuse
    | ch :: _ => if isUriChar ch then takeUriFrom fuel (done ++ [ch]) c.next else .ok (done, c)
    | [] => .ok (done, c)

/-- What follows the handle of a tag. -/
def takeUri (c : Cursor) : Except Fault (String × Cursor) := do
  let (cs, c) ← takeUriFrom c.rest.length [] c
  need (!cs.isEmpty)
  return (String.ofList cs, c)

/-- A tag: written out between angle brackets, a lone mark, or a handle and what follows. -/
def takeTag (c : Cursor) : Except Fault (Token × Cursor) := do
  let after := c.rest.drop 1
  let (tag, c) ←
    if after.head? == some '<' then do
      let (uri, c) ← takeUri (c.skip 2)
      need (c.head? == some '>')
      pure (Token.tag none uri, c.next)
    else if gapNext after then pure (Token.tag none "!", c.next)
    else do
      let word := after.takeWhile fun ch => !(ch = ' ' || isBreak ch)
      let (handle, c) ← if word.contains '!' then takeHandle c else pure ("!", c.next)
      let (suffix, c) ← takeUri c
      pure (Token.tag (some handle) suffix, c)
  need (blankNext c.rest)
  return (tag, c)

/-! ## Directives -/

/-- The rest of a line that may hold a comment only. -/
def takeLineRest (c : Cursor) : Except Fault (Unit × Cursor) := do
  let c := c.skipBlanks
  let c := if c.head? == some '#' then c.skipToLineEnd else c
  need (lineEndNext c.rest)
  return ((), ((c.takeBreak.map (·.2)).getD c))

def takeCount (c : Cursor) : Except Fault (Nat × Cursor) := do
  let (ds, c) := c.span Char.isDigit
  need (!ds.isEmpty)
  return (Decimal.ofDigits ds, c)

def takeVersion (c : Cursor) : Except Fault (Directive × Cursor) := do
  let (major, c) ← takeCount c.skipBlanks
  need (c.head? == some '.')
  let (minor, c) ← takeCount c.next
  need (blankNext c.rest)
  return (.version major minor, c)

def takeTagDirective (c : Cursor) : Except Fault (Directive × Cursor) := do
  let (handle, c) ← takeHandle c.skipBlanks
  need (c.head? == some ' ')
  let (lead, c) ← takeUri c.skipBlanks
  need (blankNext c.rest)
  return (.tag handle lead, c)

def takeDirective (c : Cursor) : Except Fault (Token × Cursor) := do
  let (name, c) := c.next.span isNameChar
  need (!name.isEmpty && blankNext c.rest)
  let (d, c) ←
    match String.ofList name with
    | "YAML" => takeVersion c
    | "TAG" => takeTagDirective c
    | _ => pure (Directive.other, c.skipToLineEnd)
  let ((), c) ← takeLineRest c
  return (.directive d, c)

/-! ## Plain scalars -/

/-- Blanks and line breaks at the start of lines, up to the next text or document mark. -/
def takeFolds : Nat → List Char → Cursor → List Char × Cursor × Bool
  | 0, done, c => (done, c, false)
  | fuel + 1, done, c =>
    match c.rest with
    | ' ' :: _ => takeFolds fuel done c.next
    | _ =>
      match c.takeBreak with
      | some (b, c) =>
        if c.atDocumentMark then (done, c, true) else takeFolds fuel (done ++ [b]) c
      | none => (done, c, false)

/-- What a line break and those after it are read as: one alone is a blank. -/
def folded (first : Char) (more : List Char) : List Char :=
  if first ≠ '\n' then first :: more else if more.isEmpty then [' '] else more

/-- The space within a plain scalar; none if the scalar ends here. Tells whether a line ended. -/
def takePlainSpace (c : Cursor) : List Char × Cursor × Bool :=
  let (blanks, c) := c.span (· = ' ')
  match c.takeBreak with
  | some (b, c) =>
    if c.atDocumentMark then ([], c, true)
    else
      match takeFolds (c.rest.length + 1) [] c with
      | (_, c, true) => ([], c, true)
      | (more, c, false) => (folded b more, c, true)
  | none => (blanks, c, false)

/-- How much of a plain scalar stands without space here. -/
def plainRun (inFlow : Bool) : List Char → Nat
  | [] => 0
  | c :: cs =>
    let ends := isGap c
      || (c = ':' && (gapNext cs || (inFlow && (cs.headD ' ') ∈ [',', '[', ']', '\x7b', '\x7d'])))
      || (inFlow && c ∈ [',', '?', '[', ']', '\x7b', '\x7d'])
    if ends then 0 else plainRun inFlow cs + 1

/-- A scalar as it was read so far: its text, and whether it went past a line end. -/
structure PlainRead where
  text : List Char := []
  crossed : Bool := false

def takePlainFrom (inFlow : Bool) (indent : Nat) :
    Nat → List Char → PlainRead → Cursor → PlainRead × Cursor
  | 0, _, read, c => (read, c)
  | fuel + 1, space, read, c =>
    if c.head? == some '#' then (read, c)
    else
      match plainRun inFlow c.rest with
      | 0 => (read, c)
      | n =>
        let text := read.text ++ space ++ c.rest.take n
        let (space, c, crossed) := takePlainSpace (c.skip n)
        let read := { text, crossed }
        if space.isEmpty || c.head? == some '#' || (!inFlow && c.column < indent) then (read, c)
        else takePlainFrom inFlow indent fuel space read c

/-- A plain scalar, its lines indented by at least `indent` outside brackets. -/
def takePlain (inFlow : Bool) (indent : Nat) (c : Cursor) : PlainRead × Cursor :=
  takePlainFrom inFlow indent (c.rest.length + 1) [] {} c

/-! ## Quoted scalars -/

def escapedChar? : Char → Option Char
  | '0' => some '\x00'
  | 'a' => some '\x07'
  | 'b' => some '\x08'
  | 't' => some '\t'
  | '\t' => some '\t'
  | 'n' => some '\n'
  | 'v' => some '\x0b'
  | 'f' => some '\x0c'
  | 'r' => some '\r'
  | 'e' => some '\x1b'
  | ' ' => some ' '
  | '"' => some '"'
  | '\\' => some '\\'
  | '/' => some '/'
  | 'N' => some '\x85'
  | '_' => some '\xa0'
  | 'L' => some '\u2028'
  | 'P' => some '\u2029'
  | _ => none

/-- How many hexadecimal digits follow a letter. -/
def escapeWidth? : Char → Option Nat
  | 'x' => some 2
  | 'u' => some 4
  | 'U' => some 8
  | _ => none

def hexNumber (ds : List Char) : Nat :=
  ds.foldl (fun n d => 16 * n + (Json.hexValue? d).getD 0) 0

/-- The number that an escape names. -/
def takeCode (width : Nat) (c : Cursor) : Except Fault (Nat × Cursor) := do
  let ds := c.rest.take width
  need (ds.length == width && ds.all isHexDigit)
  return (hexNumber ds, c.skip width)

/-- The character of a number; the two halves of a pair, escaped one after the other, are one. -/
def takeCodeChar (width : Nat) (c : Cursor) : Except Fault (Char × Cursor) := do
  let (n, c) ← takeCode width c
  if 0x10FFFF < n then throw .noCharacter
  match c.rest with
  | '\\' :: 'u' :: _ =>
    if 0xD800 ≤ n && n < 0xDC00 then
      match takeCode 4 (c.skip 2) with
      | .ok (low, after) =>
        if 0xDC00 ≤ low && low < 0xE000 then
          return (Char.ofNat (0x10000 + (n - 0xD800) * 0x400 + (low - 0xDC00)), after)
        else return (Char.ofNat n, c)
      | .error f => throw f
    else return (Char.ofNat n, c)
  | _ => return (Char.ofNat n, c)

/-- Line breaks, and the space around them. -/
def takeQuotedBreaks : Nat → List Char → Cursor → Except Fault (List Char × Cursor)
  | 0, done, c => .ok (done, c)
  | fuel + 1, done, c => do
    need (!c.atDocumentMark)
    let c := c.skipWhile isInset
    match c.takeBreak with
    | some (b, c) => takeQuotedBreaks fuel (done ++ [b]) c
    | none => return (done, c)

/-- Space within quotes: kept within a line, folded at line ends. -/
def takeQuotedSpace (c : Cursor) : Except Fault (List Char × Cursor) := do
  let (blanks, c) := c.span isInset
  need (!c.atEnd)
  match c.takeBreak with
  | some (b, c) =>
    let (more, c) ← takeQuotedBreaks (c.rest.length + 1) [] c
    return (folded b more, c)
  | none => return (blanks, c)

/-- An escape, after its backslash. -/
def takeEscape (c : Cursor) : Except Fault (List Char × Cursor) := do
  match c.rest with
  | [] => refuse
  | ch :: _ =>
    match escapedChar? ch, escapeWidth? ch with
    | some e, _ => return ([e], c.next)
    | none, some width => do
      let (e, c) ← takeCodeChar width c.next
      return ([e], c)
    | none, none =>
      match c.takeBreak with
      | some (_, c) => takeQuotedBreaks (c.rest.length + 1) [] c
      | none => refuse

/-- A scalar up to its closing quote. -/
def takeQuotedFrom (double : Bool) : Nat → List Char → Cursor → Except Fault (List Char × Cursor)
  | 0, _, _ => refuse
  | fuel + 1, done, c =>
    let quote := if double then '"' else '\x27'
    match c.rest with
    | [] => refuse
    | ch :: after =>
      if ch = quote then
        if !double && after.head? == some '\x27' then
          takeQuotedFrom double fuel (done ++ ['\x27']) (c.skip 2)
        else .ok (done, c.next)
      else if double && ch = '\\' then do
        let (more, c) ← takeEscape c.next
        takeQuotedFrom double fuel (done ++ more) c
      else if isGap ch then do
        let (more, c) ← takeQuotedSpace c
        takeQuotedFrom double fuel (done ++ more) c
      else
        let (run, c) := c.span fun ch => !(isGap ch || ch ∈ ['\x27', '"', '\\'])
        if run.isEmpty then takeQuotedFrom double fuel (done ++ [ch]) c.next
        else takeQuotedFrom double fuel (done ++ run) c

/-- A scalar in single or double quotes. -/
def takeQuoted (double : Bool) (c : Cursor) : Except Fault (Token × Cursor) := do
  let (text, c) ← takeQuotedFrom double (c.rest.length + 1) [] c.next
  return (.scalar (String.ofList text) false, c)

/-! ## Block scalars -/

/-- Which of the line breaks at the end stay. -/
inductive Chomping where
  | strip | clip | keep
deriving DecidableEq, Repr

def chompingMark? : Char → Option Chomping
  | '+' => some .keep
  | '-' => some .strip
  | _ => none

/-- What the first line of a block scalar says: which line breaks stay, and the indentation. -/
def takeHeader (c : Cursor) : Except Fault (Chomping × Option Nat × Cursor) := do
  let mark := fun (c : Cursor) =>
    match c.head?.bind chompingMark? with
    | some m => (some m, c.next)
    | none => (none, c)
  let digit := fun (c : Cursor) =>
    match c.rest with
    | d :: _ => if d.isDigit then (some (Decimal.digitValue d), c.next) else (none, c)
    | [] => (none, c)
  let (chomping, c) := mark c
  let (increment, c) := digit c
  let (chomping, c) := match chomping with
    | some m => (some m, c)
    | none => if increment.isSome then mark c else (none, c)
  need (increment != some 0 && blankNext c.rest)
  let ((), c) ← takeLineRest c
  return (chomping.getD .clip, increment, c)

def skipIndent : Nat → Nat → Cursor → Cursor
  | 0, _, c => c
  | fuel + 1, indent, c =>
    if c.column < indent && c.head? == some ' ' then skipIndent fuel indent c.next else c

/-- Empty lines before a line of content. -/
def takeEmptyLines (indent : Nat) : Nat → List Char → Cursor → List Char × Cursor
  | 0, done, c => (done, c)
  | fuel + 1, done, c =>
    let c := skipIndent indent indent c
    match c.takeBreak with
    | some (b, c) => takeEmptyLines indent fuel (done ++ [b]) c
    | none => (done, c)

/-- Empty lines before the first line of content, and the deepest indentation among them. -/
def takeLeading : Nat → Nat → List Char → Cursor → List Char × Nat × Cursor
  | 0, deepest, done, c => (done, deepest, c)
  | fuel + 1, deepest, done, c =>
    match c.rest with
    | ' ' :: _ =>
      let c := c.next
      takeLeading fuel (max deepest c.column) done c
    | _ =>
      match c.takeBreak with
      | some (b, c) => takeLeading fuel deepest (done ++ [b]) c
      | none => (done, deepest, c)

/-- What was read of a block scalar: its text, its last line break, and the empty lines after. -/
structure BlockRead where
  text : List Char := []
  lastBreak : List Char := []
  emptyLines : List Char := []

def BlockRead.finish (r : BlockRead) : Chomping → List Char
  | .strip => r.text
  | .clip => r.text ++ r.lastBreak
  | .keep => r.text ++ r.lastBreak ++ r.emptyLines

def takeBlockLines (fold : Bool) (indent : Nat) : Nat → BlockRead → Cursor → BlockRead × Cursor
  | 0, read, c => (read, c)
  | fuel + 1, read, c =>
    if c.column ≠ indent || c.atEnd then (read, c)
    else
      let leading := !(c.head?.any isInset)
      let (line, c) := c.span (!isBreak ·)
      let text := read.text ++ read.emptyLines ++ line
      let (lastBreak, c) := match c.takeBreak with
        | some (b, c) => ([b], c)
        | none => ([], c)
      let (emptyLines, c) := takeEmptyLines indent (c.rest.length + 1) [] c
      if c.column = indent && !c.atEnd then
        let joint :=
          if fold && lastBreak == ['\n'] && leading && !(c.head?.any isInset) then
            if emptyLines.isEmpty then [' '] else []
          else lastBreak
        takeBlockLines fold indent fuel { text := text ++ joint, lastBreak, emptyLines } c
      else ({ text, lastBreak, emptyLines }, c)

/-- A block scalar within something that is indented by less than `least`. -/
def takeBlock (fold : Bool) (least : Nat) (c : Cursor) : Except Fault (Token × Cursor) := do
  let (chomping, increment, c) ← takeHeader c.next
  let least := max least 1
  let (indent, emptyLines, c) :=
    match increment with
    | some n =>
      let indent := least + n - 1
      let (emptyLines, c) := takeEmptyLines indent (c.rest.length + 1) [] c
      (indent, emptyLines, c)
    | none =>
      let (emptyLines, deepest, c) := takeLeading (c.rest.length + 1) 0 [] c
      (max least deepest, emptyLines, c)
  let (read, c) := takeBlockLines fold indent (c.rest.length + 1) { emptyLines } c
  return (.scalar (String.ofList (read.finish chomping)) false, c)

end ProfileReadme.Yaml
