/-
A YAML text cut into tokens. Outside brackets the indentation says where collections start and
end. A key without a mark of its own is known only by the colon after it, so the tokens that say
"a key starts here" are put in afterwards.
-/
import ProfileReadme.Yaml.Lexeme

namespace ProfileReadme.Yaml

/-- A place where a key may have begun. -/
structure Candidate where
  /-- How many brackets are open around it. -/
  level : Nat
  /-- How many tokens come before it. -/
  tokens : Nat
  /-- Whether nothing but a key can stand there. -/
  required : Bool
  start : Cursor

/-- The longest key without a mark of its own. -/
def longestKey : Nat := 1024

/-- How far a text has been cut. -/
structure Layout where
  cursor : Cursor
  /-- The tokens so far, last one first. -/
  tokens : List Token := []
  level : Nat := 0
  /-- The columns at which the open collections stand, innermost first. -/
  indents : List Nat := []
  keyAllowed : Bool := true
  candidates : List Candidate := []

namespace Layout

def push (t : Token) (s : Layout) : Layout := { s with tokens := t :: s.tokens }

/-- The least column of what belongs to the innermost collection's items. -/
def leastColumn (s : Layout) : Nat :=
  match s.indents with
  | [] => 0
  | i :: _ => i + 1

def inFlow (s : Layout) : Bool := s.level ≠ 0

/-! ## Indentation -/

/-- Ends the collections that stand further right than a column; `none` is left of all. -/
def unwindTo (column : Option Nat) : List Nat → List Token → List Nat × List Token
  | [], ts => ([], ts)
  | i :: is, ts =>
    if column.all (· < i) then unwindTo column is (.blockEnd :: ts) else (i :: is, ts)

def unwind (column : Option Nat) (s : Layout) : Layout :=
  if s.inFlow then s
  else
    let (indents, tokens) := unwindTo column s.indents s.tokens
    { s with indents, tokens }

/-- Whether a collection at a column would be a new one. -/
def startsAt (column : Nat) (s : Layout) : Bool := s.indents.head?.all (· < column)

/-- Starts a collection at the cursor's column, unless one is open there. -/
def openAt (t : Token) (s : Layout) : Layout :=
  let column := s.cursor.column
  if s.startsAt column then { s with indents := column :: s.indents, tokens := t :: s.tokens }
  else s

/-! ## Keys -/

def isStale (c : Cursor) (k : Candidate) : Bool :=
  k.start.line ≠ c.line || longestKey < c.index - k.start.index

/-- Drops the candidates that are too far back. -/
def dropStale (s : Layout) : Except Fault Layout := do
  let (stale, fresh) := s.candidates.partition (isStale s.cursor)
  need (!stale.any (·.required))
  return { s with candidates := fresh }

/-- Drops the candidate among the brackets that are open now. -/
def dropCandidate (s : Layout) : Except Fault Layout := do
  let (here, others) := s.candidates.partition (·.level == s.level)
  need (!here.any (·.required))
  return { s with candidates := others }

/-- Notes that a key may begin here. -/
def noteCandidate (s : Layout) : Except Fault Layout := do
  if s.keyAllowed then
    let required := !s.inFlow && s.indents.head? == some s.cursor.column
    let s ← s.dropCandidate
    let k := { level := s.level, tokens := s.tokens.length, required, start := s.cursor }
    return { s with candidates := k :: s.candidates }
  else return s

/-- Puts tokens in after the first `n` ones. -/
def insertAt (n : Nat) (ts : List Token) (s : Layout) : Layout :=
  let back := s.tokens.length - n
  { s with tokens := s.tokens.take back ++ ts.reverse ++ s.tokens.drop back }

/-- The colon after a candidate makes it a key, and may start a mapping at its column. -/
def settleKey (k : Candidate) (s : Layout) : Layout :=
  let s := { s with
    candidates := s.candidates.filter (·.level ≠ s.level), keyAllowed := false }
  let column := k.start.column
  if !s.inFlow && s.startsAt column then
    { s with indents := column :: s.indents }.insertAt k.tokens [.blockMappingStart, .key]
  else s.insertAt k.tokens [.key]

/-! ## Tokens -/

/-- Past blanks, comments and line breaks. After a line break a key may stand. -/
def skipGaps : Nat → Layout → Layout
  | 0, s => s
  | fuel + 1, s =>
    let c := s.cursor.skipBlanks
    let c := if c.head? == some '#' then c.skipToLineEnd else c
    match c.takeBreak with
    | some (_, c) => skipGaps fuel { s with cursor := c, keyAllowed := s.keyAllowed || !s.inFlow }
    | none => { s with cursor := c }

def advance (n : Nat) (s : Layout) : Layout := { s with cursor := s.cursor.skip n }

/-- What was read at the cursor as a token, and the place after it. -/
def pushRead (read : Except Fault (Token × Cursor)) (s : Layout) : Except Fault Layout :=
  read.map fun (t, c) => { s with cursor := c, tokens := t :: s.tokens }

def takeDocumentMark (t : Token) (s : Layout) : Except Fault Layout := do
  let s ← (s.unwind none).dropCandidate
  return ({ s with keyAllowed := false }.advance 3).push t

def takeDirectiveLine (s : Layout) : Except Fault Layout := do
  let s ← (s.unwind none).dropCandidate
  { s with keyAllowed := false }.pushRead (takeDirective s.cursor)

def openBracket (t : Token) (s : Layout) : Except Fault Layout := do
  let s ← s.noteCandidate
  return ({ s with level := s.level + 1, keyAllowed := true }.advance 1).push t

def closeBracket (t : Token) (s : Layout) : Except Fault Layout := do
  need s.inFlow
  let s ← s.dropCandidate
  return ({ s with level := s.level - 1, keyAllowed := false }.advance 1).push t

def takeComma (s : Layout) : Except Fault Layout := do
  let s ← { s with keyAllowed := true }.dropCandidate
  return (s.advance 1).push .flowEntry

def takeDash (s : Layout) : Except Fault Layout := do
  need (s.inFlow || s.keyAllowed)
  let s := if s.inFlow then s else s.openAt .blockSequenceStart
  let s ← { s with keyAllowed := true }.dropCandidate
  return (s.advance 1).push .blockEntry

def takeQuestion (s : Layout) : Except Fault Layout := do
  need (s.inFlow || s.keyAllowed)
  let s := if s.inFlow then s else s.openAt .blockMappingStart
  let s ← { s with keyAllowed := !s.inFlow }.dropCandidate
  return (s.advance 1).push .key

def takeColon (s : Layout) : Except Fault Layout := do
  match s.candidates.find? (·.level == s.level) with
  | some k => return ((s.settleKey k).advance 1).push .value
  | none =>
    need (s.inFlow || s.keyAllowed)
    let s := if s.inFlow then s else s.openAt .blockMappingStart
    let s ← { s with keyAllowed := !s.inFlow }.dropCandidate
    return (s.advance 1).push .value

/-- Something that may be a key, and after which no key may begin. -/
def takeNode (read : Cursor → Except Fault (Token × Cursor)) (s : Layout) :
    Except Fault Layout := do
  let s ← s.noteCandidate
  { s with keyAllowed := false }.pushRead (read s.cursor)

def takePlainScalar (s : Layout) : Except Fault Layout := do
  let s ← s.noteCandidate
  let (read, c) := takePlain s.inFlow s.leastColumn s.cursor
  let t := Token.scalar (String.ofList read.text) true
  return { s with cursor := c, keyAllowed := read.crossed }.push t

def takeBlockScalar (fold : Bool) (s : Layout) : Except Fault Layout := do
  let s ← { s with keyAllowed := true }.dropCandidate
  s.pushRead (takeBlock fold s.leastColumn s.cursor)

/-- Characters that begin a plain scalar only where the next one is no gap. -/
def needsCompany (inFlow : Bool) (c : Char) : Bool := c = '-' || (!inFlow && (c = '?' || c = ':'))

/-- Characters that begin no plain scalar by themselves. -/
def isIndicator (c : Char) : Bool :=
  c ∈ ['-', '?', ':', ',', '[', ']', '\x7b', '\x7d', '#', '&', '*', '!', '|', '>', '\x27', '"',
    '%', '@', '\x60']

/-- Whether a plain scalar begins here. -/
def startsPlain (inFlow : Bool) : List Char → Bool
  | [] => false
  | c :: after =>
    !(isGap c || isIndicator c) || (!gapNext after && needsCompany inFlow c)

/-- The token at the cursor, which is not at the end. -/
def takeToken (s : Layout) : Except Fault Layout :=
  let c := s.cursor
  let alone := s.inFlow || gapNext (c.rest.drop 1)
  let atStart := c.column = 0
  match c.head? with
  | none => refuse
  | some ch =>
    if ch = '%' && atStart then s.takeDirectiveLine
    else if atStart && c.atMark Cursor.documentStartMark then s.takeDocumentMark .documentStart
    else if atStart && c.atMark Cursor.documentEndMark then s.takeDocumentMark .documentEnd
    else if ch = '[' then s.openBracket .flowSequenceStart
    else if ch = '\x7b' then s.openBracket .flowMappingStart
    else if ch = ']' then s.closeBracket .flowSequenceEnd
    else if ch = '\x7d' then s.closeBracket .flowMappingEnd
    else if ch = ',' then s.takeComma
    else if ch = '-' && gapNext (c.rest.drop 1) then s.takeDash
    else if ch = '?' && alone then s.takeQuestion
    else if ch = ':' && alone then s.takeColon
    else if ch = '*' then s.takeNode fun c => (takeName c).map fun (n, c) => (.alias n, c)
    else if ch = '&' then s.takeNode fun c => (takeName c).map fun (n, c) => (.anchor n, c)
    else if ch = '!' then s.takeNode takeTag
    else if ch = '|' && !s.inFlow then s.takeBlockScalar false
    else if ch = '>' && !s.inFlow then s.takeBlockScalar true
    else if ch = '\x27' then s.takeNode (takeQuoted false)
    else if ch = '"' then s.takeNode (takeQuoted true)
    else if startsPlain s.inFlow c.rest then s.takePlainScalar
    else refuse

/-- The tokens from here on. -/
def run : Nat → Layout → Except Fault (List Token)
  | 0, _ => refuse
  | fuel + 1, s => do
    let s ← (skipGaps (s.cursor.rest.length + 1) s).dropStale
    let s := s.unwind (some s.cursor.column)
    if s.cursor.atEnd then
      let s ← (s.unwind none).dropCandidate
      return (s.push .streamEnd).tokens.reverse
    else
      let s ← s.takeToken
      run fuel s

end Layout

/-- The tokens of a text. -/
def tokens (cs : List Char) : Except Fault (List Token) :=
  let cs := match cs with
    | '\uFEFF' :: rest => rest
    | cs => cs
  Layout.run (cs.length + 2) { cursor := ⟨cs, 0, 0, 0⟩ }

end ProfileReadme.Yaml
