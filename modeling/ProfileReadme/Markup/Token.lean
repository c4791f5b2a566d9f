/-
Markup cut into tokens. Tags with their attributes, comments, declarations and text; what looks
like a tag and never ends is text. Two passes share the work: the first stops where something is
not finished, the second takes up there and lets nothing wait.
-/
import ProfileReadme.Markup.Reference
import ProfileReadme.Text.Case
import ProfileReadme.Text.Quoted

namespace ProfileReadme.Markup

/-- The attributes of a tag in order, a repeated one at its first place with its last value. -/
abbrev Attributes := List (String × String)

inductive Token where
  | text (s : List Char)
  | opening (name : String) (attributes : Attributes) (closed : Bool)
  | closing (name : String)
  | comment (s : List Char)
  | doctype (s : List Char)
  | instruction (s : List Char)
  | section (s : List Char)
  | declaration (s : List Char)
deriving Repr

/-- Why markup is refused as a whole. -/
inductive Rejection where
  | unknownSection (name : String)
  | noName (start : String)
deriving DecidableEq, Repr

def Rejection.cause : Rejection → String
  | .unknownSection name => "unknown status keyword " ++ Text.quoted name ++ " in marked section"
  | .noName start => "expected name token at " ++ Text.quoted start

def Rejection.message (r : Rejection) : String :=
  "The markup you provided was rejected by the parser. Trying a different parser or a different " ++
    "encoding may help.\n\nOriginal error(s) from parser:\n AssertionError: " ++ r.cause

/-! ## Attributes -/

def putAttribute (name value : String) : Attributes → Attributes
  | [] => [(name, value)]
  | (n, v) :: rest =>
    if n = name then (n, value) :: rest else (n, v) :: putAttribute name value rest

/-- Blanks, and slashes that do not end the tag. -/
def skipGaps : List Char → List Char
  | [] => []
  | '/' :: cs =>
    match cs with
    | '>' :: _ => '/' :: cs
    | _ => skipGaps cs
  | c :: cs => if Text.isBlank c then skipGaps cs else c :: cs

/-- The text between two quotes, and what follows. -/
def takeQuoted : List Char → Option (List Char × List Char)
  | [] => none
  | q :: cs =>
    if q = '"' || q = '\x27' then
      match cs.dropWhile (· ≠ q) with
      | _ :: rest => some (cs.takeWhile (· ≠ q), rest)
      | [] => none
    else none

def bareStops (c : Char) : Bool := c = '>' || Text.isBlank c

def startsQuoted (cs : List Char) : Bool :=
  match cs with
  | c :: _ => c = '"' || c = '\x27'
  | [] => false

/-- The value after a name, if a sign of equality follows. Quotes that never close give an empty
value after a blank, and a value that starts with a further sign of equality. -/
def takeValue (cs : List Char) : Option (List Char × List Char) :=
  let signs := cs.dropWhile Text.isBlank
  match signs with
  | '=' :: _ =>
    let afterSigns := signs.dropWhile (· = '=')
    let value := afterSigns.dropWhile Text.isBlank
    match takeQuoted value with
    | some found => some found
    | none =>
      if startsQuoted value then
        if value.length < afterSigns.length then some ([], value)
        else if 2 ≤ signs.length - afterSigns.length then
          let bare := '=' :: afterSigns
          some (bare.takeWhile (!bareStops ·), bare.dropWhile (!bareStops ·))
        else none
      else some (value.takeWhile (!bareStops ·), value.dropWhile (!bareStops ·))
  | _ => none

def isNameEnd (c : Char) : Bool := Text.isBlank c || c = '/' || c = '=' || c = '>'

/-- Whether an attribute may start after this character. -/
def mayPrecede (c : Char) : Bool := c = '\x27' || c = '"' || c = '/' || Text.isBlank c

/-- The last character of the part of `cs` that `rest` leaves, or `last` if it leaves all. -/
def lastTaken (last : Char) (cs rest : List Char) : Char :=
  ((cs.take (cs.length - rest.length)).getLast?).getD last

/-- The attributes from here on; `last` is the character before. -/
def takeAttributes : Nat → Char → Attributes → List Char → Attributes × List Char
  | 0, _, done, cs => (done, cs)
  | fuel + 1, last, done, cs =>
    match cs with
    | c :: tail =>
      if mayPrecede last && !Text.isBlank c && c ≠ '/' && c ≠ '>' then
        let name := c :: tail.takeWhile (!isNameEnd ·)
        let rest := tail.dropWhile (!isNameEnd ·)
        let (value, rest) := (takeValue rest).getD ([], rest)
        let rest := skipGaps rest
        let name := Text.lower (String.ofList name)
        takeAttributes fuel (lastTaken last cs rest)
          (putAttribute name (unescape (String.ofList value)) done) rest
      else (done, cs)
    | [] => (done, cs)

/-! ## Tags -/

/-- What a text that starts like a tag turns out to be. -/
inductive TagScan where
  | whole (token : Token) (rest : List Char)
  | asText (text rest : List Char)
  | unfinished

def endsTagName (c : Char) : Bool := c ∈ ['\t', '\n', '\r', '\x0c', ' ', '/', '>', '\x00']

/-- A tag from its name on. -/
def scanTag (cs : List Char) : TagScan :=
  let name := cs.takeWhile (!endsTagName ·)
  let rest := cs.dropWhile (!endsTagName ·)
  let gap := skipGaps rest
  let last := lastTaken (name.getLast?.getD '<') rest gap
  let (attributes, rest) := takeAttributes (gap.length + 1) last [] gap
  let tag := Text.lower (String.ofList name)
  match rest with
  | [] => .unfinished
  | '>' :: rest => .whole (.opening tag attributes false) rest
  | '/' :: '>' :: rest => .whole (.opening tag attributes true) rest
  | c :: _ =>
    if c.isAlpha || c = '=' || c = '/' then .unfinished
    else .asText ('<' :: cs.take (cs.length - rest.length)) rest

/-- What follows the first `>`. -/
def afterClose (cs : List Char) : Option (List Char) :=
  match cs.dropWhile (· ≠ '>') with
  | _ :: rest => some rest
  | [] => none

def isEndNameChar (c : Char) : Bool := c.isAlphanum || c ∈ ['-', '.', ':', '_']

/-- A closing tag from after `</` on: the tokens it gives and what follows. -/
def scanEnd (cs : List Char) : Option (List Token × List Char) := do
  let _ ← afterClose cs
  let inner := cs.dropWhile Text.isBlank
  let name := inner.takeWhile isEndNameChar
  let strict :=
    match name, (inner.dropWhile isEndNameChar).dropWhile Text.isBlank with
    | c :: _, '>' :: rest => if c.isAlpha then some (name, rest) else none
    | _, _ => none
  match strict with
  | some (name, rest) => some ([.closing (Text.lower (String.ofList name))], rest)
  | none =>
    match cs with
    | c :: _ =>
      if c.isAlpha then
        let name := cs.takeWhile (!endsTagName ·)
        let rest ← afterClose (cs.dropWhile (!endsTagName ·))
        some ([.closing (Text.lower (String.ofList name))], rest)
      else if c = '>' then some ([], cs.drop 1)
      else
        let rest ← afterClose cs
        some ([.comment (cs.takeWhile (· ≠ '>'))], rest)
    | [] => none

/-! ## Comments and declarations -/

/-- The text up to a mark that blanks may stretch, and what follows the mark. -/
def untilClose (opens : List Char → Option (List Char)) : List Char → Option (List Char × List Char)
  | [] => none
  | c :: cs =>
    match opens (c :: cs) with
    | some rest => some ([], rest)
    | none => (untilClose opens cs).map fun (s, rest) => (c :: s, rest)

/-- The characters in order, with any blanks before each but the first. -/
def stretched : List Char → List Char → Option (List Char)
  | [], cs => some cs
  | m :: ms, cs =>
    match cs.dropWhile Text.isBlank with
    | c :: rest => if c = m then stretched ms rest else none
    | [] => none

def closesComment : List Char → Option (List Char)
  | '-' :: '-' :: cs => stretched ['>'] cs
  | _ => none

def closesSection : List Char → Option (List Char)
  | ']' :: cs => stretched [']', '>'] cs
  | _ => none

def closesCondition : List Char → Option (List Char)
  | ']' :: cs => stretched ['>'] cs
  | _ => none

def sectionNames : List String := ["temp", "cdata", "ignore", "include", "rcdata"]

def conditionNames : List String := ["if", "else", "endif"]

def isDeclarationChar (c : Char) : Bool := c.isAlphanum || c ∈ ['-', '_', '.']

/-- A marked section from after `<![` on; `none` if it does not end. -/
def scanSection (cs : List Char) : Except Rejection (Option (Token × List Char)) :=
  match cs with
  | [] => .ok none
  | c :: _ =>
    if !c.isAlpha then
      .error (.noName (String.ofList (("<![".toList ++ cs).take 20)))
    else
      let word := cs.takeWhile isDeclarationChar
      let blanks := (cs.dropWhile isDeclarationChar).takeWhile Text.isBlank
      if word.length + blanks.length = cs.length then .ok none
      else
        let name := Text.lower (String.ofList word)
        if name ∈ sectionNames || name ∈ conditionNames then
          let closes := if name ∈ sectionNames then closesSection else closesCondition
          match untilClose closes cs with
          | none => .ok none
          | some (s, rest) =>
            let head := Text.lower (String.ofList (s.take 6))
            .ok <| some <|
              if head = "cdata[" then (.section (s.drop 6), rest) else (.declaration s, rest)
        else .error (.unknownSection (String.ofList (word ++ blanks)))

/-- What starts with `<!`, from after these two on. -/
def scanDeclaration (cs : List Char) : Except Rejection (Option (Token × List Char)) :=
  match cs with
  | '-' :: '-' :: body =>
    .ok ((untilClose closesComment body).map fun (s, rest) => (.comment s, rest))
  | '[' :: body => scanSection body
  | _ =>
    let isDoctype := Text.lower (String.ofList (cs.take 7)) = "doctype"
    .ok <| (afterClose cs).map fun rest =>
      let s := cs.takeWhile (· ≠ '>')
      (if isDoctype then .doctype (s.drop 8) else .comment s, rest)

/-- An instruction from after `<?` on. -/
def scanInstruction (cs : List Char) : Option (Token × List Char) :=
  (afterClose cs).map fun rest => (.instruction (cs.takeWhile (· ≠ '>')), rest)

/-! ## References in text -/

/-- The text of a reference from after `&` on, and what follows. -/
def scanReference (cs : List Char) : Option (List Char × List Char) :=
  let finish (rest : List Char) : List Char := (Text.after? [';'] rest).getD rest
  match cs with
  | '#' :: digits =>
    let isHex (c : Char) : Bool := c.isDigit || ('a' ≤ c && c ≤ 'f') || ('A' ≤ c && c ≤ 'F')
    let (ds, rest, base) :=
      match digits with
      | 'x' :: ds | 'X' :: ds => (ds.takeWhile isHex, ds.dropWhile isHex, 16)
      | ds => (ds.takeWhile Char.isDigit, ds.dropWhile Char.isDigit, 10)
    match rest with
    | [] => none
    | c :: _ =>
      if ds.isEmpty || isHex c then none
      else
        let n := if base = 16 then hexNumber ds else Decimal.ofDigits ds
        some ([numbered n], finish rest)
  | c :: _ =>
    if !c.isAlpha then none
    else
      let run := cs.takeWhile isDeclarationName
      let rest := cs.dropWhile isDeclarationName
      let (name, rest) :=
        match rest with
        | _ :: _ => (run, rest)
        | [] =>
          let tail := Text.dropEndWhile Char.isAlphanum run
          let name := tail.dropLast
          (name, run.drop name.length)
      if name.isEmpty then none
      else
        match named? name with
        | some text => some (text, finish rest)
        | none => some ('&' :: name, finish rest)
  | [] => none
where
  isDeclarationName (c : Char) : Bool := c.isAlphanum || c = '-' || c = '.'

/-! ## The passes -/

/-- Elements whose content is not markup. -/
def rawElements : List String := ["script", "style"]

/-- The closing tag of a raw element: what follows it. -/
def closesRaw (name : List Char) : List Char → Option (List Char)
  | '<' :: '/' :: cs =>
    let inner := cs.dropWhile Text.isBlank
    if (inner.take name.length).map Char.toLower = name then
      stretched ['>'] (inner.drop name.length)
    else none
  | _ => none

def isMark (c : Char) : Bool := c = '<' || c = '&'

/-- The text that an unfinished `<` turns into: up to the next `>` or, without one, to before the
next `<`; without either, it alone. -/
def giveUp (cs : List Char) : List Char × List Char :=
  match cs with
  | [] => ([], [])
  | c :: tail =>
    match afterClose tail with
    | some rest => (cs.take (cs.length - rest.length), rest)
    | none =>
      match tail.dropWhile (· ≠ '<') with
      | [] => ([c], tail)
      | rest => (c :: tail.takeWhile (· ≠ '<'), rest)

/-- What one step of a scan finds: tokens and where to go on, or the last tokens. `last` says that
no more text will come, `raw` is the raw element that has been opened. -/
inductive Turn where
  | found (tokens : List Token) (rest : List Char) (last : Bool) (raw : Option String)
  | finished (tokens : List Token)

namespace Turn

/-- A construct that does not end: it may yet, unless no more text will come. -/
def unfinished (last : Bool) (cs : List Char) : Turn :=
  if last then
    let (s, rest) := giveUp cs
    .found [.text s] rest true none
  else .found [] cs true none

/-- Text that is the start of nothing, if no more text will come. -/
def stop (last : Bool) (cs : List Char) : Turn :=
  if last then .finished [.text cs] else .found [] cs true none

/-- What was found, or a construct that does not end. -/
def orUnfinished (last : Bool) (cs : List Char) : Option (List Token × List Char) → Turn
  | some (tokens, rest) => .found tokens rest last none
  | none => unfinished last cs

end Turn

/-- The step at a tag: the text after `<` starts with a letter. -/
def turnAtTag (last : Bool) (cs : List Char) : Turn :=
  match scanTag cs with
  | .whole (.opening tag attributes closed) rest =>
    let raw := if !closed && tag ∈ rawElements then some tag else none
    .found [.opening tag attributes closed] rest last raw
  | .whole token rest => .found [token] rest last none
  | .asText s rest => .found [.text s] rest last none
  | .unfinished => .unfinished last ('<' :: cs)

/-- The step at `<`, given what follows. -/
def turnAtAngle (last : Bool) (cs : List Char) : Except Rejection Turn :=
  let all := '<' :: cs
  match cs with
  | '/' :: rest => .ok (.orUnfinished last all (scanEnd rest))
  | '!' :: rest =>
    (scanDeclaration rest).map fun found =>
      .orUnfinished last all (found.map fun (t, rest) => ([t], rest))
  | '?' :: rest =>
    .ok (.orUnfinished last all ((scanInstruction rest).map fun (t, rest) => ([t], rest)))
  | c :: _ => .ok (if c.isAlpha then turnAtTag last cs else .found [.text ['<']] cs last none)
  | [] => .ok (.stop last all)

/-- The step at `&`, given what follows. -/
def turnAtReference (last : Bool) (cs : List Char) : Turn :=
  match scanReference cs with
  | some (s, rest) => .found [.text s] rest last none
  | none =>
    match cs with
    | '#' :: rest =>
      if rest.contains ';' then
        if last then .finished [.text ['&', '#'], .text rest]
        else .found [.text ['&', '#']] rest true none
      else .stop last ('&' :: cs)
    | c :: rest =>
      if c.isAlpha then
        if last && rest.isEmpty then .finished [.text [c]] else .stop last ('&' :: cs)
      else .found [.text ['&']] cs last none
    | [] => .stop last ['&']

/-- One step of a scan, at the character `c`. -/
def turn (last : Bool) (c : Char) (cs : List Char) : Except Rejection Turn :=
  if c = '<' then turnAtAngle last cs
  else if c = '&' then .ok (turnAtReference last cs)
  else
    .ok (.found [.text (c :: cs.takeWhile (!isMark ·))] (cs.dropWhile (!isMark ·)) last none)

/-- The tokens from here on. A construct without an end makes the scan start anew at it, knowing
that no more text will come. -/
def scan : Nat → Bool → Option String → List Char → Except Rejection (List Token)
  | 0, _, _, _ => .ok []
  | _, _, _, [] => .ok []
  | fuel + 1, last, some name, cs =>
    match untilClose (closesRaw name.toList) cs with
    | some (s, rest) => do
      let more ← scan fuel last none rest
      return .text s :: .closing name :: more
    | none => .ok []
  | fuel + 1, last, none, c :: cs => do
    match ← turn last c cs with
    | .found tokens rest last raw =>
      let more ← scan fuel last raw rest
      return tokens ++ more
    | .finished tokens => return tokens

/-- The tokens of a markup text. -/
def tokens (s : String) : Except Rejection (List Token) :=
  let cs := s.toList
  scan (2 * cs.length + 2) false none cs

end ProfileReadme.Markup
