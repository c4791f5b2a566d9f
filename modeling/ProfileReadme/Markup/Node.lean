/-
Trees of markup: built from tokens with a stack of open elements, and written back. A closing tag
closes up to the nearest open element of its name; what stays open ends with the text.
-/
import ProfileReadme.Markup.Token
import ProfileReadme.Text.Markup

namespace ProfileReadme.Markup

inductive Node where
  | text (s : String)
  | comment (s : String)
  | doctype (s : String)
  | instruction (s : String)
  | section (s : String)
  | declaration (s : String)
  | element (name : String) (attributes : Attributes) (children : List Node)
deriving Repr, Inhabited

/-! ## Elements -/

/-- Elements that are written as one tag while they are empty. -/
def voidElements : List String :=
  ["area", "base", "br", "col", "embed", "hr", "img", "input", "keygen", "link", "menuitem", "meta",
    "param", "source", "track", "wbr", "basefont", "bgsound", "command", "frame", "image",
    "isindex", "nextid", "spacer"]

/-- Elements that keep their blanks. -/
def blankKeepers : List String := ["pre", "textarea"]

/-- Whether an attribute is a list of words. -/
def isWordList (element key : String) : Bool :=
  key ∈ ["class", "accesskey", "dropzone"] ||
    (element, key) ∈ [("a", "rel"), ("a", "rev"), ("link", "rel"), ("link", "rev"),
      ("td", "headers"), ("th", "headers"), ("form", "accept-charset"), ("object", "archive"),
      ("area", "rel"), ("icon", "sizes"), ("iframe", "sandbox"), ("output", "for")]

/-- The words of a list with one blank between them. -/
def tidyWords (s : String) : String := Text.join " " ((Text.words s).map String.ofList)

def settleAttribute (element : String) (a : String × String) : String × String :=
  if isWordList element a.1 then (a.1, tidyWords a.2) else a

/-! ## Building -/

/-- An element whose closing tag has not come; its children are in reverse. -/
structure Open where
  name : String
  attributes : Attributes
  children : List Node

/-- A tree under construction: the open elements, innermost first, and the document below them. -/
structure Builder where
  stack : List Open
  document : List Node
  /-- Text that has no node yet. -/
  pending : Option (List Char)
  /-- Empty elements whose own closing tag may still come. -/
  settled : List String

namespace Builder

def start : Builder := ⟨[], [], none, []⟩

def add (b : Builder) (n : Node) : Builder :=
  match b.stack with
  | [] => { b with document := n :: b.document }
  | o :: rest => { b with stack := { o with children := n :: o.children } :: rest }

def isAsciiBlank (c : Char) : Bool := c ∈ [' ', '\n', '\t', '\x0c', '\r']

/-- Text of blanks alone shrinks to a line feed, or to one blank if it has none. -/
def settleBlanks (b : Builder) (cs : List Char) : List Char :=
  if b.stack.any fun o => o.name ∈ blankKeepers then cs
  else if cs.all isAsciiBlank then (if cs.contains '\n' then ['\n'] else [' '])
  else cs

/-- Turns pending text into a node. -/
def flush (b : Builder) (node : String → Node) : Builder :=
  match b.pending with
  | none => b
  | some cs => { b with pending := none }.add (node (String.ofList (b.settleBlanks cs)))

def append (b : Builder) (cs : List Char) : Builder :=
  { b with pending := some ((b.pending.getD []) ++ cs) }

/-- Closes the innermost open element. -/
def closeOne (b : Builder) : Builder :=
  match b.stack with
  | [] => b
  | o :: rest => { b with stack := rest }.add (.element o.name o.attributes o.children.reverse)

/-- Closes elements up to the nearest one of a name. -/
def closeTo (name : String) : Nat → Builder → Builder
  | 0, b => b
  | fuel + 1, b =>
    match b.stack with
    | [] => b
    | o :: _ => if o.name = name then b.closeOne else closeTo name fuel b.closeOne

/-- A closing tag: it counts only if an element of its name is open. -/
def close (b : Builder) (name : String) : Builder :=
  let b := b.flush .text
  if b.stack.any (·.name == name) then closeTo name b.stack.length b else b

/-- A closing tag that may belong to an empty element closed before. -/
def closeTag (b : Builder) (name : String) : Builder :=
  if name ∈ b.settled then { b with settled := b.settled.erase name } else b.close name

def openTag (b : Builder) (name : String) (attributes : Attributes) (closed : Bool) : Builder :=
  let b := b.flush .text
  let b := { b with stack := ⟨name, attributes.map (settleAttribute name), []⟩ :: b.stack }
  if closed then b.closeTag name
  else if name ∈ voidElements then
    let b := b.close name
    { b with settled := b.settled ++ [name] }
  else b

/-- A node of its own kind, made of one text. -/
def special (b : Builder) (cs : List Char) (node : String → Node) : Builder :=
  ((b.flush .text).append cs).flush node

def step (b : Builder) : Token → Builder
  | .text cs => b.append cs
  | .opening name attributes closed => b.openTag name attributes closed
  | .closing name => b.closeTag name
  | .comment cs => b.special cs .comment
  | .doctype cs => b.special cs .doctype
  | .instruction cs => b.special cs .instruction
  | .section cs => b.special cs .section
  | .declaration cs => b.special cs .declaration

def closeAll : Nat → Builder → Builder
  | 0, b => b
  | fuel + 1, b => closeAll fuel b.closeOne

def finish (b : Builder) : List Node :=
  let b := b.flush .text
  (closeAll b.stack.length b).document.reverse

end Builder

/-- The nodes of a document, from its tokens. -/
def nodesOf (ts : List Token) : List Node := (ts.foldl Builder.step .start).finish

/-- The nodes of a markup text. -/
def parse (s : String) : Except Rejection (List Node) := (tokens s).map nodesOf

/-! ## Writing -/

/-- A value in quotes: single ones if it holds double quotes and no single ones. -/
def quoteValue (s : String) : String :=
  if s.toList.contains '"' then
    if s.toList.contains '\x27' then "\"" ++ Text.replace s "\"" "&quot;" ++ "\""
    else "'" ++ s ++ "'"
  else "\"" ++ s ++ "\""

def writeAttribute (a : String × String) : String :=
  " " ++ a.1 ++ "=" ++ quoteValue (Text.escapeContent a.2)

/-- Text after the mark of a character set is replaced by the set of the output. -/
def replaceCharset : Nat → List Char → Option Char → List Char
  | 0, cs, _ => cs
  | _, [], _ => []
  | fuel + 1, c :: cs, before =>
    let starts := before.all fun b => Text.isBlank b || b = ';'
    match Text.after? "charset=".toList (c :: cs) with
    | some rest =>
      if starts then
        let rest := rest.dropWhile (· ≠ ';')
        "charset=utf-8".toList ++ replaceCharset fuel rest (some '8')
      else c :: replaceCharset fuel cs (some c)
    | none => c :: replaceCharset fuel cs (some c)

/-- The attributes of an element as they are written: a document names its own character set. -/
def shownAttributes (name : String) (attributes : Attributes) : Attributes :=
  if name = "meta" then
    if (attributes.lookup "charset").isSome then
      attributes.map fun a => if a.1 = "charset" then (a.1, "utf-8") else a
    else if (attributes.lookup "http-equiv").any (Text.lower · == "content-type") then
      attributes.map fun a =>
        if a.1 = "content" then
          (a.1, String.ofList (replaceCharset (a.2.length + 1) a.2.toList none))
        else a
    else attributes
  else attributes

mutual

/-- A node as text; attributes are in the order of their names. -/
def Node.write : Node → String
  | .text s => Text.escapeContent s
  | .comment s => "<!--" ++ s ++ "-->"
  | .doctype s => "<!DOCTYPE " ++ s ++ ">\n"
  | .instruction s => "<?" ++ s ++ ">"
  | .section s => "<![CDATA[" ++ s ++ "]]>"
  | .declaration s => "<?" ++ s ++ "?>"
  | .element name attributes children =>
    let sorted := (shownAttributes name attributes).mergeSort fun a b => a.1 ≤ b.1
    let head := "<" ++ name ++ Text.join "" (sorted.map writeAttribute)
    match children with
    | [] => if name ∈ voidElements then head ++ "/>" else head ++ "></" ++ name ++ ">"
    | c :: cs => head ++ ">" ++ Node.writeAll (c :: cs) ++ "</" ++ name ++ ">"

def Node.writeAll : List Node → String
  | [] => ""
  | n :: ns => n.write ++ Node.writeAll ns

end

end ProfileReadme.Markup
