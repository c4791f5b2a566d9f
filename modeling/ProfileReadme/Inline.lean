/-
Emphasis inside a line: its markdown marks, its markup tags, and the conversion of the one into
the other. Marks pair up from left to right, around at least one character and within a line.
-/
import ProfileReadme.Schema.Named
import ProfileReadme.Text.Markup

namespace ProfileReadme

/-- How a text is set off. -/
inductive Emphasis where
  | normal | bold | italic | code | strikethrough
deriving DecidableEq, Repr, Inhabited

instance : Named Emphasis where
  all := [.normal, .bold, .italic, .code, .strikethrough]
  name
    | .normal => "normal"
    | .bold => "bold"
    | .italic => "italic"
    | .code => "code"
    | .strikethrough => "strikethrough"

instance : Named.Lawful Emphasis := ⟨by intro a; cases a <;> decide⟩

namespace Inline

/-- A text as a code span; one that holds a backtick gets doubled marks and blanks. -/
def codeSpan (s : String) : String :=
  if s.toList.contains '\x60' then "\x60\x60 " ++ s ++ " \x60\x60" else "\x60" ++ s ++ "\x60"

/-- A text between the markdown marks of an emphasis. -/
def mark (e : Emphasis) (s : String) : String :=
  match e with
  | .normal => s
  | .bold => "**" ++ s ++ "**"
  | .italic => "*" ++ s ++ "*"
  | .code => codeSpan s
  | .strikethrough => "~~" ++ s ++ "~~"

/-- The element of an emphasis. -/
def element? : Emphasis → Option String
  | .normal => none
  | .bold => some "strong"
  | .italic => some "em"
  | .code => some "code"
  | .strikethrough => some "del"

/-- Markup between the tags of an emphasis. -/
def wrap (e : Emphasis) (s : String) : String :=
  match element? e with
  | some tag => "<" ++ tag ++ ">" ++ s ++ "</" ++ tag ++ ">"
  | none => s

/-- Square brackets get a backslash, so that no alternative text ends its image early. -/
def escapeBrackets (s : String) : String := Text.replace (Text.replace s "[" "\\[") "]" "\\]"

/-! ## Marks into tags -/

/-- The text up to the first mark that has at least one character of its line before it. -/
def untilMark (mark : List Char) : List Char → Option (List Char)
  | [] => none
  | c :: cs =>
    if c = '\n' then none
    else if mark.isPrefixOf cs then some [c]
    else (untilMark mark cs).map (c :: ·)

/-- Turns each pair of marks into tags; `skip` characters of a converted pair are passed over. -/
def convertFrom (mark opening closing : List Char) : Nat → List Char → List Char
  | _, [] => []
  | skip + 1, _ :: cs => convertFrom mark opening closing skip cs
  | 0, c :: cs =>
    if mark.isPrefixOf (c :: cs) then
      match untilMark mark ((c :: cs).drop mark.length) with
      | some inner =>
        opening ++ inner ++ closing ++
          convertFrom mark opening closing (2 * mark.length + inner.length - 1) cs
      | none => c :: convertFrom mark opening closing 0 cs
    else c :: convertFrom mark opening closing 0 cs

def convert (mark tag : String) (cs : List Char) : List Char :=
  convertFrom mark.toList ("<" ++ tag ++ ">").toList ("</" ++ tag ++ ">").toList 0 cs

/-- Markup in which the markdown emphasis of a text has become tags: strong marks first, then
emphasis, code and deletions. -/
def toTags (s : String) : String :=
  String.ofList <|
    convert "~~" "del" <| convert "\x60" "code" <| convert "*" "em" <|
      convert "**" "strong" s.toList

/-- A plain text as markup: its own markup characters are escaped, its emphasis becomes tags. -/
def html (s : String) : String := toTags (Text.escapeContent s)

end Inline

/-! ## Line endings -/

inductive LineEnding where
  | lf | crlf
deriving DecidableEq, Repr, Inhabited

instance : Named LineEnding where
  all := [.lf, .crlf]
  name
    | .lf => "lf"
    | .crlf => "crlf"

instance : Named.Lawful LineEnding := ⟨by intro a; cases a <;> decide⟩

namespace LineEnding

/-- Every line break as a single line feed. -/
def unify : List Char → List Char
  | [] => []
  | '\r' :: '\n' :: cs => '\n' :: unify cs
  | '\r' :: cs => '\n' :: unify cs
  | c :: cs => c :: unify cs

/-- Every line break of a text in this form. -/
def normalize (e : LineEnding) (s : String) : String :=
  let cs := unify s.toList
  match e with
  | .lf => String.ofList cs
  | .crlf => String.ofList (cs.flatMap fun c => if c = '\n' then ['\r', '\n'] else [c])

end LineEnding

end ProfileReadme
