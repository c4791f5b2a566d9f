/-
Markup made safe: parsed, filtered, written again. Elements that run code or embed pages go with
all they hold; so do handlers, and links that run code lead nowhere.
-/
import ProfileReadme.Markup.Node

namespace ProfileReadme.Markup

/-- Elements that never stay. -/
def unsafeElements : List String := ["script", "style", "iframe", "object", "embed"]

def isLower (c : Char) : Bool := 'a' ≤ c && c ≤ 'z'

/-- A lower-case letter, then letters, digits and dashes. -/
def isElementName (s : String) : Bool :=
  match s.toList with
  | [] => false
  | c :: cs => isLower c && cs.all fun c => isLower c || c.isDigit || c = '-'

/-- A lower-case letter, `_` or `:`, then also digits, points and dashes. -/
def isAttributeName (s : String) : Bool :=
  match s.toList with
  | [] => false
  | c :: cs =>
    (isLower c || c = '_' || c = ':') &&
      cs.all fun c => isLower c || c.isDigit || c ∈ ['_', ':', '.', '-']

/-- Attributes that hold a link. -/
def linkAttributes : List String := ["href", "src", "action", "formaction", "xlink:href"]

/-- Whether a link runs code, once blanks and controls are dropped as readers of pages do. -/
def runsCode (value : String) : Bool :=
  let bare := Text.lower (String.ofList (value.toList.filter fun c => 32 < c.toNat))
  Text.hasStart "javascript:" bare || Text.hasStart "vbscript:" bare

def keepsElement (name : String) : Bool := name ∉ unsafeElements && isElementName name

def keepsAttribute (name : String) : Bool := !Text.hasStart "on" name && isAttributeName name

def cleanAttribute (a : String × String) : String × String :=
  if a.1 ∈ linkAttributes && runsCode a.2 then (a.1, "#") else a

def cleanAttributes (as : Attributes) : Attributes :=
  (as.filter fun a => keepsAttribute a.1).map cleanAttribute

mutual

/-- The node without what is unsafe, or nothing. -/
def Node.clean : Node → Option Node
  | .element name attributes children =>
    if keepsElement name then
      some (.element name (cleanAttributes attributes) (Node.cleanAll children))
    else none
  | n => some n

def Node.cleanAll : List Node → List Node
  | [] => []
  | n :: ns =>
    match n.clean with
    | some n => n :: Node.cleanAll ns
    | none => Node.cleanAll ns

end

/-- A markup text made safe. -/
def sanitize (s : String) : Except Rejection String :=
  (parse s).map fun nodes => Node.writeAll (Node.cleanAll nodes)

end ProfileReadme.Markup
