/-
Trees of page elements, and their text as markup. Text children are escaped on the way out unless
their element says that they are markup already.
-/
import ProfileReadme.Schema.Record
import ProfileReadme.Text.Markup

namespace ProfileReadme.Preview

open Reader

mutual

/-- An element of a page. -/
inductive Node where
  | mk (tag : String) (attrs : List (String × String)) (children : List Child) (raw : Bool)

inductive Child where
  | text (s : String)
  | node (n : Node)

end

instance : Inhabited Node := ⟨.mk "" [] [] false⟩

instance : Inhabited Child := ⟨.text ""⟩

namespace Node

def tag : Node → String
  | .mk tag .. => tag

def attrs : Node → List (String × String)
  | .mk _ attrs .. => attrs

end Node

/-- Elements that are one tag and show no children. -/
def voidTags : List String := ["img", "hr", "br"]

def writeAttrs (attrs : List (String × String)) : String :=
  Text.join "" (attrs.map fun (k, v) => " " ++ k ++ "=\"" ++ Text.escapeAttribute v ++ "\"")

mutual

/-- The markup of an element. -/
def Node.html : Node → String
  | .mk tag attrs children raw =>
    let head := "<" ++ tag ++ writeAttrs attrs
    if tag ∈ voidTags then head ++ " />"
    else head ++ ">" ++ Child.htmlAll raw children ++ "</" ++ tag ++ ">"

def Child.htmlAll (raw : Bool) : List Child → String
  | [] => ""
  | .text s :: rest => (if raw then s else Text.escapeContent s) ++ Child.htmlAll raw rest
  | .node n :: rest => n.html ++ Child.htmlAll raw rest

end

mutual

/-- The element and all nested in it, each before what it holds. -/
def Node.walk : Node → List Node
  | .mk tag attrs children raw => .mk tag attrs children raw :: Child.walkAll children

def Child.walkAll : List Child → List Node
  | [] => []
  | .text _ :: rest => Child.walkAll rest
  | .node n :: rest => n.walk ++ Child.walkAll rest

end

/-- The elements of a tag in a tree. -/
def Node.findAll (n : Node) (tag : String) : List Node := n.walk.filter (·.tag == tag)

mutual

/-- All text of a tree. -/
def Node.textContent : Node → String
  | .mk _ _ children _ => Child.textAll children

def Child.textAll : List Child → String
  | [] => ""
  | .text s :: rest => s ++ Child.textAll rest
  | .node n :: rest => n.textContent ++ Child.textAll rest

end

/-! ## Building -/

/-- Attributes that are there, in order; a repeated name keeps its first place and last value. -/
def putAttr (name : String) (value : α) : List (String × α) → List (String × α)
  | [] => [(name, value)]
  | (k, v) :: rest => if k = name then (k, value) :: rest else (k, v) :: putAttr name value rest

/-- The name of an attribute as it is written: no underscores at its end, dashes for others. -/
def attrName (name : String) : String :=
  Text.replace (String.ofList (Text.dropEndWhile (· == '_') name.toList)) "_" "-"

/-- An element of the parts and attributes that are there. -/
def element (tag : String) (attrs : List (String × Option String)) (children : List (Option Child))
    (raw : Bool) : Node :=
  .mk tag (attrs.filterMap fun (k, v) => v.map (k, ·)) (children.filterMap id) raw

/-- Reads the values of attributes, all of which are texts. -/
def readAttrs : List (String × Value) → Checked (List (String × String))
  | [] => .ok []
  | (k, v) :: rest =>
    (fun s more => (k, s) :: more) <$> (text v).inField k <*> readAttrs rest

/-- An element from attributes of any values; those that are `null` are left out. -/
def elementOf (tag : String) (attrs : List (String × Value)) (children : List (Option Child))
    (raw : Bool) : Checked Node :=
  let set := attrs.filter fun (_, v) => !(v matches .null)
  let named := set.foldl (fun done (k, v) => putAttr (attrName k) v done) []
  (fun attrs => .mk tag attrs (children.filterMap id) raw) <$> (readAttrs named).inField "attrs"

/-! ## Reading and writing -/

def readNamed : Reader (List (String × String)) := fun v =>
  (object v).andThen fun fs =>
    readAttrs <| fs.filterMap fun
      | (.name k, v) => some (k, v)
      | _ => none

mutual

/-- Reads an element whose nesting stays within the room. -/
def Node.readWithin : Nat → Reader Node
  | 0 => fun _ => .fail .notRecord
  | room + 1 =>
    record "node" fun fs =>
      Node.mk <$> required "tag" text fs <*> field "attrs" [] readNamed fs
        <*> field "children" [] (list (Child.readWithin room)) fs <*> field "raw" false bool fs

/-- An element, or else a text. -/
def Child.readWithin : Nat → Reader Child
  | 0 => fun _ => .fail .notText
  | room + 1 => fun v =>
    match text v, Node.readWithin room v with
    | .ok s, _ => .ok (.text s)
    | .bad _, .ok n => .ok (.node n)
    | .bad asText, .bad asNode =>
      .bad (asNode.map (Issue.under (.field "UINode")) ++ asText.map (Issue.under (.field "str")))

end

def Node.read : Reader Node := fun v => Node.readWithin (2 * v.depth) v

def Child.read : Reader Child := fun v => Child.readWithin (2 * v.depth + 1) v

mutual

def Node.write : Node → Value
  | .mk tag attrs children raw =>
    .obj [("tag", .text tag), ("attrs", .obj (attrs.map fun (k, v) => (k, .text v))),
      ("children", .list (Child.writeAll children)), ("raw", .bool raw)]

def Child.writeAll : List Child → List Value
  | [] => []
  | .text s :: rest => .text s :: Child.writeAll rest
  | .node n :: rest => n.write :: Child.writeAll rest

end

end ProfileReadme.Preview
