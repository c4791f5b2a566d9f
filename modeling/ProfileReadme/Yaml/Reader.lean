/-
The reader of YAML text: the value of the one document that a text holds. Of equal keys the first
place and the last value count; merged mappings are laid under the mapping that names them.
-/
import ProfileReadme.Yaml.Scalar

namespace ProfileReadme.Yaml

/-- The key that a value makes; collections make none. -/
def keyOf : Value → Except Fault Key
  | .text s => .ok (.name s)
  | .int n => .ok (.number n)
  | .bool b => .ok (.number (if b then 1 else 0))
  | .real x =>
    match x.toInt? with
    | some n => .ok (.number n)
    | none => .ok (.other x.text)
  | .null => .ok (.other "None")
  | .date d => .ok (.other (String.ofList (Timestamp.writeDate d)))
  | .moment t => .ok (.other t.write)
  | .bytes bs => .ok (.other (String.ofList (bs.map fun b => Char.ofNat b.toNat)))
  | .list _ | .object _ | .record .. => refuse

namespace Node

def isMerge : Node → Bool
  | .scalar tag plain text => ScalarKind.of? tag plain text = some .merge
  | _ => false

/-- The tags of sequences whose items are mappings of one pair each. -/
def pairTags : List String := [standard ++ "omap", standard ++ "pairs"]

/-- A scalar as a key: the lone equals sign is a text there. -/
def scalarKey (tag : Option String) (plain : Bool) (text : String) : Except Fault Key :=
  match ScalarKind.of? tag plain text with
  | some .equals => .ok (.name text)
  | some k => (k.value text).bind keyOf
  | none => refuse

/-- The pairs of a mapping: those merged into it, and its own. -/
structure Entries where
  merged : List (Key × Value) := []
  own : List (Key × Value) := []

def Entries.fields (e : Entries) : Fields := .ofPairs (e.merged ++ e.own)

mutual

def value : Node → Except Fault Value
  | .scalar tag plain text =>
    match ScalarKind.of? tag plain text with
    | some k => k.value text
    | none => refuse
  | .sequence tag items =>
    match tag with
    | none => (values items).map .list
    | some t =>
      if t = standard ++ "seq" then (values items).map .list
      else if t ∈ pairTags then (pairValues items).map .list
      else refuse
  | .mapping tag pairs =>
    match tag with
    | none => (entries pairs).map (.object ·.fields)
    | some t =>
      if t = standard ++ "map" then (entries pairs).map (.object ·.fields)
      else if t = standard ++ "set" then (entries pairs).map (.texts <| ·.fields.map (·.1.label))
      else refuse

def values : List Node → Except Fault (List Value)
  | [] => .ok []
  | n :: ns => do return (← value n) :: (← values ns)

/-- The items of a sequence as pairs of key and value. -/
def pairValues : List Node → Except Fault (List Value)
  | [] => .ok []
  | .mapping _ [(k, v)] :: ns => do
    let key ← value k
    let item ← value v
    return .list [key, item] :: (← pairValues ns)
  | _ :: _ => refuse

/-- What the pairs of a mapping hold. -/
def entries : List (Node × Node) → Except Fault Entries
  | [] => .ok {}
  | (k, v) :: rest => do
    if isMerge k then
      let merged ← mergedFields v
      let e ← entries rest
      return { e with merged := merged ++ e.merged }
    else
      let key ← keyValue k
      let v ← value v
      let e ← entries rest
      return { e with own := (key, v) :: e.own }

def keyValue : Node → Except Fault Key
  | .scalar tag plain text => scalarKey tag plain text
  | _ => refuse

/-- What a mapping, or each mapping of a sequence, gives to one that it is merged into. The first
mapping of a sequence counts most, so it comes last. -/
def mergedFields : Node → Except Fault (List (Key × Value))
  | .mapping _ pairs => do
    let e ← entries pairs
    return e.merged ++ e.own
  | .sequence _ items => mergedItems items
  | .scalar .. => refuse

def mergedItems : List Node → Except Fault (List (Key × Value))
  | [] => .ok []
  | .mapping _ pairs :: ns => do
    let e ← entries pairs
    return (← mergedItems ns) ++ (e.merged ++ e.own)
  | _ :: _ => refuse

end

end Node

/-- A text with every line end made a line feed. -/
def normalized : List Char → List Char
  | [] => []
  | '\r' :: '\n' :: cs => '\n' :: normalized cs
  | '\r' :: cs => '\n' :: normalized cs
  | c :: cs => c :: normalized cs

/-- The value of the document in a text; a text without one is null. -/
def read (s : String) : Except Fault Value := do
  let cs := normalized s.toList
  need (cs.all isPrintable)
  match ← Node.ofTokens (← tokens cs) with
  | some n => n.value
  | none => return .null

end ProfileReadme.Yaml
