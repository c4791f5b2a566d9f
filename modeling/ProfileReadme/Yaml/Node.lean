/-
The tree that the tokens of a YAML document make, with its aliases put in place. A text holds one
document at most.
-/
import ProfileReadme.Yaml.Layout

namespace ProfileReadme.Yaml

/-- A part of a document with the tag that it was given, if it was given one. -/
inductive Node where
  | scalar (tag : Option String) (plain : Bool) (text : String)
  | sequence (tag : Option String) (items : List Node)
  | mapping (tag : Option String) (pairs : List (Node × Node))
deriving Inhabited

namespace Node

/-- What stands where nothing is written. -/
def empty : Node := .scalar none true ""

/-! ## Tags -/

/-- Where the standard tags are. -/
def standard : String := "tag:yaml.org,2002:"

/-- The leads that tag handles stand for. -/
abbrev Handles := List (String × String)

def usualHandles : Handles := [("!", "!"), ("!!", standard)]

/-- The tag that says: as if there were no tag. -/
def plainTag : String := "!"

def tagOf (handles : Handles) (handle : Option String) (suffix : String) : Except Fault String :=
  match handle with
  | none => .ok suffix
  | some h =>
    match handles.lookup h with
    | some lead => .ok (lead ++ suffix)
    | none => refuse

/-! ## Building -/

/-- What is left of the tokens, and the parts that aliases can name. -/
structure Building where
  tokens : List Token
  handles : Handles := usualHandles
  anchors : List (String × Node) := []

abbrev Build := StateT Building (Except Fault)

def malformed : Build α := throw .malformed

def peek : Build Token := do return (← get).tokens.headD .streamEnd

def drop : Build Unit := modify fun b => { b with tokens := b.tokens.drop 1 }

/-- Takes a token off if it is next. -/
def takes (t : Token) : Build Bool := do
  if (← peek) == t then
    drop
    return true
  else return false

/-- What a name stands for from now on. -/
def remember (anchor : Option String) (n : Node) : Build Unit :=
  match anchor with
  | none => return
  | some a => modify fun b => { b with anchors := (a, n) :: b.anchors }

/-- Gives a part a name; no name is given twice. -/
def name (anchor : Option String) (n : Node) : Build Unit := do
  match anchor with
  | none => return
  | some a => if ((← get).anchors.lookup a).isSome then malformed else remember anchor n

/-- A collection with a name. Within itself the name stands for an empty collection, so that no
tree is endless. -/
def naming (anchor : Option String) (collect : List α → Node) (parts : Build (List α)) :
    Build Node := do
  name anchor (collect [])
  let n := collect (← parts)
  remember anchor n
  return n

/-- A scalar with a name. -/
def namingScalar (anchor : Option String) (n : Node) : Build Node := do
  name anchor n
  return n

def takeAnchor : Build (Option String) := do
  match ← peek with
  | .anchor a => do
    drop
    return some a
  | _ => return none

def takeTag : Build (Option String) := do
  match ← peek with
  | .tag handle suffix => do
    drop
    return some (← tagOf (← get).handles handle suffix)
  | _ => return none

/-- The anchor and the tag before a part, in either order. -/
def takeProperties : Build (Option String × Option String) := do
  match ← takeAnchor with
  | some a => return (some a, ← takeTag)
  | none => do
    let tag ← takeTag
    let anchor ← if tag.isSome then takeAnchor else pure none
    return (anchor, tag)

/-- What may stand at a place. -/
inductive Place where
  /-- Within brackets: no block collections. -/
  | flow
  | block
  /-- In a mapping: also a sequence that is not indented. -/
  | entry
deriving DecidableEq

def endsBlockItem (t : Token) : Bool := t == .blockEntry || t == .blockEnd

def endsEntry (t : Token) : Bool := t == .key || t == .value || t == .blockEnd

def endsFlowItem (t : Token) : Bool := t == .flowEntry || t == .flowSequenceEnd

def endsFlowValue (t : Token) : Bool := t == .flowEntry || t == .flowMappingEnd

mutual

/-- A part of the document. -/
def build : Nat → Place → Build Node
  | 0, _ => malformed
  | fuel + 1, place => do
    match ← peek with
    | .alias a => do
      drop
      match (← get).anchors.lookup a with
      | some n => return n
      | none => malformed
    | _ => do
      let (anchor, tag) ← takeProperties
      let given := tag.filter (· ≠ plainTag)
      match ← peek with
      | .scalar text plain => do
        drop
        namingScalar anchor (.scalar given (plain && tag.isNone || tag == some plainTag) text)
      | .flowSequenceStart => do
        drop
        naming anchor (.sequence given) (flowItems fuel true)
      | .flowMappingStart => do
        drop
        naming anchor (.mapping given) (flowPairs fuel true)
      | .blockSequenceStart => do
        if place = .flow then malformed
        drop
        naming anchor (.sequence given) (blockItems fuel)
      | .blockMappingStart => do
        if place = .flow then malformed
        drop
        naming anchor (.mapping given) (blockPairs fuel)
      | t =>
        if place = .entry && t == .blockEntry then
          naming anchor (.sequence given) (looseItems fuel)
        else if anchor.isSome || tag.isSome then
          namingScalar anchor (.scalar given given.isNone "")
        else malformed

/-- A part, or nothing where one of some tokens comes next. -/
def buildUnless : Nat → (Token → Bool) → Place → Build Node
  | 0, _, _ => malformed
  | fuel + 1, ends, place => do
    if ends (← peek) then return empty else build fuel place

/-- The items of an indented sequence. -/
def blockItems : Nat → Build (List Node)
  | 0 => malformed
  | fuel + 1 => do
    if ← takes .blockEntry then
      let item ← buildUnless fuel endsBlockItem .block
      return item :: (← blockItems fuel)
    else if ← takes .blockEnd then return []
    else malformed

/-- The items of a sequence that is not indented. -/
def looseItems : Nat → Build (List Node)
  | 0 => malformed
  | fuel + 1 => do
    if ← takes .blockEntry then
      let item ← buildUnless fuel (fun t => t == .blockEntry || endsEntry t) .block
      return item :: (← looseItems fuel)
    else return []

/-- The value after a key, if there is one. -/
def valueOf : Nat → (Token → Bool) → Place → Build Node
  | 0, _, _ => malformed
  | fuel + 1, ends, place => do
    if ← takes .value then buildUnless fuel ends place else return empty

/-- The pairs of an indented mapping. -/
def blockPairs : Nat → Build (List (Node × Node))
  | 0 => malformed
  | fuel + 1 => do
    match ← peek with
    | .key => do
      drop
      let k ← buildUnless fuel endsEntry .entry
      let v ← valueOf fuel endsEntry .entry
      return (k, v) :: (← blockPairs fuel)
    | .blockEnd => do
      drop
      return []
    | _ => malformed

/-- The items between square brackets; a key makes a mapping of one pair. -/
def flowItems : Nat → Bool → Build (List Node)
  | 0, _ => malformed
  | fuel + 1, first => do
    if ← takes .flowSequenceEnd then return []
    else
      unless first do
        unless ← takes .flowEntry do malformed
      if ← takes .key then
        let k ← buildUnless fuel (fun t => t == .value || endsFlowItem t) .flow
        let v ← valueOf fuel endsFlowItem .flow
        return .mapping none [(k, v)] :: (← flowItems fuel false)
      else if ← takes .flowSequenceEnd then return []
      else
        let item ← build fuel .flow
        return item :: (← flowItems fuel false)

/-- The pairs between braces; a key without a colon has no value. -/
def flowPairs : Nat → Bool → Build (List (Node × Node))
  | 0, _ => malformed
  | fuel + 1, first => do
    if ← takes .flowMappingEnd then return []
    else
      unless first do
        unless ← takes .flowEntry do malformed
      if ← takes .key then
        let k ← buildUnless fuel (fun t => t == .value || endsFlowValue t) .flow
        let v ← valueOf fuel endsFlowValue .flow
        return (k, v) :: (← flowPairs fuel false)
      else if ← takes .flowMappingEnd then return []
      else
        let k ← build fuel .flow
        return (k, empty) :: (← flowPairs fuel false)

end

/-! ## Documents -/

/-- What the directives before a document say: the handles that tags may use. -/
def takeDirectives : Nat → Bool → Handles → Build Handles
  | 0, _, _ => malformed
  | fuel + 1, versioned, handles => do
    match ← peek with
    | .directive d => do
      drop
      match d with
      | .version major _ =>
        if versioned || major ≠ 1 then malformed else takeDirectives fuel true handles
      | .tag handle lead =>
        if (handles.lookup handle).isSome then malformed
        else takeDirectives fuel versioned ((handle, lead) :: handles)
      | .other => takeDirectives fuel versioned handles
    | _ => return handles

def dropDocumentEnds : Nat → Build Unit
  | 0 => malformed
  | fuel + 1 => do if ← takes .documentEnd then dropDocumentEnds fuel

def endsDocument : Token → Bool
  | .directive _ | .documentStart | .documentEnd | .streamEnd => true
  | _ => false

/-- The document of a text, if there is one. -/
def document (fuel : Nat) : Build (Option Node) := do
  match ← peek with
  | .streamEnd => return none
  | .directive _ | .documentStart => do
    let handles ← takeDirectives fuel false []
    modify fun b => { b with handles := handles ++ usualHandles }
    unless ← takes .documentStart do malformed
    return some (← buildUnless fuel endsDocument .block)
  | _ => return some (← build fuel .block)

/-- The only document, after which nothing else comes. -/
def onlyDocument (fuel : Nat) : Build (Option Node) := do
  let n ← document fuel
  dropDocumentEnds fuel
  if (← peek) == .streamEnd then return n else malformed

/-- The tree of tokens. -/
def ofTokens (ts : List Token) : Except Fault (Option Node) :=
  (onlyDocument (4 * ts.length + 4)).run' { tokens := ts }

end Node

end ProfileReadme.Yaml
