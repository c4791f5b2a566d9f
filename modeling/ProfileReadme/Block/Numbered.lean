/-
Blocks with numbered ids: an id is a scope, the kind of the block, and a number that counts all
blocks of the scope. Calls by name make blocks from document values.
-/
import ProfileReadme.Block.Basic
import ProfileReadme.Value.Shown

namespace ProfileReadme

/-- The ids given so far in one scope. -/
structure Numbering where
  scope : String
  count : Nat := 0
deriving DecidableEq, Repr, Inhabited

namespace Numbering

/-- The next id for a block of a kind. -/
def next (n : Numbering) (kind : String) : String × Numbering :=
  (n.scope ++ "-" ++ kind ++ "-" ++ toString (n.count + 1), { n with count := n.count + 1 })

end Numbering

/-- A computation that numbers the blocks it makes, and may fail. -/
abbrev Making (ε α : Type) := StateT Numbering (Except ε) α

namespace Making

def nextId (k : BlockKind) : Making ε String :=
  modifyGet fun n => n.next (Named.name k)

/-- A member of a group. -/
def member (k : BlockKind) (content : α) : Making ε (Placed α) := do
  return { id := ← nextId k, content }

def element (content : Element) : Making ε Block := do
  return .element (← nextId content.kind) true content

def stack (layout : Layout) (children : List Block) : Making ε Block := do
  return .stack (← nextId layout.kind) true layout children

def list (marker : ListMarker) (items : List Item) : Making ε Block := do
  return .list (← nextId .list) true marker items

end Making

/-! ## Calls by name -/

/-- What a call makes: an id, an item of a list, or a block. -/
inductive Made where
  | id (s : String)
  | item (i : Item)
  | block (b : Block)

namespace Made

/-- What was made, as an argument of another call. -/
def argument : Made → Value
  | .id s => .text s
  | .item i => accepted "list item" i.write
  | .block b => accepted (Named.name b.kind) b.write
where
  accepted (shape : String) : Value → Value
    | .object fs => .record shape fs
    | v => v

end Made

/-- How blocks of a kind are made by name. -/
structure Method where
  kind : BlockKind
  /-- Arguments that must be there. -/
  required : List String := []
  /-- Arguments that may be there. -/
  optional : List String := []
  /-- Whether any other field may be given. -/
  isOpen : Bool := false
  /-- The argument that lists the parts, and the field that takes it. -/
  parts : Option (String × String) := none

namespace Method

/-- The methods by name. -/
def table : List (String × Method) :=
  [("text", ⟨.text, ["value"], ["emphasis", "align", "visible"], false, none⟩),
    ("heading", ⟨.heading, ["value"], ["level", "align", "visible"], false, none⟩),
    ("paragraph", ⟨.paragraph, ["children"], ["align"], false, some ("children", "children")⟩),
    ("code", ⟨.code, ["value"], ["language", "inline"], false, none⟩),
    ("quote", ⟨.quote, ["value"], ["author", "source"], false, none⟩),
    ("image", ⟨.image, ["src"], ["alt"], true, none⟩),
    ("link", ⟨.link, ["href", "text"], ["title", "external"], false, none⟩),
    ("badge", ⟨.badge, ["label"], [], true, none⟩),
    ("badge_group",
      ⟨.badgeGroup, ["badges"], ["align", "gap"], false, some ("badges", "children")⟩),
    ("list", ⟨.list, ["items"], ["list_type"], false, some ("items", "items")⟩),
    ("spacer", ⟨.spacer, [], ["height"], false, none⟩),
    ("divider", ⟨.rule, [], ["style", "width"], false, none⟩),
    ("row", ⟨.row, ["children"], [], true, some ("children", "children")⟩),
    ("column", ⟨.column, ["children"], ["span"], false, some ("children", "children")⟩),
    ("grid", ⟨.grid, ["children"], ["columns", "gap"], false, some ("children", "children")⟩),
    ("stat", ⟨.stat, ["label", "value"], [], true, none⟩),
    ("stat_group", ⟨.statGroup, ["stats"], ["layout"], false, some ("stats", "children")⟩),
    ("social_link", ⟨.social, ["platform", "url"], [], true, none⟩),
    ("social_group",
      ⟨.socialGroup, ["links"], ["style", "align"], false, some ("links", "children")⟩),
    ("typing_animation", ⟨.typing, ["texts"], [], true, some ("texts", "texts")⟩),
    ("github_stats_card", ⟨.statsCard, ["username"], ["card_type"], true, none⟩),
    ("contribution_graph", ⟨.graph, ["username"], ["theme", "show_legend"], false, none⟩),
    ("card", ⟨.card, ["title"], [], true, none⟩),
    ("project_card", ⟨.projectCard, ["name"], ["description"], true, none⟩),
    ("experience_item", ⟨.position, ["company", "role", "start_date"], [], true, none⟩),
    ("education_item", ⟨.study, ["institution", "degree", "start_date"], [], true, none⟩),
    ("achievement_item", ⟨.award, ["title"], [], true, none⟩),
    ("custom", ⟨.custom, ["custom_type"], ["content", "data"], false, none⟩)]

/-- Whether arguments of these names may be given. -/
def accepts (required optional : List String) (isOpen : Bool) (args : Fields) : Bool :=
  required.all (fun name => (Fields.find? name args).isSome) &&
    (isOpen || args.all fun
      | (.name k, _) => k ∈ required || k ∈ optional
      | _ => false)

end Method

/-- Why a call makes nothing. -/
inductive CallFault where
  | noMethod
  | arguments
  | invalid (issues : List Issue)

/-- The parts of a sequence: of a list its items, of a text its characters. -/
def partsOf? : Value → Option (List Value)
  | .list vs => some vs
  | .text s => some (s.toList.map fun c => .text c.toString)
  | .object fs => some (fs.map fun (k, _) => match k with
    | .name s => .text s
    | .number n => .int n
    | .other label => .text label)
  | _ => none

namespace Method

def checked : Checked α → Except CallFault α
  | .ok a => .ok a
  | .bad issues => .error (.invalid issues)

/-- An item of a list: an item as such, or one with a content. -/
def itemOf : Value → Except CallFault Value
  | .record "list item" fs => .ok (.record "list item" fs)
  | content =>
    (checked (Item.read (.object [(.name "content", content)]))).map fun i =>
      Made.argument (.item i)

/-- The arguments that count: a typing animation passes over timings that are `null`, and data
that stands for nothing is an empty object. -/
def settled (m : Method) (args : Fields) : Fields :=
  match m.kind with
  | .typing => args.filter fun (k, v) => k = .name "texts" || !(v matches .null)
  | .custom =>
    args.map fun (k, v) =>
      if k = .name "data" && v.isEmptyLike then (k, .object []) else (k, v)
  | _ => args

/-- The arguments with the parts under the name of their field. -/
def placeParts (m : Method) (args : Fields) : Except CallFault Fields :=
  match m.parts with
  | none => .ok args
  | some (argument, field) =>
    match partsOf? ((Fields.find? argument args).getD .null) with
    | none => .error .arguments
    | some parts =>
      .ok ((.name field, .list parts) :: args.filter fun (k, _) => k ≠ .name argument)

/-- The fields of a block from the arguments of a call. -/
def fieldsOf (m : Method) (id : String) (args : Fields) : Except CallFault Fields := do
  let fields : Fields ← m.placeParts (m.settled args)
  if (Fields.find? "id" fields).isSome then .error .arguments
  else .ok ((Key.name "id", Value.text id) :: fields)

/-- The items of a list are made before the list has its number. -/
def prepare (m : Method) (args : Fields) : Except CallFault Fields :=
  if m.kind = .list then
    match partsOf? ((Fields.find? "items" args).getD .null) with
    | none => .error .arguments
    | some parts =>
      (parts.mapM itemOf).map fun items => Fields.put (.name "items") (.list items) args
  else .ok args

def build (m : Method) (fields : Fields) : Except CallFault Block :=
  let room := (Value.object fields).depth
  checked (Block.readFields (Block.readWithin room) (Item.readWithin room) m.kind fields)

/-- The block of a method; its number is used even if its fields do not fit. -/
def run (m : Method) (args : Fields) (n : Numbering) : Except CallFault Made × Numbering :=
  if accepts m.required m.optional m.isOpen args then
    match m.prepare args with
    | .error fault => (.error fault, n)
    | .ok args =>
      let (id, n) := n.next (Named.name m.kind)
      (do return .block (← m.build (← m.fieldsOf id args)), n)
  else (.error .arguments, n)

end Method

/-- An item made by name takes no number. -/
def makeItem (args : Fields) : Except CallFault Made :=
  if Method.accepts ["content"] ["icon", "nested"] false args then
    match partsOf? ((Fields.find? "nested" args).getD (.list [])) with
    | none => .error .arguments
    | some parts =>
      let item := Item.read (.object (Fields.put (.name "nested") (.list parts) args))
      (Method.checked item).map .item
  else .error .arguments

/-- Makes something by the name of a method. -/
def Numbering.call (n : Numbering) (method : String) (args : Fields) :
    Except CallFault Made × Numbering :=
  match method with
  | "next_id" =>
    match args with
    | [(.name "kind", kind)] =>
      let (id, n) := n.next kind.shown
      (.ok (.id id), n)
    | _ => (.error .arguments, n)
  | "list_item" => (makeItem args, n)
  | _ =>
    match Method.table.lookup method with
    | some m => m.run args n
    | none => (.error .noMethod, n)

end ProfileReadme
