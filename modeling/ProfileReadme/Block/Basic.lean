/-
Blocks: the tree that a section is built into. A block is an element, a stack of blocks in some
layout, or a list whose items hold texts or blocks and lists of their own.
-/
import ProfileReadme.Block.Element

namespace ProfileReadme

open Reader

/-- Where the parts of a row stand across it. -/
inductive CrossAlign where
  | start | center | finish | stretch
deriving DecidableEq, Repr, Inhabited

instance : Named CrossAlign where
  all := [.start, .center, .finish, .stretch]
  name
    | .start => "start"
    | .center => "center"
    | .finish => "end"
    | .stretch => "stretch"

instance : Named.Lawful CrossAlign := ⟨by intro a; cases a <;> decide⟩

/-- How the parts of a row are spread along it. -/
inductive Justify where
  | start | center | finish | between | around
deriving DecidableEq, Repr, Inhabited

instance : Named Justify where
  all := [.start, .center, .finish, .between, .around]
  name
    | .start => "start"
    | .center => "center"
    | .finish => "end"
    | .between => "between"
    | .around => "around"

instance : Named.Lawful Justify := ⟨by intro a; cases a <;> decide⟩

/-- What stands before the items of a list. -/
inductive ListMarker where
  | unordered | ordered | hidden
deriving DecidableEq, Repr, Inhabited

instance : Named ListMarker where
  all := [.unordered, .ordered, .hidden]
  name
    | .unordered => "unordered"
    | .ordered => "ordered"
    | .hidden => "none"

instance : Named.Lawful ListMarker := ⟨by intro a; cases a <;> decide⟩

/-- How the blocks of a stack stand together. -/
inductive Layout where
  | paragraph (align : Option Align)
  | row (align : CrossAlign) (justify : Justify) (gap : Gap) (wraps : Bool)
  | column (span : Option Int)
  | grid (columns : Bounded 1 none) (gap : Gap)
deriving DecidableEq, Repr

namespace Layout

def kind : Layout → BlockKind
  | .paragraph .. => .paragraph
  | .row .. => .row
  | .column .. => .column
  | .grid .. => .grid

/-- How the layout of a kind is read, if the kind is a stack. -/
def reader? : BlockKind → Option (Fields → Checked Layout)
  | .paragraph => some fun fs => .paragraph <$> optionalField "align" Named.read fs
  | .row => some fun fs =>
    .row <$> field "align" .center Named.read fs <*> field "justify" .center Named.read fs
      <*> field "gap" .md Named.read fs <*> field "wrap" true bool fs
  | .column => some fun fs => .column <$> optionalField "span" int fs
  | .grid => some fun fs =>
    .grid <$> field "columns" (.of 3 (.refl true)) (bounded 1 none) fs
      <*> field "gap" .md Named.read fs
  | _ => none

def writeFields : Layout → List (String × Value)
  | .paragraph align => [("align", .optional Named.write align)]
  | .row align justify gap wraps =>
    [("align", Named.write align), ("justify", Named.write justify), ("gap", Named.write gap),
      ("wrap", .bool wraps)]
  | .column span => [("span", .optional .int span)]
  | .grid columns gap => [("columns", .int columns.val), ("gap", Named.write gap)]

end Layout

mutual

inductive Block where
  | element (id : String) (visible : Bool) (content : Element)
  | stack (id : String) (visible : Bool) (layout : Layout) (children : List Block)
  | list (id : String) (visible : Bool) (marker : ListMarker) (items : List Item)

/-- An item of a list: a text or a block, an icon, and the items below it. -/
inductive Item where
  | text (content : String) (icon : Option String) (nested : List Item)
  | block (content : Block) (icon : Option String) (nested : List Item)

end

instance : Inhabited Block := ⟨.list "" false .unordered []⟩

instance : Inhabited Item := ⟨.text "" none []⟩

namespace Block

def id : Block → String
  | .element id .. | .stack id .. | .list id .. => id

def visible : Block → Bool
  | .element _ visible _ | .stack _ visible .. | .list _ visible .. => visible

def kind : Block → BlockKind
  | .element _ _ content => content.kind
  | .stack _ _ layout _ => layout.kind
  | .list .. => .list

end Block

/-- An element with its id, as a block. -/
def Placed.toBlock (p : Placed Element) : Block := .element p.id p.visible p.content

/-- A member of a group, as a block. -/
def Placed.member (element : α → Element) (p : Placed α) : Block :=
  .element p.id p.visible (element p.content)

/-- The members of a group, as blocks. -/
def Element.members : Element → List Block
  | .badgeGroup g => g.members.map (Placed.member .badge)
  | .statGroup g => g.members.map (Placed.member .stat)
  | .socialGroup g => g.members.map (Placed.member .social)
  | _ => []

/-! ## Walking -/

mutual

/-- The block and all that is nested in it, each block before what it holds. -/
def Block.walk : Block → List Block
  | .element id visible content => .element id visible content :: content.members
  | .stack id visible layout children =>
    .stack id visible layout children :: Block.walkAll children
  | .list id visible marker items => .list id visible marker items :: Item.walkAll items

def Block.walkAll : List Block → List Block
  | [] => []
  | b :: bs => b.walk ++ Block.walkAll bs

/-- The blocks of an item: its content with all below it, then those of the items nested in it. -/
def Item.walk : Item → List Block
  | .text _ _ nested => Item.walkAll nested
  | .block content _ nested => content.walk ++ Item.walkAll nested

def Item.walkAll : List Item → List Block
  | [] => []
  | i :: is => i.walk ++ Item.walkAll is

end

/-! ## Reading -/

namespace Block

/-- The kind that an object names, and its fields. -/
def tagged : Value → Except Fault (BlockKind × Fields)
  | .object fs | .record _ fs =>
    match Fields.find? "kind" fs with
    | none => .error .noTag
    | some (.text s) =>
      match Named.find? s with
      | some k => .ok (k, fs)
      | none => .error .unknownTag
    | some _ => .error .unknownTag
  | _ => .error .notTagged

/-- The fields of a kind, with the readers of what is nested in it. -/
def readFields (block : Reader Block) (item : Reader Item) (k : BlockKind) (fs : Fields) :
    Checked Block :=
  match Element.reader? k, Layout.reader? k with
  | some read, _ => Placed.toBlock <$> Placed.readFields k read fs
  | none, some read =>
    (fun id visible children _ layout => .stack id visible layout children)
      <$> required "id" text fs <*> field "visible" true bool fs
      <*> field "children" [] (Reader.list block) fs <*> Placed.kindField k fs <*> read fs
  | none, none =>
    (fun id visible _ items marker => .list id visible marker items)
      <$> required "id" text fs <*> field "visible" true bool fs <*> Placed.kindField k fs
      <*> field "items" [] (Reader.list item) fs <*> field "list_type" .unordered Named.read fs

/-- A block by the kind it names; issues past the kind carry it on their way. -/
def readTagged (block : Reader Block) (item : Reader Item) : Reader Block := fun v =>
  match tagged v with
  | .ok (k, fs) => (readFields block item k fs).inField (Named.name k)
  | .error fault => .fail fault

end Block

namespace Item

/-- The content of an item: a text, or else a block. -/
def readContent (block : Reader Block) : Reader (String ⊕ Block) := fun v =>
  match Reader.text v, block v with
  | Checked.ok s, _ => .ok (.inl s)
  | Checked.bad _, Checked.ok b => .ok (.inr b)
  | Checked.bad asText, Checked.bad asBlock =>
    .bad (asText.map (Issue.under (.field "str")) ++ asBlock.map (Issue.under (.field "union")))

def ofContent : String ⊕ Block → Option String → List Item → Item
  | .inl s => .text s
  | .inr b => .block b

def readFields (block : Reader Block) (item : Reader Item) (fs : Fields) : Checked Item :=
  ofContent <$> required "content" (readContent block) fs <*> optionalField "icon" Reader.text fs
    <*> field "nested" [] (Reader.list item) fs

end Item

mutual

/-- Reads a block whose nesting stays within the room. -/
def Block.readWithin : Nat → Reader Block
  | 0 => fun _ => .fail .notTagged
  | room + 1 => Block.readTagged (Block.readWithin room) (Item.readWithin room)

def Item.readWithin : Nat → Reader Item
  | 0 => fun _ => .fail .notRecord
  | room + 1 =>
    record "list item" (Item.readFields (Block.readWithin room) (Item.readWithin room))

end

def Block.read : Reader Block := fun v => Block.readWithin v.depth v

def Item.read : Reader Item := fun v => Item.readWithin v.depth v

/-- The fields that all blocks share, without a kind. -/
def Placed.readBare : Reader (Placed Unit) :=
  record "" fun fs =>
    (fun id visible => ⟨id, visible, ()⟩) <$> required "id" text fs
      <*> field "visible" true bool fs

/-- What has no kind shows no block. -/
def Block.ofBare? (_ : Placed Unit) : Option Block := none

/-! ## Writing -/

mutual

def Block.write : Block → Value
  | .element id visible content =>
    .obj <| head id visible content.kind ++ content.writeFields
  | .stack id visible layout children =>
    .obj <| head id visible layout.kind ++ ("children", .list (Block.writeAll children))
      :: layout.writeFields
  | .list id visible marker items =>
    .obj <| head id visible .list
      ++ [("items", .list (Item.writeAll items)), ("list_type", Named.write marker)]
where
  head (id : String) (visible : Bool) (k : BlockKind) : List (String × Value) :=
    [("id", .text id), ("visible", .bool visible), ("kind", Named.write k)]

def Block.writeAll : List Block → List Value
  | [] => []
  | b :: bs => b.write :: Block.writeAll bs

def Item.write : Item → Value
  | .text content icon nested =>
    .obj [("content", .text content), ("icon", .optional .text icon),
      ("nested", .list (Item.writeAll nested))]
  | .block content icon nested =>
    .obj [("content", content.write), ("icon", .optional .text icon),
      ("nested", .list (Item.writeAll nested))]

def Item.writeAll : List Item → List Value
  | [] => []
  | i :: is => i.write :: Item.writeAll is

end

end ProfileReadme
