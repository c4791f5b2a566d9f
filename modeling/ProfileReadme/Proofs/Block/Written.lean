/-
Blocks read back from what is written of them: every kind of element and of layout, and trees of
blocks nested as deep as they are. The reader allows for as much nesting as the value has, so the
induction is over the block with any room that the written value fits into.
-/
import ProfileReadme.Block.Basic
import ProfileReadme.Proofs.Schema.Rereading

namespace ProfileReadme

open Reader

/-- The fields of a block as they are written: those that all blocks share, then those of its
kind. -/
def Placed.fields (id : String) (visible : Bool) (k : BlockKind) (ps : List (String × Value)) :
    Fields :=
  (Block.write.head id visible k ++ ps).map fun (name, v) => (.name name, v)

variable {id : String} {visible : Bool} {k : BlockKind}

/-! ## Elements -/

@[simp] theorem Figure.read_write (f : Figure) : Figure.read f.write = .ok f := by
  cases f <;> rfl

@[simp] theorem Reader.object_write (fs : Fields) : object (.object fs) = .ok fs := rfl

namespace Element

@[simp] theorem Phrase.read_write (r : Phrase) :
    Phrase.readFields (Placed.fields id visible k r.writeFields) = .ok r := by
  simp [Phrase.readFields, Phrase.writeFields, Placed.fields, Block.write.head]

@[simp] theorem Heading.read_write (r : Heading) :
    Heading.readFields (Placed.fields id visible k r.writeFields) = .ok r := by
  simp [Heading.readFields, Heading.writeFields, Placed.fields, Block.write.head]

@[simp] theorem Code.read_write (r : Code) :
    Code.readFields (Placed.fields id visible k r.writeFields) = .ok r := by
  simp [Code.readFields, Code.writeFields, Placed.fields, Block.write.head]

@[simp] theorem Quote.read_write (r : Quote) :
    Quote.readFields (Placed.fields id visible k r.writeFields) = .ok r := by
  simp [Quote.readFields, Quote.writeFields, Placed.fields, Block.write.head]

@[simp] theorem Image.read_write (r : Image) :
    Image.readFields (Placed.fields id visible k r.writeFields) = .ok r := by
  simp [Image.readFields, Image.writeFields, Placed.fields, Block.write.head]

@[simp] theorem Link.read_write (r : Link) :
    Link.readFields (Placed.fields id visible k r.writeFields) = .ok r := by
  simp [Link.readFields, Link.writeFields, Placed.fields, Block.write.head]

@[simp] theorem Badge.read_write (r : Badge) :
    Badge.readFields (Placed.fields id visible k r.writeFields) = .ok r := by
  simp [Badge.readFields, Badge.writeFields, Placed.fields, Block.write.head]

@[simp] theorem Spacer.read_write (r : Spacer) :
    Spacer.readFields (Placed.fields id visible k r.writeFields) = .ok r := by
  simp [Spacer.readFields, Spacer.writeFields, Placed.fields, Block.write.head]

@[simp] theorem Rule.read_write (r : Rule) :
    Rule.readFields (Placed.fields id visible k r.writeFields) = .ok r := by
  simp [Rule.readFields, Rule.writeFields, Placed.fields, Block.write.head]

@[simp] theorem Stat.read_write (r : Stat) :
    Stat.readFields (Placed.fields id visible k r.writeFields) = .ok r := by
  simp [Stat.readFields, Stat.writeFields, Placed.fields, Block.write.head]

@[simp] theorem Social.read_write (r : Social) :
    Social.readFields (Placed.fields id visible k r.writeFields) = .ok r := by
  simp [Social.readFields, Social.writeFields, Placed.fields, Block.write.head]

@[simp] theorem Typing.read_write (r : Typing) :
    Typing.readFields (Placed.fields id visible k r.writeFields) = .ok r := by
  simp [Typing.readFields, Typing.writeFields, Placed.fields, Block.write.head]

@[simp] theorem StatsCard.read_write (r : StatsCard) :
    StatsCard.readFields (Placed.fields id visible k r.writeFields) = .ok r := by
  simp [StatsCard.readFields, StatsCard.writeFields, Placed.fields, Block.write.head]

@[simp] theorem Graph.read_write (r : Graph) :
    Graph.readFields (Placed.fields id visible k r.writeFields) = .ok r := by
  simp [Graph.readFields, Graph.writeFields, Placed.fields, Block.write.head]

@[simp] theorem Card.read_write (r : Card) :
    Card.readFields (Placed.fields id visible k r.writeFields) = .ok r := by
  simp [Card.readFields, Card.writeFields, Placed.fields, Block.write.head]

@[simp] theorem ProjectCard.read_write (r : ProjectCard) :
    ProjectCard.readFields (Placed.fields id visible k r.writeFields) = .ok r := by
  simp [ProjectCard.readFields, ProjectCard.writeFields, Placed.fields, Block.write.head]

@[simp] theorem Position.read_write (r : Position) :
    Position.readFields (Placed.fields id visible k r.writeFields) = .ok r := by
  simp [Position.readFields, Position.writeFields, Placed.fields, Block.write.head]

@[simp] theorem Study.read_write (r : Study) :
    Study.readFields (Placed.fields id visible k r.writeFields) = .ok r := by
  simp [Study.readFields, Study.writeFields, Placed.fields, Block.write.head]

@[simp] theorem Award.read_write (r : Award) :
    Award.readFields (Placed.fields id visible k r.writeFields) = .ok r := by
  simp [Award.readFields, Award.writeFields, Placed.fields, Block.write.head]

@[simp] theorem Custom.read_write (r : Custom) :
    Custom.readFields (Placed.fields id visible k r.writeFields) = .ok r := by
  simp [Custom.readFields, Custom.writeFields, Placed.fields, Block.write.head]

end Element

/-! ## Members of groups -/

namespace Placed

@[simp] theorem kindField_fields (ps : List (String × Value)) :
    kindField k (Placed.fields id visible k ps) = .ok () := by
  simp [kindField, Placed.fields, Block.write.head, Fields.find?, Named.write]

@[simp] theorem id_fields (ps : List (String × Value)) :
    required "id" text (Placed.fields id visible k ps) = .ok id := by
  simp [Placed.fields, Block.write.head]

@[simp] theorem visible_fields (ps : List (String × Value)) :
    field "visible" true bool (Placed.fields id visible k ps) = .ok visible := by
  simp [Placed.fields, Block.write.head]

@[simp] theorem fields_children (vs : List Value) (ps : List (String × Value)) {read : Reader α} :
    field "children" [] (list read) (Placed.fields id visible k (("children", .list vs) :: ps)) =
      (items read 0 vs).inField "children" := by
  simp [Placed.fields, Block.write.head, list]

@[simp] theorem fields_items (vs : List Value) (ps : List (String × Value)) {read : Reader α} :
    field "items" [] (list read) (Placed.fields id visible k (("items", .list vs) :: ps)) =
      (items read 0 vs).inField "items" := by
  simp [Placed.fields, Block.write.head, list]

@[simp] theorem fields_marker (vs : Value) (marker : ListMarker) :
    field "list_type" .unordered Named.read (Placed.fields id visible k
      [("items", vs), ("list_type", Named.write marker)]) = .ok marker := by
  simp [Placed.fields, Block.write.head]

theorem readFields_fields {read : Fields → Checked α} {ps : List (String × Value)} {a : α}
    (back : read (Placed.fields id visible k ps) = .ok a) :
    Placed.readFields k read (Placed.fields id visible k ps) = .ok ⟨id, visible, a⟩ := by
  simp [Placed.readFields, back]

theorem read_write {read : Fields → Checked α} {write : α → List (String × Value)}
    (back : ∀ id visible a, read (Placed.fields id visible k (write a)) = .ok a) (p : Placed α) :
    Placed.read k read (Placed.write k write p) = .ok p :=
  readFields_fields (back p.id p.visible p.content)

end Placed

namespace Element

@[simp] theorem Badge.member_read_write (p : Placed Badge) :
    Placed.read .badge Badge.readFields (Placed.write .badge Badge.writeFields p) = .ok p :=
  Placed.read_write (fun _ _ => Badge.read_write) p

@[simp] theorem Stat.member_read_write (p : Placed Stat) :
    Placed.read .stat Stat.readFields (Placed.write .stat Stat.writeFields p) = .ok p :=
  Placed.read_write (fun _ _ => Stat.read_write) p

@[simp] theorem Social.member_read_write (p : Placed Social) :
    Placed.read .social Social.readFields (Placed.write .social Social.writeFields p) = .ok p :=
  Placed.read_write (fun _ _ => Social.read_write) p

@[simp] theorem BadgeGroup.read_write (r : BadgeGroup) :
    BadgeGroup.readFields (Placed.fields id visible k r.writeFields) = .ok r := by
  simp [BadgeGroup.readFields, BadgeGroup.writeFields, Placed.fields, Block.write.head]

@[simp] theorem StatGroup.read_write (r : StatGroup) :
    StatGroup.readFields (Placed.fields id visible k r.writeFields) = .ok r := by
  simp [StatGroup.readFields, StatGroup.writeFields, Placed.fields, Block.write.head]

@[simp] theorem SocialGroup.read_write (r : SocialGroup) :
    SocialGroup.readFields (Placed.fields id visible k r.writeFields) = .ok r := by
  simp [SocialGroup.readFields, SocialGroup.writeFields, Placed.fields, Block.write.head]

/-- The reader of an element's kind gives the element back. -/
theorem read_write (e : Element) (id : String) (visible : Bool) :
    ∃ read, Element.reader? e.kind = some read ∧
      read (Placed.fields id visible e.kind e.writeFields) = .ok e := by
  cases e <;> exact ⟨_, rfl, by simp [writeFields]⟩

end Element

/-! ## Layouts -/

namespace Layout

theorem element_reader? (l : Layout) : Element.reader? l.kind = none := by
  cases l <;> rfl

/-- The reader of a layout's kind gives the layout back, whatever stands in the stack. -/
theorem read_write (l : Layout) (id : String) (visible : Bool) (children : Value) :
    ∃ read, Layout.reader? l.kind = some read ∧
      read (Placed.fields id visible l.kind (("children", children) :: l.writeFields)) =
        .ok l := by
  cases l <;>
    exact ⟨_, rfl, by simp [kind, writeFields, Placed.fields, Block.write.head]⟩

end Layout

/-! ## Trees -/

theorem Value.depth_le_fieldsDepth : ∀ {fs : Fields} {f : Key × Value}, f ∈ fs →
    f.2.depth ≤ Value.depth.fieldsDepth fs
  | (k, w) :: fs, f, h => by
    rw [Value.depth.fieldsDepth]
    rcases List.mem_cons.1 h with rfl | h
    · exact Nat.le_max_left ..
    · exact Nat.le_trans (depth_le_fieldsDepth h) (Nat.le_max_right ..)

/-- A value in an object is less deep than the object. -/
theorem Value.depth_lt_obj (name : String) {ps : List (String × Value)} {v : Value}
    (h : (name, v) ∈ ps) : v.depth < (Value.obj ps).depth := by
  have inside := depth_le_fieldsDepth (List.mem_map_of_mem (f := fun (k, v) => (Key.name k, v)) h)
  rw [Value.obj, Value.depth]
  exact Nat.lt_succ_of_le inside

/-- A list in an object is less deep than the room for the object, less one for the list. -/
theorem Value.listDepth_le_of_obj (name : String) {ps : List (String × Value)} {vs : List Value}
    {room : Nat} (h : (name, .list vs) ∈ ps) (fits : (Value.obj ps).depth ≤ room + 1) :
    Value.depth.listDepth vs ≤ room := by
  have list := depth_lt_obj name h
  rw [Value.depth] at list
  omega

namespace Block

theorem writeAll_eq_map : ∀ bs : List Block, Block.writeAll bs = bs.map Block.write
  | [] => rfl
  | b :: bs => by rw [Block.writeAll, writeAll_eq_map bs]; rfl

theorem tagged_fields (ps : List (String × Value)) :
    tagged (.object (Placed.fields id visible k ps)) = .ok (k, Placed.fields id visible k ps) := by
  simp [tagged, Placed.fields, write.head, Fields.find?, Named.write, Named.Lawful.find?_name]

/-- A block is read by the kind that it is written with. -/
theorem readWithin_fields (ps : List (String × Value)) {room : Nat} {b : Block}
    (h : (Value.object (Placed.fields id visible k ps)).depth ≤ room)
    (back : ∀ inner, room = inner + 1 →
      readFields (Block.readWithin inner) (Item.readWithin inner) k
        (Placed.fields id visible k ps) = .ok b) :
    Block.readWithin room (.object (Placed.fields id visible k ps)) = .ok b := by
  cases room with
  | zero => exact absurd h (Nat.not_succ_le_zero _)  -- an object needs some room itself
  | succ inner =>
    rw [Block.readWithin, readTagged, tagged_fields]
    dsimp only
    rw [back inner rfl]
    rfl

end Block

namespace Item

theorem writeAll_eq_map : ∀ items : List Item, Item.writeAll items = items.map Item.write
  | [] => rfl
  | i :: is => by rw [Item.writeAll, writeAll_eq_map is]; rfl

/-- A written block does not pass for a text. -/
theorem readContent_write {block : Reader Block} {b : Block} (back : block b.write = .ok b) :
    readContent block b.write = .ok (.inr b) := by
  have fault : Reader.text b.write = .fail .notText := by cases b <;> rfl
  unfold readContent
  rw [fault, back]
  rfl

/-- An item is read from its parts. -/
theorem readWithin_obj {room : Nat} {content : Value} {icon : Option String} {nested : List Item}
    {c : String ⊕ Block} (h : (Value.obj [("content", content), ("icon", .optional .text icon),
      ("nested", .list (Item.writeAll nested))]).depth ≤ room)
    (hcontent : ∀ inner, room = inner + 1 →
      readContent (Block.readWithin inner) content = .ok c)
    (hnested : ∀ inner, room = inner + 1 →
      list (Item.readWithin inner) (.list (Item.writeAll nested)) = .ok nested) :
    Item.readWithin room (.obj [("content", content), ("icon", .optional .text icon),
      ("nested", .list (Item.writeAll nested))]) = .ok (ofContent c icon nested) := by
  cases room with
  | zero => exact absurd h (Nat.not_succ_le_zero _)
  | succ inner =>
    simp [Item.readWithin, readFields, hcontent inner rfl, hnested inner rfl]

end Item

mutual

/-- Written blocks are read back with any room that their nesting fits into. -/
theorem Block.readWithin_write : ∀ (b : Block) (room : Nat), b.write.depth ≤ room →
    Block.readWithin room b.write = .ok b
  | .element id visible e, room, h => by
    obtain ⟨read, hread, back⟩ := e.read_write id visible
    refine Block.readWithin_fields e.writeFields h fun inner _ => ?_
    simp only [Block.readFields, hread]
    rw [Placed.readFields_fields back]
    rfl
  | .stack id visible layout children, room, h => by
    obtain ⟨read, hread, back⟩ :=
      layout.read_write id visible (.list (Block.writeAll children))
    refine Block.readWithin_fields _ h fun inner hroom => ?_
    have hchildren := Block.items_writeAll children inner 0
      (Value.listDepth_le_of_obj "children" (by simp) (hroom ▸ h))
    simp only [Block.readFields, layout.element_reader?, hread, back]
    simp [hchildren]
  | .list id visible marker items, room, h => by
    refine Block.readWithin_fields _ h fun inner hroom => ?_
    have hitems := Item.items_writeAll items inner 0
      (Value.listDepth_le_of_obj "items" (by simp) (hroom ▸ h))
    simp [Block.readFields, Element.reader?, Layout.reader?, hitems]

theorem Block.items_writeAll : ∀ (bs : List Block) (room n : Nat),
    Value.depth.listDepth (Block.writeAll bs) ≤ room →
      items (Block.readWithin room) n (Block.writeAll bs) = .ok bs
  | [], _, _, _ => rfl
  | b :: bs, room, n, h => by
    rw [Block.writeAll, Value.depth.listDepth, Nat.max_le] at h
    rw [Block.writeAll, items, Block.readWithin_write b room h.1,
      Block.items_writeAll bs room (n + 1) h.2]
    rfl

theorem Item.readWithin_write : ∀ (i : Item) (room : Nat), i.write.depth ≤ room →
    Item.readWithin room i.write = .ok i
  | .text content icon nested, room, h => by
    refine Item.readWithin_obj (c := .inl content) h (fun _ _ => rfl) fun inner hroom => ?_
    exact Item.items_writeAll nested inner 0
      (Value.listDepth_le_of_obj "nested" (by simp) (hroom ▸ h))
  | .block content icon nested, room, h => by
    refine Item.readWithin_obj (c := .inr content) h (fun inner hroom => ?_) fun inner hroom => ?_
    · have deep := Nat.lt_of_lt_of_le
        (Value.depth_lt_obj "content" (List.mem_cons_self ..)) h
      exact Item.readContent_write (Block.readWithin_write content inner (by omega))
    · exact Item.items_writeAll nested inner 0
        (Value.listDepth_le_of_obj "nested" (by simp) (hroom ▸ h))

theorem Item.items_writeAll : ∀ (is : List Item) (room n : Nat),
    Value.depth.listDepth (Item.writeAll is) ≤ room →
      items (Item.readWithin room) n (Item.writeAll is) = .ok is
  | [], _, _, _ => rfl
  | i :: is, room, n, h => by
    rw [Item.writeAll, Value.depth.listDepth, Nat.max_le] at h
    rw [Item.writeAll, items, Item.readWithin_write i room h.1,
      Item.items_writeAll is room (n + 1) h.2]
    rfl

end

/-- Every block, of any kind and nested as deep as it is, is read back from what is written of
it. -/
@[simp] theorem Block.read_write (b : Block) : Block.read b.write = .ok b :=
  Block.readWithin_write b _ (Nat.le_refl _)

end ProfileReadme
