/-
What blocks may hold, kind by kind, and that the usual builders make no others. The table lists
names, words and bounds as such: it does not refer to the types of the blocks, nor to how those are
written or what they are made from.
-/
import ProfileReadme.Proofs.Block.Labels
import ProfileReadme.Proofs.Block.Written
import ProfileReadme.Proofs.Render.Built
import ProfileReadme.Proofs.Schema.Shape

namespace ProfileReadme

/-! ## Kinds -/

namespace BlockKind

def alignShape : Shape := .oneOf ["left", "center", "right"]

def gapShape : Shape := .oneOf ["sm", "md", "lg"]

/-- What a block of a kind may hold besides its id, its visibility and its kind. -/
def fields : BlockKind → List (String × Shape)
  | .text =>
    [("value", .text), ("emphasis", .oneOf ["normal", "bold", "italic", "code", "strikethrough"]),
      ("align", .optional alignShape)]
  | .heading =>
    [("value", .text), ("level", .whole (some 1) (some 6)), ("align", .optional alignShape)]
  | .paragraph => [("children", .list (.ref "block")), ("align", .optional alignShape)]
  | .code => [("value", .text), ("language", .optional .text), ("inline", .flag)]
  | .quote => [("value", .text), ("author", .optional .text), ("source", .optional .text)]
  | .image =>
    [("src", .text), ("alt", .text), ("width", .optional .int), ("height", .optional .int),
      ("size", .optional (.oneOf ["xs", "sm", "md", "lg", "xl", "full", "auto"])),
      ("align", .optional alignShape), ("is_animated", .flag), ("link", .optional .text)]
  | .link => [("href", .text), ("text", .text), ("title", .optional .text), ("external", .flag)]
  | .badge =>
    [("label", .text), ("message", .optional .text), ("color", .text),
      ("label_color", .optional .text), ("logo", .optional .text), ("logo_color", .optional .text),
      ("style", .oneOf ["flat", "flat-square", "plastic", "for-the-badge", "social"]),
      ("link", .optional .text)]
  | .badgeGroup =>
    [("children", .list (.ref "badge")), ("align", alignShape), ("gap", gapShape)]
  | .list =>
    [("items", .list (.ref "item")), ("list_type", .oneOf ["unordered", "ordered", "none"])]
  | .spacer => [("height", .oneOf ["xs", "sm", "md", "lg", "xl"])]
  | .rule =>
    [("style", .oneOf ["solid", "dashed", "dotted", "gradient", "wave"]),
      ("width", .oneOf ["25%", "50%", "75%", "100%"])]
  | .row =>
    [("children", .list (.ref "block")), ("align", .oneOf ["start", "center", "end", "stretch"]),
      ("justify", .oneOf ["start", "center", "end", "between", "around"]), ("gap", gapShape),
      ("wrap", .flag)]
  | .column => [("children", .list (.ref "block")), ("span", .optional .int)]
  | .grid =>
    [("children", .list (.ref "block")), ("columns", .whole (some 1) none), ("gap", gapShape)]
  | .stat =>
    [("label", .text), ("value", .either [.text, .int, .real]), ("icon", .optional .text),
      ("color", .optional .text),
      ("format", .optional (.oneOf ["number", "percentage", "currency"]))]
  | .statGroup => [("children", .list (.ref "stat")), ("layout", .oneOf ["row", "grid"])]
  | .social =>
    [("platform", .text), ("url", .text), ("username", .optional .text),
      ("label", .optional .text), ("show_icon", .flag), ("show_label", .flag)]
  | .socialGroup =>
    [("children", .list (.ref "social-link")),
      ("style", .oneOf ["icons", "badges", "buttons", "pills"]), ("align", alignShape)]
  | .typing =>
    [("texts", .list .text), ("speed", .int), ("delete_speed", .int), ("pause_time", .int),
      ("loop", .flag)]
  | .statsCard =>
    [("username", .text),
      ("card_type", .oneOf ["stats", "top-langs", "streak", "trophies", "activity-graph",
        "profile-summary"]),
      ("theme", .text), ("show_icons", .flag), ("hide_border", .flag),
      ("include_all_commits", .flag), ("count_private", .flag)]
  | .graph => [("username", .text), ("theme", .text), ("show_legend", .flag)]
  | .card =>
    [("title", .text), ("subtitle", .optional .text), ("description", .optional .text),
      ("url", .optional .text), ("icon", .optional .text)]
  | .projectCard =>
    [("name", .text), ("description", .text), ("repo_url", .optional .text),
      ("demo_url", .optional .text), ("image_url", .optional .text), ("tech_stack", .list .text),
      ("stars", .optional .int), ("forks", .optional .int), ("featured", .flag)]
  | .position =>
    [("company", .text), ("role", .text), ("start_date", .text), ("end_date", .optional .text),
      ("location", .optional .text), ("description", .text), ("highlights", .list .text),
      ("technologies", .list .text)]
  | .study =>
    [("institution", .text), ("degree", .text), ("start_date", .text),
      ("end_date", .optional .text), ("field", .optional .text), ("gpa", .optional .text),
      ("honors", .list .text)]
  | .award =>
    [("title", .text), ("description", .optional .text), ("date", .optional .text),
      ("issuer", .optional .text), ("icon", .optional .text), ("url", .optional .text)]
  | .custom => [("custom_type", .text), ("content", .text), ("data", .object)]

/-- A block of a kind. -/
def shape (k : BlockKind) : Shape :=
  .record (("id", .text) :: ("visible", .flag) :: ("kind", .oneOf [Named.name k]) :: k.fields)

/-- An item of a list: a text or a block, with an icon and items below it. -/
def itemShape : Shape :=
  .record [("content", .either [.text, .ref "block"]), ("icon", .optional .text),
    ("nested", .list (.ref "item"))]

/-- The shapes that blocks refer to: those of all kinds by name, that of any block, and that of the
items of lists. -/
def shapes : List (String × Shape) :=
  ("block", .either (names.map .ref)) :: ("item", itemShape) ::
    (Named.all : List BlockKind).map fun k => (Named.name k, k.shape)

theorem lookup_shapes (k : BlockKind) : shapes.lookup (Named.name k) = some k.shape := by
  cases k <;> rfl

end BlockKind

open BlockKind (shapes)

/-- A block is as its kind allows. -/
def Block.Admitted (b : Block) : Prop :=
  Shape.Admits shapes b.kind.shape b.write

namespace Shape

/-- The name of a kind stands for blocks of the kind. -/
@[simp] theorem admits_kind {k : BlockKind} {v : Value} :
    Admits shapes (.ref (Named.name k)) v ↔ Admits shapes k.shape v :=
  admits_ref (BlockKind.lookup_shapes k)

/-- A block of any kind is a block. -/
theorem admits_block {k : BlockKind} {v : Value} (h : Admits shapes k.shape v) :
    Admits shapes (.ref "block") v := by
  have listed : (.ref (Named.name k) : Shape) ∈ BlockKind.names.map Shape.ref :=
    List.mem_map_of_mem (List.mem_map_of_mem (by cases k <;> decide))
  exact .ref rfl (.either listed (admits_kind.2 h))

theorem admits_shape {k : BlockKind} {id : String} {visible : Bool} {ps : List (String × Value)}
    (h : AdmitsAll shapes k.fields (ps.map fun (name, v) => (.name name, v))) :
    Admits shapes k.shape (.obj (Block.write.head id visible k ++ ps)) := by
  refine admits_record.2 (admitsAll_cons.2 ⟨.text id, admitsAll_cons.2 ⟨.flag visible, ?_⟩⟩)
  exact admitsAll_cons.2 ⟨.oneOf (List.mem_singleton_self _), h⟩

end Shape

/-! ## Elements -/

/-- A member of a group is as its kind allows. -/
theorem Placed.admitted (k : BlockKind) {write : α → List (String × Value)}
    (fields : ∀ a, Shape.AdmitsAll shapes k.fields ((write a).map fun (name, v) => (.name name, v)))
    (p : Placed α) : Shape.Admits shapes (.ref (Named.name k)) (p.write k write) :=
  Shape.admits_kind.2 (Shape.admits_shape (fields p.content))

@[simp] theorem Figure.admitted (f : Figure) :
    Shape.Admits shapes (.either [.text, .int, .real]) f.write := by
  cases f with
  | text s => exact .either (.head _) (.text s)
  | whole n => exact .either (.tail _ (.head _)) (Shape.admits_int n)
  | real x => exact .either (.tail _ (.tail _ (.head _))) (.real x)

namespace Element

theorem Badge.member_admitted (p : Placed Badge) :
    Shape.Admits shapes (.ref "badge") (p.write .badge Badge.writeFields) := by
  refine Placed.admitted .badge (fun r => ?_) p
  simp (disch := decide) [BlockKind.fields, writeFields]

theorem Stat.member_admitted (p : Placed Stat) :
    Shape.Admits shapes (.ref "stat") (p.write .stat Stat.writeFields) := by
  refine Placed.admitted .stat (fun r => ?_) p
  simp (disch := decide) [BlockKind.fields, writeFields]

theorem Social.member_admitted (p : Placed Social) :
    Shape.Admits shapes (.ref "social-link") (p.write .social Social.writeFields) := by
  refine Placed.admitted .social (fun r => ?_) p
  simp [BlockKind.fields, writeFields]

/-- The fields of an element are those of its kind, if settings of other content go by names. -/
theorem admitted_fields {e : Element} (h : e.IsBuilt) :
    Shape.AdmitsAll shapes e.kind.fields (e.writeFields.map fun (name, v) => (.name name, v)) := by
  cases e with
  -- the settings are the only part that takes more than its type to be admitted
  | custom e =>
    have data : Shape.Admits shapes .object (.object e.data) := .object h.keys
    simp [kind, BlockKind.fields, writeFields, Custom.writeFields, data]
  | _ =>
    simp (disch := decide) [kind, BlockKind.fields, BlockKind.alignShape, BlockKind.gapShape,
      writeFields, Phrase.writeFields, Heading.writeFields, Code.writeFields, Quote.writeFields,
      Image.writeFields, Link.writeFields, Badge.writeFields, Spacer.writeFields,
      Rule.writeFields, Stat.writeFields, Social.writeFields, Typing.writeFields,
      StatsCard.writeFields, Graph.writeFields, Card.writeFields, ProjectCard.writeFields,
      Position.writeFields, Study.writeFields, Award.writeFields, BadgeGroup.writeFields,
      StatGroup.writeFields, SocialGroup.writeFields, Badge.member_admitted,
      Stat.member_admitted, Social.member_admitted]

/-- What a group holds is built as well, whatever it is. -/
theorem members_isBuilt (e : Element) : ∀ b ∈ e.members,
    ∃ (id : String) (visible : Bool) (m : Element), m.IsBuilt ∧ b = .element id visible m := by
  intro b hb
  cases e with
  | badgeGroup g =>
    obtain ⟨p, -, rfl⟩ := List.mem_map.1 hb
    exact ⟨p.id, p.visible, .badge p.content, trivial, rfl⟩
  | statGroup g =>
    obtain ⟨p, -, rfl⟩ := List.mem_map.1 hb
    exact ⟨p.id, p.visible, .stat p.content, trivial, rfl⟩
  | socialGroup g =>
    obtain ⟨p, -, rfl⟩ := List.mem_map.1 hb
    exact ⟨p.id, p.visible, .social p.content, trivial, rfl⟩
  | _ => cases hb

end Element

/-! ## Trees -/

namespace Block

theorem element_admitted {e : Element} (h : e.IsBuilt) (id : String) (visible : Bool) :
    (Block.element id visible e).Admitted :=
  Shape.admits_shape (Element.admitted_fields h)

theorem stack_admitted (id : String) (visible : Bool) (layout : Layout) {children : List Block}
    (h : ∀ b ∈ children, b.Admitted) : (Block.stack id visible layout children).Admitted := by
  have blocks : Shape.Admits shapes (.list (.ref "block")) (.list (writeAll children)) := by
    rw [writeAll_eq_map, Shape.admits_list]
    exact fun b hb => Shape.admits_block (h b hb)
  refine Shape.admits_shape ?_
  cases layout <;>
    simp (disch := decide) [kind, Layout.kind, BlockKind.fields, BlockKind.alignShape,
      BlockKind.gapShape, Layout.writeFields, blocks]

theorem texts_admitted (id : String) (visible : Bool) (marker : ListMarker) (ss : List String)
    (icon : Option String) :
    (Block.list id visible marker (ss.map fun s => .text s icon [])).Admitted := by
  have item (s : String) : Shape.Admits shapes (.ref "item") (Item.text s icon []).write := by
    have content : Shape.Admits shapes (.either [.text, .ref "block"]) (.text s) :=
      .either (.head _) (.text s)
    have below : Shape.Admits shapes (.list (.ref "item")) (.list []) := .list nofun
    refine .ref rfl ?_
    simp [BlockKind.itemShape, Item.write, Item.writeAll, content, below]
  have items : Shape.Admits shapes (.list (.ref "item"))
      (.list (Item.writeAll (ss.map fun s => .text s icon []))) := by
    rw [Item.writeAll_eq_map, List.map_map, Shape.admits_list]
    exact fun s _ => item s
  refine Shape.admits_shape ?_
  simp (disch := decide) [kind, BlockKind.fields, items]

theorem self_mem_walk (b : Block) : b ∈ b.walk := by
  cases b <;> exact List.mem_cons_self

/-- Every block of a tree that builders make is as its kind allows. -/
theorem admitted_keptUp : Block.KeptUp fun b => ∀ b' ∈ b.walk, b'.Admitted where
  element id e h := by
    refine List.forall_mem_cons.2 ⟨element_admitted h id true, fun b hb => ?_⟩
    obtain ⟨id', visible, m, hm, rfl⟩ := e.members_isBuilt b hb
    exact element_admitted hm id' visible
  stack id layout children h := by
    refine List.forall_mem_cons.2 ⟨stack_admitted id true layout fun b hb => ?_, fun b hb => ?_⟩
    -- the walk of a child begins with the child itself
    · exact h b hb b (self_mem_walk b)
    · rw [walkAll_eq_flatMap] at hb
      obtain ⟨child, hchild, hb⟩ := List.mem_flatMap.1 hb
      exact h child hchild b hb
  texts id marker ss icon := by
    refine List.forall_mem_cons.2 ⟨texts_admitted id true marker ss icon, fun b hb => ?_⟩
    rw [Item.walkAll_texts] at hb
    cases hb

end Block

end ProfileReadme
