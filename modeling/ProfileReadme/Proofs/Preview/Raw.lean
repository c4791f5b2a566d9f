/-
What stands in a preview as markup of its own, without escapes: lines whose emphasis has become
tags, custom markup made safe, and the content of custom markdown, which is neither escaped nor
made safe. The raw texts of a drawn block are followed back to the parts that it shows.
-/
import ProfileReadme.Proofs.Preview.Shown
import ProfileReadme.Proofs.Schema.Rereading
import ProfileReadme.Proofs.Text.Emphasis

namespace ProfileReadme

open Preview Preview.Drawing

/-! ## Raw texts of a page -/

namespace Preview

mutual

/-- The texts of a tree that are not escaped on the way out. -/
def Node.rawTexts : Node → List String
  | .mk _ _ children raw => Child.rawTextsAll raw children

def Child.rawTextsAll (raw : Bool) : List Child → List String
  | [] => []
  | .text s :: rest => (if raw then [s] else []) ++ Child.rawTextsAll raw rest
  | .node n :: rest => n.rawTexts ++ Child.rawTextsAll raw rest

end

/-- The raw texts of a part, which may be absent. -/
def rawOf : Option Child → List String
  | some (.node n) => n.rawTexts
  | _ => []

@[simp] theorem rawOf_none : rawOf none = [] := rfl

@[simp] theorem rawOf_words (s : String) : rawOf (words s) = [] := rfl

@[simp] theorem rawOf_inside (n : Node) : rawOf (inside n) = n.rawTexts := rfl

@[simp] theorem rawOf_node (n : Node) : rawOf (some (.node n)) = n.rawTexts := rfl

/-- An element that is not raw shows no text of its own as markup. -/
@[simp] theorem rawTexts_element (tag : String) (attrs : List (String × Option String))
    (children : List (Option Child)) :
    (element tag attrs children false).rawTexts = children.flatMap rawOf := by
  show Child.rawTextsAll false (children.filterMap id) = _
  induction children with
  | nil => rfl
  | cons child rest ih =>
    rcases child with _ | s | n
    · exact ih
    · exact ih
    · exact congrArg (n.rawTexts ++ ·) ih

@[simp] theorem rawTexts_classed (tag cls s : String) : (classed tag cls s).rawTexts = [] := rfl

@[simp] theorem rawTexts_plain (tag s : String) : (plain tag s).rawTexts = [] := rfl

@[simp] theorem rawTexts_lazyImage (src alt : String) (cls : Option String) :
    (lazyImage src alt cls).rawTexts = [] := rfl

@[simp] theorem rawTexts_outerLink (href s : String) : (outerLink href s).rawTexts = [] := rfl

@[simp] theorem rawOf_part? (s : Option String) (draw : String → Node) :
    rawOf (part? s draw) = (Text.filled? s).toList.flatMap fun s => (draw s).rawTexts := by
  unfold part?
  cases Text.filled? s with
  | none => rfl
  | some s => exact (List.append_nil _).symm

@[simp] theorem rawOf_bullets (ss : List String) : rawOf (bullets ss) = [] := by
  unfold bullets
  split
  · rfl
  · simp

theorem rawOf_container (tag : String) (attrs : List (String × Option String))
    (nodes : List Node) :
    rawOf ((container tag attrs nodes).map Child.node) = nodes.flatMap Node.rawTexts := by
  unfold container
  split
  · rename_i empty
    rw [List.isEmpty_iff.1 empty]
    rfl
  · simp [List.flatMap_map]

/-- The raw texts of a drawing, which may show nothing. -/
def drawnRaw (node : Option Node) : List String := rawOf (node.map .node)

theorem elementOf_rawTexts {tag : String} {attrs : List (String × Value)} {n : Node}
    (h : elementOf tag attrs [] false = .ok n) : n.rawTexts = [] := by
  obtain ⟨named, -, rfl⟩ := Checked.map_eq_ok h
  rfl

/-- A card is an image or a skeleton, and neither holds a text. -/
theorem card_rawTexts (src alt : Value) (type : String) :
    (card src alt type).Returns fun n => n.rawTexts = [] := by
  unfold card
  dsimp only
  split
  · exact (returns_throw (p := fun _ => False) _).bind fun _ never => never.elim
  · refine Returns.after fun status => ?_
    split
    · rename_i n hn
      refine returns_pure ?_
      split at hn <;> exact elementOf_rawTexts hn
    · exact returns_throw _

/-- Members that hold no markup make a group that holds none. -/
theorem drawMembers_rawTexts {draw : α → Drawing Node}
    (bare : ∀ a, (draw a).Returns fun n => n.rawTexts = []) (members : List (Placed α)) :
    (drawMembers draw members).Returns fun nodes => nodes.flatMap Node.rawTexts = [] := by
  have each : (drawMembers draw members).Returns
      (List.Forall₂ (fun _ n => n.rawTexts = []) (members.filter (·.visible))) :=
    Returns.mapM fun p _ => bare p.content
  refine each.mono fun nodes h => ?_
  generalize members.filter (·.visible) = drawn at h
  induction h with
  | nil => rfl
  | cons bare _ ih => rw [List.flatMap_cons, bare, ih]; rfl

end Preview

/-! ## Elements -/

/-- A part of a block that stands in the preview as markup of its own. -/
inductive RawPart where
  | line (e : Emphasis) (s : String)
  | markup (content : String)
  | markdown (content : String)
deriving DecidableEq

/-- The text as which a part stands in the preview. -/
def RawPart.Stands : RawPart → String → Prop
  | .line e s, t => t = Inline.wrap e (Inline.html s)
  | .markup content, t => Markup.sanitize content = .ok t
  | .markdown content, t => t = content

namespace Element

/-- What a custom block shows as markup: by its type, unless it is an image. -/
def Custom.rawPart? (b : Custom) : Option RawPart :=
  if (b.setting? "image_url").isSome || b.content.isEmpty then none
  else if b.customType = "markdown" then some (.markdown b.content)
  else if b.customType = "html" then some (.markup b.content)
  else none

def Phrase.rawPart? (p : Phrase) : Option RawPart :=
  if p.value.isEmpty then none else some (.line p.emphasis p.value)

def Heading.rawPart? (h : Heading) : Option RawPart :=
  if h.value.isEmpty then none else some (.line .normal h.value)

def rawPart? : Element → Option RawPart
  | .text e => e.rawPart?
  | .heading e => e.rawPart?
  | .custom e => e.rawPart?
  | _ => none

theorem Image.draw_rawTexts (c : Context) (i : Image) :
    (i.draw c).Returns fun n => n.rawTexts = [] := by
  unfold Image.draw
  refine Returns.after fun src => ?_
  dsimp only
  split
  · exact Returns.after fun href => returns_pure (by simp)
  · exact returns_pure (by simp)

theorem Badge.draw_rawTexts (c : Context) (b : Badge) :
    (b.draw c).Returns fun n => n.rawTexts = [] := by
  unfold Badge.draw
  dsimp only
  split
  · exact Returns.after fun href => returns_pure (by simp)
  · exact returns_pure (by simp)

theorem Stat.draw_rawTexts (s : Stat) : s.draw.rawTexts = [] := by
  simp [Stat.draw]

theorem Social.draw_rawTexts (c : Context) (s : Social) :
    (s.draw c).Returns fun n => n.rawTexts = [] := by
  unfold Social.draw
  refine Returns.after fun href => returns_pure ?_
  split <;> simp

theorem optionalLink_rawOf (c : Context) (url : Option String) (s : String) :
    (optionalLink c url s).Returns fun link => rawOf link = [] := by
  unfold optionalLink
  split
  · exact Returns.after fun href => returns_pure (by simp)
  · exact returns_pure rfl

theorem Card.draw_rawTexts (c : Context) (k : Card) :
    (k.draw c).Returns fun n => n.rawTexts = [] := by
  unfold Card.draw
  exact (optionalLink_rawOf c k.url _).bind fun link h => returns_pure (by simp [h])

theorem Award.draw_rawTexts (c : Context) (a : Award) :
    (a.draw c).Returns fun n => n.rawTexts = [] := by
  unfold Award.draw
  dsimp only
  split
  · exact Returns.after fun href => returns_pure (by simp)
  · exact returns_pure (by simp)

theorem ProjectCard.draw_rawTexts (p : ProjectCard) : p.draw.rawTexts = [] := by
  simp [ProjectCard.draw, rawOf_container, List.flatMap_map, -List.map_take]

theorem Position.draw_rawTexts (p : Position) : p.draw.rawTexts = [] := by
  simp only [Position.draw, rawTexts_element, List.flatMap_cons, List.flatMap_nil, rawOf_inside,
    rawTexts_classed, rawOf_part?, rawTexts_plain, rawOf_bullets, List.nil_append]
  split <;> simp

theorem Study.draw_rawTexts (s : Study) : s.draw.rawTexts = [] := by
  simp [Study.draw]

theorem Code.draw_rawTexts (k : Code) : k.draw.rawTexts = [] := by
  unfold Code.draw
  dsimp only
  split <;> simp

theorem Quote.draw_rawTexts (q : Quote) : q.draw.rawTexts = [] := by
  simp [Quote.draw]

theorem Typing.draw_raw (t : Typing) : drawnRaw t.draw = [] := by
  unfold Typing.draw
  split
  · rfl
  · simp [drawnRaw]

/-- The texts of a drawing stand for parts, one for one. -/
def Drawn (parts : List RawPart) (node : Option Node) : Prop :=
  List.Forall₂ RawPart.Stands parts (drawnRaw node)

theorem drawn_nil {node : Option Node} (h : drawnRaw node = []) : Drawn [] node := by
  unfold Drawn
  rw [h]
  exact .nil

theorem returns_bare {x : Drawing Node} (h : x.Returns fun n => n.rawTexts = []) :
    (some <$> x).Returns (Drawn []) :=
  h.map fun _ bare => drawn_nil bare

theorem Phrase.draw_raw (p : Phrase) : Drawn p.rawPart?.toList p.draw := by
  unfold Phrase.draw Phrase.rawPart?
  cases p.value.isEmpty with
  | true => exact .nil
  | false => exact .cons rfl .nil

theorem Heading.draw_raw (h : Heading) : Drawn h.rawPart?.toList h.draw := by
  unfold Heading.draw Heading.rawPart?
  cases h.value.isEmpty with
  | true => exact .nil
  | false => exact .cons rfl .nil

/-- Custom markdown stands as it is; other markup only after it was made safe. -/
theorem Custom.draw_raw (b : Custom) : b.draw.Returns (Drawn b.rawPart?.toList) := by
  unfold Custom.draw Custom.rawPart?
  cases b.setting? "image_url" with
  | some src => exact returns_bare (card_rawTexts _ _ _)
  | none =>
    cases b.content.isEmpty with
    | true => exact returns_pure .nil
    | false =>
      simp only [Option.isSome_none, Bool.or_self, Bool.false_eq_true, if_false]
      split
      · exact returns_pure (.cons rfl .nil)
      · split
        · cases safe : Markup.sanitize b.content with
          | ok t => exact returns_pure (.cons safe .nil)
          | error rejection =>
            exact (returns_throw (p := fun _ => False) _).bind fun _ never => never.elim
        · exact returns_pure .nil

theorem draw_raw (c : Context) (e : Element) : (e.draw c).Returns (Drawn e.rawPart?.toList) := by
  cases e with
  | text e => exact returns_pure e.draw_raw
  | heading e => exact returns_pure e.draw_raw
  | custom e => exact e.draw_raw
  | code e => exact returns_pure (drawn_nil e.draw_rawTexts)
  | quote e => exact returns_pure (drawn_nil e.draw_rawTexts)
  | image e => exact returns_bare (e.draw_rawTexts c)
  | link e => exact returns_bare (Returns.after fun href => returns_pure (by simp))
  | badge e => exact returns_bare (e.draw_rawTexts c)
  | spacer e => exact returns_pure .nil
  | rule e => exact returns_pure .nil
  | stat e => exact returns_pure (drawn_nil e.draw_rawTexts)
  | social e => exact returns_bare (e.draw_rawTexts c)
  | typing e => exact returns_pure (drawn_nil e.draw_raw)
  | statsCard e => exact returns_bare (card_rawTexts _ _ _)
  | graph e => exact returns_bare (card_rawTexts _ _ _)
  | card e => exact returns_bare (e.draw_rawTexts c)
  | projectCard e => exact returns_pure (drawn_nil e.draw_rawTexts)
  | position e => exact returns_pure (drawn_nil e.draw_rawTexts)
  | study e => exact returns_pure (drawn_nil e.draw_rawTexts)
  | award e => exact returns_bare (e.draw_rawTexts c)
  | badgeGroup e =>
    refine (drawMembers_rawTexts (Badge.draw_rawTexts c) e.members).bind fun nodes bare => ?_
    exact returns_pure (drawn_nil ((rawOf_container ..).trans bare))
  | statGroup e =>
    refine (drawMembers_rawTexts (fun s => returns_pure s.draw_rawTexts) e.members).bind
      fun nodes bare => ?_
    exact returns_pure (drawn_nil ((rawOf_container ..).trans bare))
  | socialGroup e =>
    refine (drawMembers_rawTexts (Social.draw_rawTexts c) e.members).bind fun nodes bare => ?_
    exact returns_pure (drawn_nil ((rawOf_container ..).trans bare))

end Element

/-! ## Blocks -/

mutual

/-- The parts of a block that stand in the preview as markup, in the order in which they stand. -/
def Block.rawParts : Block → List RawPart
  | .element _ visible content => if visible then content.rawPart?.toList else []
  | .stack _ visible _ children => if visible then Block.allRawParts children else []
  | .list _ visible _ items => if visible then Item.allRawParts items else []

def Block.allRawParts : List Block → List RawPart
  | [] => []
  | b :: bs => b.rawParts ++ Block.allRawParts bs

/-- What is nested in an item shows only with the item. -/
def Item.allRawParts : List Item → List RawPart
  | [] => []
  | .text content _ nested :: rest =>
    (if content.isEmpty then [] else .line .normal content :: Item.allRawParts nested) ++
      Item.allRawParts rest
  | .block content _ nested :: rest =>
    (if content.shows Element.isDrawn then content.rawParts ++ Item.allRawParts nested else []) ++
      Item.allRawParts rest

end

/-- Nodes whose texts stand for parts, one for one. -/
def AllDrawn (parts : List RawPart) (nodes : List Node) : Prop :=
  List.Forall₂ RawPart.Stands parts (nodes.flatMap Node.rawTexts)

theorem arrange_raw (layout : Layout) (nodes : List Node) :
    drawnRaw (arrange layout nodes) = nodes.flatMap Node.rawTexts := by
  cases layout <;> exact rawOf_container ..

theorem listOf_raw (marker : ListMarker) (nodes : List Node) :
    drawnRaw (listOf marker nodes) = nodes.flatMap Node.rawTexts := by
  cases marker <;> exact rawOf_container ..

theorem entry_text_raw (icon : Option String) (s : String) (nested : Option Node) :
    (entry icon (.text s) nested true).rawTexts = s :: drawnRaw nested := by
  unfold entry part?
  cases Text.filled? icon <;> cases nested <;>
    simp [Node.rawTexts, element, Child.rawTextsAll, drawnRaw]

theorem entry_node_raw (icon : Option String) (n : Node) (nested : Option Node) :
    (entry icon (.node n) nested false).rawTexts = n.rawTexts ++ drawnRaw nested := by
  simp [entry, drawnRaw]

mutual

theorem Block.drawTree_raw (c : Context) : ∀ b : Block,
    (b.drawTree c).Returns (Element.Drawn b.rawParts)
  | .element _ visible content => by
    unfold Block.drawTree Block.rawParts
    cases visible with
    | false => exact returns_pure .nil
    | true => exact content.draw_raw c
  | .stack _ visible layout children => by
    unfold Block.drawTree Block.rawParts
    cases visible with
    | false => exact returns_pure .nil
    | true =>
      refine (Block.drawAll_raw c children).bind fun nodes h => returns_pure ?_
      unfold Element.Drawn
      rwa [arrange_raw]
  | .list _ visible marker items => by
    unfold Block.drawTree Block.rawParts
    cases visible with
    | false => exact returns_pure .nil
    | true =>
      refine (Item.drawAll_raw c marker items).bind fun nodes h => returns_pure ?_
      unfold Element.Drawn
      rwa [listOf_raw]

theorem Block.drawAll_raw (c : Context) : ∀ bs : List Block,
    (Block.drawAll c bs).Returns (AllDrawn (Block.allRawParts bs))
  | [] => by unfold Block.drawAll Block.allRawParts; exact returns_pure .nil
  | b :: bs => by
    unfold Block.drawAll Block.allRawParts
    refine (Block.drawTree_raw c b).bind fun node hb => ?_
    refine (Block.drawAll_raw c bs).bind fun nodes hbs => returns_pure ?_
    cases node with
    | none => exact List.rel_append hb hbs
    | some n => exact List.rel_append hb hbs

theorem Item.drawAll_raw (c : Context) (marker : ListMarker) : ∀ items : List Item,
    (Item.drawAll c marker items).Returns (AllDrawn (Item.allRawParts items))
  | [] => by unfold Item.drawAll Item.allRawParts; exact returns_pure .nil
  | .text content icon nested :: rest => by
    unfold Item.drawAll Item.allRawParts
    refine (Item.drawAll_raw c marker nested).bind fun below hbelow => ?_
    refine (Item.drawAll_raw c marker rest).bind fun nodes hnodes => ?_
    cases content.isEmpty with
    | true => exact returns_pure hnodes
    | false =>
      refine returns_pure (List.rel_append ?_ hnodes)
      rw [entry_text_raw, listOf_raw]
      exact .cons rfl hbelow
  | .block content icon nested :: rest => by
    unfold Item.drawAll Item.allRawParts
    refine (Item.drawAll_raw c marker nested).bind fun below hbelow => ?_
    refine ((Block.drawTree_raw c content).and (Block.drawTree_isSome c content)).bind
      fun node hnode => ?_
    refine (Item.drawAll_raw c marker rest).bind fun nodes hnodes => ?_
    -- an item is drawn with its block or not at all, whatever is nested in it
    rw [← hnode.2]
    cases node with
    | none => exact returns_pure hnodes
    | some n =>
      refine returns_pure (List.rel_append ?_ hnodes)
      rw [entry_node_raw, listOf_raw]
      exact List.rel_append hnode.1 hbelow

end

/-- Markup that a block makes of its texts: an escaped line with the tags of its emphasis, or what
is left of custom markup when it is made safe. -/
def Block.Guards (b : Block) (s : String) : Prop :=
  (∃ e line, s = Inline.wrap e (Inline.html line)) ∨
    ∃ content, .markup content ∈ b.rawParts ∧ Markup.sanitize content = .ok s

/-- The raw texts of a drawn block stand for its raw parts, one for one and in order: a line as its
escaped text with the tags of its emphasis, custom markup as it is made safe, and custom markdown
as it is. So a raw text is guarded unless it is the content of custom markdown. -/
theorem Block.draw_guarded (c : Context) (hc : c.asMarkdown = false) (b : Block) {t t' : Tracker}
    {node : Option Node} (h : (b.draw c).run t = (.ok node, t')) :
    List.Forall₂ RawPart.Stands b.rawParts (drawnRaw node) ∧
      ∀ s ∈ drawnRaw node, b.Guards s ∨ .markdown s ∈ b.rawParts := by
  have drawn : List.Forall₂ RawPart.Stands b.rawParts (drawnRaw node) := by
    unfold Block.draw at h
    rw [hc, if_neg Bool.false_ne_true] at h
    exact (Block.drawTree_raw c b).of_run h
  refine ⟨drawn, fun s hs => ?_⟩
  -- the part that a raw text stands for is the one in its place
  obtain ⟨i, hi, rfl⟩ := List.getElem_of_mem hs
  have hparts : i < b.rawParts.length := drawn.length_eq ▸ hi
  have hpart : b.rawParts.get ⟨i, hparts⟩ ∈ b.rawParts := List.get_mem ..
  have stands := drawn.get hparts hi
  cases part : b.rawParts.get ⟨i, hparts⟩ with
  | line e line =>
    rw [part] at stands
    exact .inl (.inl ⟨e, line, stands⟩)
  | markup content =>
    rw [part] at stands hpart
    exact .inl (.inr ⟨content, hpart, stands⟩)
  | markdown content =>
    rw [part] at stands hpart
    cases stands
    exact .inr hpart

/-- A phrase over custom markdown, each with a tag in its text. -/
def tagRow : Block :=
  .stack "r" true (.column none)
    [.element "t" true (.text { value := "<b> *c*", emphasis := .bold }),
      .element "m" true (.custom { customType := "markdown", content := "<b>" })]

theorem tagRow_raw : ∃ (node : Option Node) (t' : Tracker),
    (tagRow.draw {}).run {} = (.ok node, t') ∧
      drawnRaw node = ["<strong>&lt;b&gt; <em>c</em></strong>", "<b>"] ∧
      List.Forall₂ RawPart.Stands [.line .bold "<b> *c*", .markdown "<b>"] (drawnRaw node) := by
  have h : (tagRow.draw {}).run {} = (.ok _, _) := rfl
  exact ⟨_, _, h, by decide +kernel, (Block.draw_guarded {} rfl tagRow h).1⟩

/-- Custom markdown that is an image with a handler of its own. -/
def hostileMarkdown : String := "<img src=x onerror=alert(1)>"

/-- Custom markdown stands in the preview as it is: it is no escaped line, and made safe it would
be another text. -/
theorem markdown_unguarded : ∃ (node : Node) (t' : Tracker),
    ((Block.element "c" true
      (.custom { customType := "markdown", content := hostileMarkdown })).draw {}).run {} =
        (.ok (some node), t') ∧
      node.rawTexts = [hostileMarkdown] ∧
      node.html = "<div class=\"custom custom-markdown\"><img src=x onerror=alert(1)></div>" ∧
      ¬ ((∃ e line, hostileMarkdown = Inline.wrap e (Inline.html line)) ∨
        Markup.sanitize hostileMarkdown = .ok hostileMarkdown) := by
  refine ⟨_, _, rfl, rfl, by decide +kernel, ?_⟩
  rintro (⟨e, line, same⟩ | kept)
  · have second := Inline.wrap_html_opening e line (congrArg String.toList same.symm)
    exact absurd second (by decide)
  · have cleaned : (Markup.sanitize hostileMarkdown).toOption = some "<img src=\"x\"/>" := by
      decide +kernel
    rw [kept] at cleaned
    exact absurd cleaned (by decide)

end ProfileReadme
