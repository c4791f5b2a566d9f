/-
The titles of sections stand out in a preview: no block is drawn as an `h2` with the class of a
section title, not even a heading of the second level.
-/
import ProfileReadme.Proofs.Preview.Drawing

namespace ProfileReadme

open Preview Preview.Drawing

/-- Whether an element is the title of a section. -/
def Preview.Node.isSectionTitle (n : Node) : Bool :=
  n.tag == "h2" && n.attrs.contains ("class", "section-title")

/-- A node that may be drawn, and is no title if it is. -/
def Preview.Untitled (node : Option Node) : Prop := ∀ n ∈ node, n.isSectionTitle = false

theorem Preview.isSectionTitle_of_tag {n : Node} (h : n.tag ≠ "h2") : n.isSectionTitle = false := by
  unfold Node.isSectionTitle
  rw [beq_false_of_ne h, Bool.false_and]

namespace Preview

theorem untitled_none : Untitled none := fun n hn => by cases hn

theorem untitled_some {n : Node} (h : n.tag ≠ "h2") : Untitled (some n) := by
  rintro m ⟨⟩
  exact isSectionTitle_of_tag h

theorem untitled_tag (tag : String) {n : Node} (hn : n.tag = tag) (h : tag ≠ "h2") :
    Untitled (some n) := untitled_some (hn ▸ h)

theorem container_untitled {tag : String} (h : tag ≠ "h2") (attrs : List (String × Option String))
    (nodes : List Node) : Untitled (container tag attrs nodes) := by
  unfold container
  split
  · exact untitled_none
  · exact untitled_some h

theorem elementOf_tag {tag : String} {attrs : List (String × Value)}
    {children : List (Option Child)} {raw : Bool} {n : Node}
    (h : elementOf tag attrs children raw = .ok n) : n.tag = tag := by
  unfold elementOf at h
  dsimp only at h
  generalize Checked.inField _ _ = read at h
  cases read with
  | ok attrs => cases h; rfl
  | bad issues => cases h

/-- The image of a card is an image, or a box in its place. -/
theorem card_tag (src alt : Value) (type : String) :
    (card src alt type).Returns fun n => n.tag = "img" ∨ n.tag = "div" := by
  unfold card
  dsimp only
  split
  · exact (returns_throw (p := fun _ => False) _).bind fun _ never => never.elim
  · refine Returns.after fun status => ?_
    split
    · rename_i n hn
      refine returns_pure ?_
      split at hn
      · exact .inl (elementOf_tag hn)
      · exact .inr (elementOf_tag hn)
    · exact returns_throw _

theorem card_untitled (src alt : Value) (type : String) :
    (some <$> card src alt type).Returns Untitled :=
  (card_tag src alt type).map fun n h =>
    untitled_some (by rcases h with h | h <;> rw [h] <;> decide)

/-- A drawing of one node of a tag that no title has. -/
theorem returns_untitled {x : Drawing Node} (tag : String) (h : tag ≠ "h2")
    (hx : x.Returns fun n => n.tag = tag) : (some <$> x).Returns Untitled :=
  hx.map fun n hn => untitled_some (by rwa [hn])

theorem drawMembers_untitled {draw : α → Drawing Node} {members : List (Placed α)}
    (attrs : List (String × Option String)) :
    (do return container "div" attrs (← drawMembers draw members)).Returns Untitled :=
  Returns.after fun nodes => returns_pure (container_untitled (by decide) attrs nodes)

end Preview

namespace Element

theorem Phrase.draw_untitled (p : Phrase) : Untitled p.draw := by
  unfold Phrase.draw
  split
  · exact untitled_none
  · exact untitled_tag "span" rfl (by decide)

theorem Heading.draw_untitled (h : Heading) : Untitled h.draw := by
  unfold Heading.draw
  split
  · exact untitled_none
  · rintro n ⟨⟩
    have noTitle : ("class", "section-title") ∉
        [("class", h.align.map alignClass)].filterMap fun a => a.2.map (a.1, ·) := by
      cases h.align with
      | none => decide
      | some a => cases a <;> decide
    unfold Node.isSectionTitle
    rw [Bool.and_eq_false_iff]
    exact .inr (by simpa [Preview.element, Node.attrs] using noTitle)

theorem Typing.draw_untitled (t : Typing) : Untitled t.draw := by
  unfold Typing.draw
  split
  · exact untitled_none
  · exact untitled_tag "p" rfl (by decide)

theorem Custom.draw_untitled (e : Custom) : e.draw.Returns Untitled := by
  unfold Custom.draw
  split
  · exact card_untitled _ _ _
  · dsimp only
    split
    · exact returns_pure untitled_none
    · split
      · exact returns_pure (untitled_tag "div" rfl (by decide))
      · split
        · exact Returns.after fun safe => returns_pure (untitled_tag "div" rfl (by decide))
        · exact returns_pure (untitled_tag "div" rfl (by decide))

theorem Image.draw_tag (c : Context) (i : Image) : (i.draw c).Returns fun n => n.tag = "p" := by
  refine Returns.after fun src => ?_
  dsimp only
  split
  · exact Returns.after fun href => returns_pure rfl
  · exact returns_pure rfl

theorem Award.draw_tag (c : Context) (a : Award) : (a.draw c).Returns fun n => n.tag = "div" := by
  unfold Award.draw
  dsimp only
  split <;> exact Returns.after fun title => returns_pure rfl

theorem Badge.draw_tag (c : Context) (b : Badge) :
    (b.draw c).Returns fun n => n.tag = "a" ∨ n.tag = "img" := by
  unfold Badge.draw
  dsimp only
  split
  · exact Returns.after fun href => returns_pure (.inl rfl)
  · exact returns_pure (.inr rfl)

/-- No element is drawn as the title of a section. -/
theorem draw_untitled (c : Context) (e : Element) : (e.draw c).Returns Untitled := by
  cases e with
  | text e => exact returns_pure e.draw_untitled
  | heading e => exact returns_pure e.draw_untitled
  | typing e => exact returns_pure e.draw_untitled
  | custom e => exact e.draw_untitled
  | statsCard | graph => exact card_untitled _ _ _
  | badgeGroup | statGroup | socialGroup => exact drawMembers_untitled _
  | code e =>
    refine returns_pure ?_
    unfold Code.draw
    split
    · exact untitled_tag "code" rfl (by decide)
    · exact untitled_tag "pre" rfl (by decide)
  | quote => exact returns_pure (untitled_tag "blockquote" rfl (by decide))
  | rule => exact returns_pure (untitled_tag "hr" rfl (by decide))
  | spacer | stat | projectCard | position | study =>
    exact returns_pure (untitled_tag "div" rfl (by decide))
  | link | social =>
    exact returns_untitled "a" (by decide) (Returns.after fun _ => returns_pure rfl)
  | card => exact returns_untitled "div" (by decide) (Returns.after fun _ => returns_pure rfl)
  | image e => exact returns_untitled "p" (by decide) (e.draw_tag c)
  | award e => exact returns_untitled "div" (by decide) (e.draw_tag c)
  | badge e =>
    exact (e.draw_tag c).map fun n h =>
      untitled_some (by rcases h with h | h <;> rw [h] <;> decide)

end Element

/-! ## Blocks -/

theorem Preview.arrange_untitled (layout : Layout) (nodes : List Node) :
    Untitled (arrange layout nodes) := by
  cases layout <;> exact container_untitled (by decide) _ nodes

theorem Preview.listOf_untitled (marker : ListMarker) (entries : List Node) :
    Untitled (listOf marker entries) := by
  cases marker <;> exact container_untitled (by decide) _ entries

theorem Block.drawTree_untitled (c : Context) (b : Block) : (b.drawTree c).Returns Untitled := by
  cases b with
  | element id visible content =>
    unfold Block.drawTree
    split
    · exact content.draw_untitled c
    · exact returns_pure untitled_none
  | stack id visible layout children =>
    unfold Block.drawTree
    split
    · exact Returns.after fun nodes => returns_pure (arrange_untitled layout nodes)
    · exact returns_pure untitled_none
  | list id visible marker items =>
    unfold Block.drawTree
    split
    · exact Returns.after fun entries => returns_pure (listOf_untitled marker entries)
    · exact returns_pure untitled_none

/-- No block is drawn as the title of a section. -/
theorem Block.draw_untitled (c : Context) (b : Block) : (b.draw c).Returns Untitled := by
  unfold Block.draw
  split
  · refine returns_pure ?_
    split
    · exact untitled_none
    · exact untitled_tag "pre" rfl (by decide)
  · exact b.drawTree_untitled c

end ProfileReadme
