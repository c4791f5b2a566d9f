/-
Which blocks the preview shows: those that the export contains, and besides them two kinds that say
nothing as markdown. An empty quote is drawn as an empty frame, and a custom block without content
as the image that its data names.
-/
import ProfileReadme.Proofs.Block.Exported
import ProfileReadme.Proofs.Preview.Drawing

namespace ProfileReadme

open Preview Preview.Drawing

/-- Whether the preview draws an element that says nothing as markdown. -/
def Element.isGhost : Element → Bool
  | .quote e => e.value.isEmpty
  | .custom e => e.content.isEmpty && (e.setting? "image_url").isSome
  | _ => false

def Element.isDrawn (e : Element) : Bool := !e.isVacuous || e.isGhost

/-- Whether the preview draws a block that is not in the export. -/
def Block.isHollow (b : Block) : Bool := !b.isExported && b.shows Element.isGhost

/-! ## Elements -/

theorem Preview.container_isSome (tag : String) (attrs : List (String × Option String))
    (nodes : List Node) : (container tag attrs nodes).isSome = !nodes.isEmpty := by
  unfold container
  cases nodes <;> rfl

/-- A group draws its visible members. -/
theorem Preview.drawMembers_isEmpty (draw : α → Drawing Node) (members : List (Placed α)) :
    (drawMembers draw members).Returns fun nodes =>
      (!nodes.isEmpty) = !members.all (!·.visible) := by
  have drawn : (drawMembers draw members).Returns fun nodes =>
      List.Forall₂ (fun _ _ => True) (members.filter (·.visible)) nodes :=
    Returns.mapM fun p _ => fun _ _ _ _ => trivial
  refine drawn.mono fun nodes h => congrArg _ ?_
  rw [Bool.eq_iff_iff, List.isEmpty_iff_length_eq_zero, ← h.length_eq,
    List.length_eq_zero_iff, List.filter_eq_nil_iff]
  simp

namespace Element

theorem returns_some {x : Drawing Node} : (some <$> x).Returns fun node => node.isSome = true :=
  Returns.map (p := fun _ => True) (fun _ _ _ _ => trivial) fun _ _ => rfl

theorem Phrase.draw_isSome (p : Phrase) : p.draw.isSome = !p.value.isEmpty := by
  unfold Phrase.draw
  cases p.value.isEmpty <;> rfl

theorem Heading.draw_isSome (h : Heading) : h.draw.isSome = !h.value.isEmpty := by
  unfold Heading.draw
  cases h.value.isEmpty <;> rfl

theorem Typing.draw_isSome (t : Typing) : t.draw.isSome = !t.texts.isEmpty := by
  unfold Typing.draw
  cases t.texts.isEmpty <;> rfl

/-- A custom block is drawn for its content or for the image that its data names. -/
theorem Custom.draw_isSome (e : Custom) : e.draw.Returns fun node =>
    node.isSome = (!e.content.isEmpty || (e.setting? "image_url").isSome) := by
  unfold Custom.draw
  cases e.setting? "image_url" with
  | some src =>
    rw [Option.isSome_some, Bool.or_true]
    exact returns_some
  | none =>
    rw [Option.isSome_none, Bool.or_false]
    cases hc : e.content.isEmpty with
    | true => exact returns_pure rfl
    | false =>
      simp only [Bool.false_eq_true, if_false]
      split
      · exact returns_pure rfl
      · split
        · exact Returns.after fun safe => returns_pure rfl
        · exact returns_pure rfl

theorem draw_isSome (c : Context) (e : Element) :
    (e.draw c).Returns fun node => node.isSome = e.isDrawn := by
  cases e with
  | text e => exact returns_pure (by simp [Phrase.draw_isSome, isDrawn, isVacuous, isGhost])
  | heading e => exact returns_pure (by simp [Heading.draw_isSome, isDrawn, isVacuous, isGhost])
  | typing e => exact returns_pure (by simp [Typing.draw_isSome, isDrawn, isVacuous, isGhost])
  | quote e => exact returns_pure (by simp [isDrawn, isVacuous, isGhost])
  | custom e =>
    refine e.draw_isSome.mono fun node h => h.trans ?_
    show _ = (!e.content.isEmpty || e.content.isEmpty && (e.setting? "image_url").isSome)
    cases e.content.isEmpty <;> rfl
  | badgeGroup e | statGroup e | socialGroup e =>
    refine (drawMembers_isEmpty _ e.members).bind fun nodes h => returns_pure ?_
    rw [container_isSome, h]; simp [isDrawn, isVacuous, isGhost]
  | image | link | badge | social | statsCard | graph | card | award => exact returns_some
  | code | spacer | rule | stat | projectCard | position | study => exact returns_pure rfl

end Element

/-! ## Blocks -/

theorem Preview.arrange_isSome (layout : Layout) (nodes : List Node) :
    (arrange layout nodes).isSome = !nodes.isEmpty := by
  cases layout <;> exact container_isSome _ _ nodes

theorem Preview.listOf_isSome (marker : ListMarker) (entries : List Node) :
    (listOf marker entries).isSome = !entries.isEmpty := by
  cases marker <;> exact container_isSome _ _ entries

mutual

/-- A block is drawn exactly if it shows an element that is. -/
theorem Block.drawTree_isSome (c : Context) : ∀ b : Block,
    (b.drawTree c).Returns fun node => node.isSome = b.shows Element.isDrawn
  | .element _ visible content => by
    unfold Block.drawTree Block.shows
    cases visible with
    | false => exact returns_pure rfl
    | true => exact content.draw_isSome c
  | .stack _ visible layout children => by
    unfold Block.drawTree Block.shows
    cases visible with
    | false => exact returns_pure rfl
    | true =>
      exact (Block.drawAll_isEmpty c children).bind fun nodes h =>
        returns_pure ((arrange_isSome layout nodes).trans h)
  | .list _ visible marker items => by
    unfold Block.drawTree Block.shows
    cases visible with
    | false => exact returns_pure rfl
    | true =>
      exact (Item.drawAll_isEmpty c marker items).bind fun nodes h =>
        returns_pure ((listOf_isSome marker nodes).trans h)

theorem Block.drawAll_isEmpty (c : Context) : ∀ bs : List Block,
    (Block.drawAll c bs).Returns fun nodes =>
      (!nodes.isEmpty) = Block.anyShows Element.isDrawn bs
  | [] => by unfold Block.drawAll; exact returns_pure rfl
  | b :: bs => by
    unfold Block.drawAll Block.anyShows
    refine (Block.drawTree_isSome c b).bind fun node hb => ?_
    refine (Block.drawAll_isEmpty c bs).bind fun nodes hbs => returns_pure ?_
    rw [← hb, ← hbs]
    cases node <;> rfl

/-- What is nested in an item is drawn first, but shows only with the item. -/
theorem Item.drawAll_isEmpty (c : Context) (marker : ListMarker) : ∀ items : List Item,
    (Item.drawAll c marker items).Returns fun nodes =>
      (!nodes.isEmpty) = Item.anyShows Element.isDrawn items
  | [] => by unfold Item.drawAll; exact returns_pure rfl
  | .text content icon nested :: rest => by
    unfold Item.drawAll Item.anyShows
    refine Returns.after fun below => ?_
    refine (Item.drawAll_isEmpty c marker rest).bind fun nodes h => ?_
    cases content.isEmpty with
    | true => exact returns_pure h
    | false => exact returns_pure rfl
  | .block content icon nested :: rest => by
    unfold Item.drawAll Item.anyShows
    refine Returns.after fun below => ?_
    refine (Block.drawTree_isSome c content).bind fun node hb => ?_
    refine (Item.drawAll_isEmpty c marker rest).bind fun nodes h => ?_
    rw [← hb, ← h]
    cases node <;> exact returns_pure rfl

end

theorem Block.shows_isDrawn (b : Block) :
    b.shows Element.isDrawn = (b.isExported || b.shows Element.isGhost) :=
  Block.shows_or (!·.isVacuous) Element.isGhost b

/-- The preview shows all that the export contains. It shows a block exactly when the export
contains it, unless the block is hollow: nothing in it is exported, but an empty quote or the image
of a custom block without content is drawn. -/
theorem Block.draw_mirrors_markdown (c : Context) (hc : c.asMarkdown = false) (b : Block)
    {t t' : Tracker} {node : Option Node} (h : (b.draw c).run t = (.ok node, t')) :
    (b.markdown ≠ "" → node ≠ none) ∧
      ((b.markdown = "" ↔ node = none) ↔ b.isHollow = false) := by
  have drawn : node.isSome = (b.isExported || b.shows Element.isGhost) := by
    unfold Block.draw at h
    rw [hc, if_neg Bool.false_ne_true] at h
    rw [(Block.drawTree_isSome c b).of_run h, b.shows_isDrawn]
  have none_iff : node = none ↔ (b.isExported || b.shows Element.isGhost) = false := by
    rw [← drawn]
    cases node <;> simp
  rw [ne_eq, ne_eq, b.markdown_eq_empty_iff, none_iff]
  unfold Block.isHollow
  cases b.isExported <;> cases b.shows Element.isGhost <;> simp

/-- A row that exports nothing and shows the frame of a quote. -/
def emptyQuoteRow : Block :=
  .stack "r" true (.row .center .center .md true) [.element "q" true (.quote { value := "" })]

theorem emptyQuoteRow_differs : ∃ (node : Option Node) (t' : Tracker),
    (emptyQuoteRow.draw {}).run {} = (.ok node, t') ∧ emptyQuoteRow.isHollow = true ∧
      ¬ (emptyQuoteRow.markdown = "" ↔ node = none) := by
  have h : (emptyQuoteRow.draw {}).run {} = (.ok _, _) := rfl
  have hollow : emptyQuoteRow.isHollow = true := rfl
  refine ⟨_, _, h, hollow, fun mirrored => ?_⟩
  rw [(Block.draw_mirrors_markdown {} rfl emptyQuoteRow h).2.1 mirrored] at hollow
  cases hollow

/-- An empty quote has a frame in the preview and no markdown. -/
theorem empty_quote_drawn : ∃ node t',
    ((Block.element "q" true (.quote { value := "" })).draw {}).run {} = (.ok (some node), t') ∧
      (Block.element "q" true (.quote { value := "" })).markdown = "" :=
  ⟨_, _, rfl, rfl⟩

end ProfileReadme
