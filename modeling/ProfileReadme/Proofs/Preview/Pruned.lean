/-
What is invisible leaves no trace in a preview: it shows what it shows without the invisible blocks,
and the images it tracks besides change no status. The one trace is a failure. What is nested in an
item of a list is drawn before the item is found to be invisible, so that a link or an image in it
that cannot be drawn takes the preview down.
-/
import ProfileReadme.Proofs.Block.Pruned
import ProfileReadme.Proofs.Preview.Failing
import ProfileReadme.Proofs.Preview.Steady

namespace ProfileReadme

open Preview Preview.Drawing

/-! ## What is drawn for nothing -/

mutual

/-- What a block asks for in the items nested in its invisible items. -/
def Block.hiddenDemands : Block → List Demand
  | .element .. => []
  | .stack _ visible _ children => if visible then Block.hiddenDemandsAll children else []
  | .list _ visible _ items => if visible then Item.hiddenDemandsAll items else []

def Block.hiddenDemandsAll : List Block → List Demand
  | [] => []
  | b :: bs => b.hiddenDemands ++ Block.hiddenDemandsAll bs

def Item.hiddenDemandsAll : List Item → List Demand
  | [] => []
  | .text _ _ nested :: rest => Item.hiddenDemandsAll nested ++ Item.hiddenDemandsAll rest
  | .block content _ nested :: rest =>
    (if content.visible then Item.hiddenDemandsAll nested ++ content.hiddenDemands
      else Item.demandsAll nested) ++ Item.hiddenDemandsAll rest

end

theorem Block.demands_invisible {b : Block} (h : b.visible = false) : b.demands = [] := by
  cases b <;> (unfold Block.demands; exact if_neg (ne_true_of_eq_false h))

theorem Element.demands_pruned (e : Element) : e.pruned.demands = e.demands := by
  cases e with
  | badgeGroup e | socialGroup e => simp [pruned, demands, Placed.shownOf]
  | _ => rfl

section

variable (p : Demand → Prop)

mutual

/-- What a block asks for is what remains of it asks for, and what is drawn for nothing. -/
theorem Block.demands_split : ∀ b : Block,
    (∀ d ∈ b.demands, p d) ↔ (∀ d ∈ b.pruned.demands, p d) ∧ ∀ d ∈ b.hiddenDemands, p d
  | .element _ visible content => by
    unfold Block.pruned Block.demands Block.hiddenDemands
    rw [content.demands_pruned]
    simp
  | .stack _ visible layout children => by
    unfold Block.pruned Block.demands Block.hiddenDemands
    cases visible with
    | false => simp
    | true => exact Block.demandsAll_split children
  | .list _ visible marker items => by
    unfold Block.pruned Block.demands Block.hiddenDemands
    cases visible with
    | false => simp
    | true => exact Item.demandsAll_split items

theorem Block.demandsAll_split : ∀ bs : List Block,
    (∀ d ∈ Block.demandsAll bs, p d) ↔
      (∀ d ∈ Block.demandsAll (Block.prunedAll bs), p d) ∧ ∀ d ∈ Block.hiddenDemandsAll bs, p d
  | [] => by simp [Block.prunedAll, Block.demandsAll, Block.hiddenDemandsAll]
  | b :: bs => by
    rw [Block.prunedAll, Block.hiddenDemandsAll, Block.demandsAll, List.forall_mem_append,
      List.forall_mem_append, Block.demandsAll_split bs, Block.demands_split b]
    cases shown : b.visible with
    | true =>
      rw [if_pos rfl, Block.demandsAll, List.forall_mem_append]
      tauto
    | false =>
      have nothing : b.pruned.demands = [] :=
        Block.demands_invisible (b.pruned_visible.trans shown)
      rw [nothing]
      simp
      tauto

theorem Item.demandsAll_split : ∀ items : List Item,
    (∀ d ∈ Item.demandsAll items, p d) ↔
      (∀ d ∈ Item.demandsAll (Item.prunedAll items), p d) ∧
        ∀ d ∈ Item.hiddenDemandsAll items, p d
  | [] => by simp [Item.prunedAll, Item.demandsAll, Item.hiddenDemandsAll]
  | .text content icon nested :: rest => by
    rw [Item.prunedAll, Item.hiddenDemandsAll, Item.demandsAll, Item.demandsAll]
    simp only [List.forall_mem_append, Item.demandsAll_split nested, Item.demandsAll_split rest]
    tauto
  | .block content icon nested :: rest => by
    rw [Item.prunedAll, Item.hiddenDemandsAll, Item.demandsAll]
    cases shown : content.visible with
    | true =>
      simp only [if_true, Item.demandsAll, List.forall_mem_append, Item.demandsAll_split nested,
        Item.demandsAll_split rest, Block.demands_split content]
      tauto
    | false =>
      simp only [Bool.false_eq_true, if_false, List.forall_mem_append, Item.demandsAll_split rest,
        Block.demands_invisible shown, List.append_nil]
      tauto

end

end

/-! ## Drawings -/

section

variable (c : Context) {t : Tracker}

theorem Element.draw_pruned (e : Element) : e.pruned.draw c = e.draw c := by
  cases e with
  | badgeGroup e | statGroup e | socialGroup e =>
    simp [pruned, Element.draw, drawMembers, Placed.shownOf]
  | _ => rfl

theorem Block.drawTree_invisible {b : Block} (h : b.visible = false) :
    b.drawTree c = pure none := by
  cases b <;> (unfold Block.drawTree; exact if_neg (ne_true_of_eq_false h))

mutual

/-- A block that is drawn is drawn alike without what is invisible in it. -/
theorem Block.drawTree_pruned : ∀ (b : Block) {node : Option Node},
    (b.drawTree c).outcome t = .ok node → (b.pruned.drawTree c).outcome t = .ok node
  | .element _ visible content, node, h => by
    unfold Block.pruned Block.drawTree at *
    rwa [content.draw_pruned]
  | .stack id visible layout children, node, h => by
    cases visible with
    | false => rwa [Block.drawTree_invisible c rfl] at h
    | true =>
      obtain ⟨nodes, hnodes, rfl⟩ := Block.drawTree_stack_ok.1 h
      unfold Block.pruned
      exact Block.drawTree_stack_ok.2 ⟨nodes, Block.drawAll_pruned children hnodes, rfl⟩
  | .list id visible marker items, node, h => by
    cases visible with
    | false => rwa [Block.drawTree_invisible c rfl] at h
    | true =>
      obtain ⟨nodes, hnodes, rfl⟩ := Block.drawTree_list_ok.1 h
      unfold Block.pruned
      exact Block.drawTree_list_ok.2 ⟨nodes, Item.drawAll_pruned marker items hnodes, rfl⟩

theorem Block.drawAll_pruned : ∀ (bs : List Block) {nodes : List Node},
    (Block.drawAll c bs).outcome t = .ok nodes →
      (Block.drawAll c (Block.prunedAll bs)).outcome t = .ok nodes
  | [], _, h => h
  | b :: bs, nodes, h => by
    obtain ⟨node, more, hnode, hmore, rfl⟩ := Block.drawAll_cons_ok.1 h
    have hmore := Block.drawAll_pruned bs hmore
    rw [Block.prunedAll]
    cases shown : b.visible with
    | true => exact Block.drawAll_cons_ok.2 ⟨node, more, Block.drawTree_pruned b hnode, hmore, rfl⟩
    | false =>
      rw [Block.drawTree_invisible c shown] at hnode
      cases Except.ok.inj hnode
      exact hmore

/-- What is nested in an item that is gone was drawn for nothing. -/
theorem Item.drawAll_pruned (marker : ListMarker) : ∀ (items : List Item) {nodes : List Node},
    (Item.drawAll c marker items).outcome t = .ok nodes →
      (Item.drawAll c marker (Item.prunedAll items)).outcome t = .ok nodes
  | [], _, h => h
  | .text content icon nested :: rest, nodes, h => by
    obtain ⟨below, more, hbelow, hmore, rfl⟩ := Item.drawAll_text_ok.1 h
    rw [Item.prunedAll]
    exact Item.drawAll_text_ok.2 ⟨below, more, Item.drawAll_pruned marker nested hbelow,
      Item.drawAll_pruned marker rest hmore, rfl⟩
  | .block content icon nested :: rest, nodes, h => by
    obtain ⟨below, node, more, hbelow, hnode, hmore, rfl⟩ := Item.drawAll_block_ok.1 h
    have hmore := Item.drawAll_pruned marker rest hmore
    rw [Item.prunedAll]
    cases shown : content.visible with
    | true =>
      exact Item.drawAll_block_ok.2 ⟨below, node, more, Item.drawAll_pruned marker nested hbelow,
        Block.drawTree_pruned content hnode, hmore, rfl⟩
    | false =>
      rw [Block.drawTree_invisible c shown] at hnode
      cases Except.ok.inj hnode
      exact hmore

end

/-! ## Lists of blocks -/

theorem Block.draw_invisible {b : Block} (h : b.visible = false) : b.draw c = pure none := by
  unfold Block.draw
  rw [Block.markdown_invisible h, Block.drawTree_invisible c h]
  exact ite_self _

/-- A block that is drawn, or shown as its markdown, shows alike without what is invisible in it. -/
theorem Block.draw_pruned {b : Block} {node : Option Node} (h : (b.draw c).outcome t = .ok node) :
    (b.pruned.draw c).outcome t = .ok node := by
  unfold Block.draw at *
  rw [b.markdown_pruned]
  cases asMarkdown : c.asMarkdown with
  | true => rwa [asMarkdown] at h
  | false =>
    rw [asMarkdown] at h
    exact b.drawTree_pruned c h

theorem Preview.drawBlocks_pruned : ∀ (bs : List Block) {nodes : List Node},
    (drawBlocks c bs).outcome t = .ok nodes →
      (drawBlocks c (Block.prunedAll bs)).outcome t = .ok nodes
  | [], _, h => h
  | b :: bs, nodes, h => by
    obtain ⟨node, more, hnode, hmore, rfl⟩ := drawBlocks_cons_ok.1 h
    have hmore := Preview.drawBlocks_pruned bs hmore
    rw [Block.prunedAll]
    cases shown : b.visible with
    | true => exact drawBlocks_cons_ok.2 ⟨node, more, Block.draw_pruned c hnode, hmore, rfl⟩
    | false =>
      rw [Block.draw_invisible c shown] at hnode
      cases Except.ok.inj hnode
      exact hmore

/-- All blocks are drawn if those that remain are, and what is drawn for nothing can be. -/
theorem Preview.drawBlocks_split (bs : List Block) :
    (∃ nodes, (drawBlocks c bs).outcome t = .ok nodes) ↔
      (∃ nodes, (drawBlocks c (Block.prunedAll bs)).outcome t = .ok nodes) ∧
        (c.asMarkdown = true ∨ ∀ d ∈ Block.hiddenDemandsAll bs, d.Met c) := by
  have returns (bs : List Block) : (∃ nodes, (drawBlocks c bs).outcome t = .ok nodes) ↔
      c.asMarkdown = true ∨ ∀ d ∈ Block.demandsAll bs, d.Met c := by
    simp only [outcome_ok, Block.demandsAll_eq]
    exact drawBlocks_returnsIff c bs t
  rw [returns, returns, Block.demandsAll_split]
  tauto

/-- Drawings of blocks leave all images in the statuses in which they found them. -/
theorem Preview.drawBlocks_look (bs bs' : List Block) :
    ((drawBlocks c bs).run t).2.look = ((drawBlocks c bs').run t).2.look :=
  ((drawBlocks_steady c bs).keeps t).trans ((drawBlocks_steady c bs').keeps t).symm

/-- The two drawings come to the same exactly if nothing that is drawn for nothing fails alone. -/
theorem Preview.drawBlocks_pruned_iff (bs : List Block) :
    ((drawBlocks c (Block.prunedAll bs)).outcome t).toOption =
        ((drawBlocks c bs).outcome t).toOption ↔
      c.asMarkdown = true ∨ (∀ d ∈ Block.hiddenDemandsAll bs, d.Met c) ∨
        ((drawBlocks c (Block.prunedAll bs)).outcome t).toOption = none := by
  have split := drawBlocks_split c (t := t) bs
  have kept (nodes) (drawn : (drawBlocks c bs).outcome t = .ok nodes) :=
    drawBlocks_pruned c bs drawn
  cases whole : (drawBlocks c bs).outcome t with
  | ok nodes =>
    rw [kept nodes whole]
    exact iff_of_true rfl ((split.1 ⟨nodes, whole⟩).2.imp id .inl)
  | error fault =>
    rw [← or_assoc]
    cases remains : (drawBlocks c (Block.prunedAll bs)).outcome t with
    | ok nodes =>
      refine iff_of_false nofun ?_
      rintro (met | none)
      · obtain ⟨nodes', h⟩ := split.2 ⟨⟨nodes, remains⟩, met⟩
        rw [whole] at h
        cases h
      · cases none
    | error fault' => exact iff_of_true rfl (.inr rfl)

end

/-- Without the invisible blocks at any depth, all that remains has the same markdown, and it is
drawn alike, if it was drawn: block by block and all blocks after each other, as they will look or
as their markdown, with any images tracked before. So lists that differ in what is invisible show
the same. The images that are tracked afterwards stand alike. What is lost is at most a failure: a
drawing came to nothing, and now comes to something, exactly if what is nested in invisible items
of lists asks for something that cannot be had. -/
theorem Preview.hidden_untraced (c : Context) (bs : List Block) (t : Tracker) :
    (∀ b ∈ bs, b.pruned.markdown = b.markdown ∧
      ∀ node, (b.draw c).outcome t = .ok node → (b.pruned.draw c).outcome t = .ok node) ∧
    (∀ sep, Markdown.joinBlocks sep (Block.prunedAll bs) = Markdown.joinBlocks sep bs) ∧
    (∀ nodes, (drawBlocks c bs).outcome t = .ok nodes →
      (drawBlocks c (Block.prunedAll bs)).outcome t = .ok nodes) ∧
    (∀ bs', Block.prunedAll bs' = Block.prunedAll bs →
      (∀ sep, Markdown.joinBlocks sep bs' = Markdown.joinBlocks sep bs) ∧
        ∀ nodes nodes', (drawBlocks c bs).outcome t = .ok nodes →
          (drawBlocks c bs').outcome t = .ok nodes' → nodes' = nodes) ∧
    ((drawBlocks c (Block.prunedAll bs)).run t).2.look = ((drawBlocks c bs).run t).2.look ∧
    (((drawBlocks c (Block.prunedAll bs)).outcome t).toOption =
        ((drawBlocks c bs).outcome t).toOption ↔
      c.asMarkdown = true ∨ (∀ d ∈ Block.hiddenDemandsAll bs, d.Met c) ∨
        ((drawBlocks c (Block.prunedAll bs)).outcome t).toOption = none) := by
  refine ⟨fun b _ => ⟨b.markdown_pruned, fun node => b.draw_pruned c⟩,
    fun sep => Markdown.joinBlocks_pruned sep bs, fun nodes => drawBlocks_pruned c bs, ?_,
    drawBlocks_look c _ bs, drawBlocks_pruned_iff c bs⟩
  intro bs' same
  refine ⟨fun sep => ?_, fun nodes nodes' h h' => ?_⟩
  · rw [← Markdown.joinBlocks_pruned sep bs, ← same, Markdown.joinBlocks_pruned]
  · have shown := drawBlocks_pruned c bs h
    have shown' := drawBlocks_pruned c bs' h'
    rw [same, shown] at shown'
    exact (Except.ok.inj shown').symm

/-- A list of one line, and of an invisible item with a link below it that nobody can follow. -/
def oneLine : Block :=
  .list "l" true .unordered
    [.text "kept" none [],
      .block (.element "h" false (.text { value := "hidden" })) none
        [.block (.element "k" true (.link { href := "http://[", label := "Link" })) none []]]

/-- The link in the invisible item is followed for nothing, and no line is shown. -/
theorem hidden_link_followed :
    (∃ t', (oneLine.draw { baseUrl := some "https://example.com/" }).run {} =
      (.error (.url .brackets), t')) ∧
    ∃ node t', (oneLine.pruned.draw { baseUrl := some "https://example.com/" }).run {} =
      (.ok (some node), t') ∧ node.html = "<ul><li>kept</li></ul>" :=
  ⟨⟨_, rfl⟩, _, _, rfl, by decide +kernel⟩

end ProfileReadme
