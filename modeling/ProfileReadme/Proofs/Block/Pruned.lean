/-
Blocks without what is invisible in them: invisible children of stacks, invisible members of groups,
and items of lists whose content is an invisible block go, the items with all that is nested in
them. The markdown of what remains is the same, down to the numbers of lists.
-/
import ProfileReadme.Markdown.Block

namespace ProfileReadme

/-! ## Pruning -/

/-- The members of a group that are visible. -/
def Placed.shownOf (members : List (Placed α)) : List (Placed α) := members.filter (·.visible)

def Element.pruned : Element → Element
  | .badgeGroup e => .badgeGroup { e with members := Placed.shownOf e.members }
  | .statGroup e => .statGroup { e with members := Placed.shownOf e.members }
  | .socialGroup e => .socialGroup { e with members := Placed.shownOf e.members }
  | e => e

mutual

/-- The block without invisible blocks at any depth below it. -/
def Block.pruned : Block → Block
  | .element id visible content => .element id visible content.pruned
  | .stack id visible layout children => .stack id visible layout (Block.prunedAll children)
  | .list id visible marker items => .list id visible marker (Item.prunedAll items)

/-- The visible blocks, each without invisible blocks below it. -/
def Block.prunedAll : List Block → List Block
  | [] => []
  | b :: bs => if b.visible then b.pruned :: Block.prunedAll bs else Block.prunedAll bs

def Item.prunedAll : List Item → List Item
  | [] => []
  | .text content icon nested :: rest =>
    .text content icon (Item.prunedAll nested) :: Item.prunedAll rest
  | .block content icon nested :: rest =>
    if content.visible then
      .block content.pruned icon (Item.prunedAll nested) :: Item.prunedAll rest
    else Item.prunedAll rest

end

theorem Block.pruned_visible (b : Block) : b.pruned.visible = b.visible := by
  cases b <;> (unfold Block.pruned; rfl)

/-! ## Markdown -/

theorem Block.markdown_invisible {b : Block} (h : b.visible = false) : b.markdown = "" := by
  cases b <;> (unfold Block.markdown; exact if_neg (ne_true_of_eq_false h))

namespace Markdown

theorem group_shownOf (sep : String) (markdown : α → String) (members : List (Placed α)) :
    group sep markdown (Placed.shownOf members) = group sep markdown members := by
  unfold group Text.joinFilled Placed.shownOf
  refine congrArg _ ?_
  induction members with
  | nil => rfl
  | cons p rest ih =>
    cases h : p.visible with
    | true => simp [List.filter_cons, h, ih]
    | false => simp [h, ih]

/-- What is joined does not depend on empty parts. -/
theorem arrange_congr (layout : Layout) {parts parts' : List String}
    (h : parts.filter (!·.isEmpty) = parts'.filter (!·.isEmpty)) :
    arrange layout parts = arrange layout parts' := by
  unfold arrange Text.joinFilled
  rw [h]

end Markdown

theorem Element.markdown_pruned (e : Element) : e.pruned.markdown = e.markdown := by
  cases e with
  | badgeGroup e =>
    exact congrArg (Markdown.aligned (some e.align)) (Markdown.group_shownOf " " _ e.members)
  | socialGroup e =>
    exact congrArg (Markdown.aligned (some e.align)) (Markdown.group_shownOf " " _ e.members)
  | statGroup e => exact Markdown.group_shownOf _ _ _
  | _ => rfl

mutual

/-- A block has the markdown of the block without what is invisible in it. -/
theorem Block.markdown_pruned : ∀ b : Block, b.pruned.markdown = b.markdown
  | .element _ visible content => by
    unfold Block.pruned Block.markdown
    rw [content.markdown_pruned]
  | .stack _ visible layout children => by
    unfold Block.pruned Block.markdown
    rw [Markdown.arrange_congr layout (Block.markdownAll_pruned children)]
  | .list _ visible marker items => by
    unfold Block.pruned Block.markdown
    rw [Item.linesAll_pruned marker items]

theorem Block.markdownAll_pruned : ∀ bs : List Block,
    (Block.markdownAll (Block.prunedAll bs)).filter (!·.isEmpty) =
      (Block.markdownAll bs).filter (!·.isEmpty)
  | [] => rfl
  | b :: bs => by
    have rest := Block.markdownAll_pruned bs
    rw [Block.prunedAll, Block.markdownAll]
    cases shown : b.visible with
    | true =>
      rw [if_pos rfl, Block.markdownAll, List.filter_cons, List.filter_cons,
        Block.markdown_pruned b, rest]
    | false =>
      rw [if_neg Bool.false_ne_true, Block.markdown_invisible shown]
      exact rest

/-- An item that is gone had no line and no number. -/
theorem Item.linesAll_pruned (marker : ListMarker) : ∀ (items : List Item) {depth number : Nat},
    Item.linesAll marker depth number (Item.prunedAll items) =
      Item.linesAll marker depth number items
  | [], _, _ => rfl
  | .text content icon nested :: rest, depth, number => by
    unfold Item.prunedAll Item.linesAll
    rw [Item.linesAll_pruned marker nested, Item.linesAll_pruned marker rest,
      Item.linesAll_pruned marker rest]
  | .block content icon nested :: rest, depth, number => by
    unfold Item.prunedAll
    cases shown : content.visible with
    | true =>
      rw [if_pos rfl, Item.linesAll, Item.linesAll, Block.markdown_pruned content,
        Item.linesAll_pruned marker nested, Item.linesAll_pruned marker rest,
        Item.linesAll_pruned marker rest]
    | false =>
      rw [if_neg Bool.false_ne_true, Item.linesAll_pruned marker rest, Item.linesAll,
        Block.markdown_invisible shown]
      rfl

end

theorem Block.markdownAll_eq_map : ∀ bs : List Block,
    Block.markdownAll bs = bs.map Block.markdown
  | [] => rfl
  | b :: bs => by
    unfold Block.markdownAll
    rw [Block.markdownAll_eq_map bs, List.map_cons]

theorem Markdown.joinBlocks_pruned (sep : String) (bs : List Block) :
    joinBlocks sep (Block.prunedAll bs) = joinBlocks sep bs := by
  unfold joinBlocks Text.joinFilled
  rw [← Block.markdownAll_eq_map, ← Block.markdownAll_eq_map, Block.markdownAll_pruned]

end ProfileReadme
