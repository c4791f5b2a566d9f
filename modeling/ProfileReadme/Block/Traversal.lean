/-
Walking through blocks one by one: each block is followed by the blocks directly in it with their
own, and the blocks in a list are found with a queue of the items that are still to be looked at.
-/
import ProfileReadme.Block.Basic

namespace ProfileReadme

/-! ## Pending items -/

namespace Item

theorem sizeOf_append (is js : List Item) : sizeOf (is ++ js) + 1 = sizeOf is + sizeOf js := by
  induction is with
  | nil =>
    rw [List.nil_append, List.nil.sizeOf_spec]
    omega
  | cons i is ih =>
    rw [List.cons_append, List.cons.sizeOf_spec, List.cons.sizeOf_spec]
    omega

/-- The blocks that are contents of pending items. What is nested in an item is pending before the
items behind it. -/
def contents : List Item → List Block
  | [] => []
  | .text _ _ nested :: pending => contents (nested ++ pending)
  | .block content _ nested :: pending => content :: contents (nested ++ pending)
termination_by pending => sizeOf pending
decreasing_by
  all_goals
    have := sizeOf_append nested pending
    simp
    omega

theorem walkAll_append (is js : List Item) : walkAll (is ++ js) = walkAll is ++ walkAll js := by
  induction is with
  | nil => rfl
  | cons i is ih => rw [List.cons_append, walkAll, walkAll, ih, List.append_assoc]

/-- However far the queue has come, the blocks still to be found in it are those of its items. -/
theorem walkAll_contents (pending : List Item) :
    Block.walkAll (contents pending) = walkAll pending := by
  fun_induction contents pending with
  | case1 => rfl
  | case2 _ _ nested pending ih => rw [ih, walkAll_append, walkAll, walk]
  | case3 content _ nested pending ih =>
    rw [Block.walkAll, ih, walkAll_append, walkAll, walk, List.append_assoc]

end Item

/-! ## Blocks in blocks -/

namespace Block

/-- The blocks directly in a block, in order. -/
def children : Block → List Block
  | .element _ _ content => content.members
  | .stack _ _ _ children => children
  | .list _ _ _ items => Item.contents items

theorem walkAll_members (e : Element) : walkAll e.members = e.members := by
  have alone {α : Type} {element : α → Element} (single : ∀ a, (element a).members = [])
      (members : List (Placed α)) :
      walkAll (members.map (Placed.member element)) = members.map (Placed.member element) := by
    induction members with
    | nil => rfl
    | cons p members ih => simp [walkAll, ih, Placed.member, walk, single]
  cases e with
  | badgeGroup | statGroup | socialGroup => exact alone (fun _ => rfl) _
  | _ => rfl

theorem walk_eq (b : Block) : b.walk = b :: walkAll b.children := by
  cases b with
  | element id visible content => rw [walk, children, walkAll_members]
  | stack id visible layout children => rfl
  | list id visible marker items => rw [walk, children, Item.walkAll_contents]

/-- All blocks, each before those in it. -/
def traverse : List Block → List Block
  | [] => []
  | b :: bs => b :: (traverse b.children ++ traverse bs)
termination_by bs => (walkAll bs).length
decreasing_by
  all_goals
    rw [walkAll, walk_eq, List.length_append, List.length_cons]
    omega

theorem traverse_eq_walkAll (bs : List Block) : traverse bs = walkAll bs := by
  fun_induction traverse bs with
  | case1 => rfl
  | case2 b bs ihInside ihBehind => rw [ihInside, ihBehind, walkAll, walk_eq, List.cons_append]

end Block

end ProfileReadme
