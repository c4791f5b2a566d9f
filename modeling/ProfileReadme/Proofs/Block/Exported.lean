/-
When the markdown of a block is empty: exactly if nothing that it shows has anything to say. What
a block shows is found through visible blocks and through the items of lists that are kept. A
section is empty if its blocks are, whatever its title.
-/
import ProfileReadme.Markdown.Document
import ProfileReadme.Proofs.Text.Join

namespace ProfileReadme

/-! ## What blocks show -/

def Item.nested : Item → List Item
  | .text _ _ nested | .block _ _ nested => nested

/-- Whether an element has nothing to say as markdown. -/
def Element.isVacuous : Element → Bool
  | .text e => e.value.isEmpty
  | .heading e => e.value.isEmpty
  | .quote e => e.value.isEmpty
  | .typing e => e.texts.isEmpty
  | .custom e => e.content.isEmpty
  | .badgeGroup e => e.members.all (!·.visible)
  | .statGroup e => e.members.all (!·.visible)
  | .socialGroup e => e.members.all (!·.visible)
  | _ => false

mutual

/-- Whether a block shows an element that satisfies `p`, or an item of a list that is a text. What
is nested in an item shows only with the item. -/
def Block.shows (p : Element → Bool) : Block → Bool
  | .element _ visible content => visible && p content
  | .stack _ visible _ children => visible && Block.anyShows p children
  | .list _ visible _ items => visible && Item.anyShows p items

def Block.anyShows (p : Element → Bool) : List Block → Bool
  | [] => false
  | b :: bs => b.shows p || Block.anyShows p bs

def Item.anyShows (p : Element → Bool) : List Item → Bool
  | [] => false
  | .text content _ _ :: rest => !content.isEmpty || Item.anyShows p rest
  | .block content _ _ :: rest => content.shows p || Item.anyShows p rest

end

/-- Whether a block has anything to say as markdown. -/
def Block.isExported (b : Block) : Bool := b.shows (!·.isVacuous)

mutual

theorem Block.shows_or (p q : Element → Bool) : ∀ b : Block,
    b.shows (fun e => p e || q e) = (b.shows p || b.shows q)
  | .element _ visible content => by
    unfold Block.shows; rw [Bool.and_or_distrib_left]
  | .stack _ visible _ children => by
    unfold Block.shows; rw [Block.anyShows_or p q children, Bool.and_or_distrib_left]
  | .list _ visible _ items => by
    unfold Block.shows; rw [Item.anyShows_or p q items, Bool.and_or_distrib_left]

theorem Block.anyShows_or (p q : Element → Bool) : ∀ bs : List Block,
    Block.anyShows (fun e => p e || q e) bs = (Block.anyShows p bs || Block.anyShows q bs)
  | [] => rfl
  | b :: bs => by
    unfold Block.anyShows
    rw [Block.shows_or p q b, Block.anyShows_or p q bs]; ac_rfl

theorem Item.anyShows_or (p q : Element → Bool) : ∀ items : List Item,
    Item.anyShows (fun e => p e || q e) items = (Item.anyShows p items || Item.anyShows q items)
  | [] => rfl
  | .text content _ _ :: rest => by
    unfold Item.anyShows
    rw [Item.anyShows_or p q rest]
    cases content.isEmpty <;> rfl
  | .block content _ _ :: rest => by
    unfold Item.anyShows
    rw [Block.shows_or p q content, Item.anyShows_or p q rest]; ac_rfl

end

/-! ## The markdown of elements -/

namespace Markdown

theorem aligned_eq_empty_iff (align : Option Align) (s : String) :
    aligned align s = "" ↔ s = "" := by
  unfold aligned
  cases align with
  | none => rfl
  | some a =>
    show (if (s.isEmpty || !isSet (some a)) = true then s else _) = "" ↔ _
    split
    · rfl
    · rename_i h
      have hs : s ≠ "" := by
        rintro rfl
        exact h rfl
      simp [hs]

theorem alignedTag_ne_empty (tag : String) (a : Align) (s : String) : alignedTag tag a s ≠ "" := by
  simp [alignedTag]

theorem embed_ne_empty (alt src : String) : embed alt src ≠ "" := by simp [embed]

theorem linkTo_ne_empty (s href : String) : linkTo s href ≠ "" := by simp [linkTo]

theorem codeSpan_ne_empty (s : String) : Inline.codeSpan s ≠ "" := by
  unfold Inline.codeSpan
  split <;> simp

theorem mark_ne_empty (e : Emphasis) {s : String} (h : s ≠ "") : Inline.mark e s ≠ "" := by
  cases e with
  | normal => exact h
  | code => exact codeSpan_ne_empty s
  | bold | italic | strikethrough => simp [Inline.mark]

theorem linked_ne_empty (href : Option String) {s : String} (h : s ≠ "") : linked href s ≠ "" := by
  unfold linked
  split
  · exact linkTo_ne_empty _ _
  · exact h

/-- Groups of members that always say something are empty without a visible one. -/
theorem group_eq_empty_iff (sep : String) {markdown : α → String} (h : ∀ a, markdown a ≠ "")
    (members : List (Placed α)) :
    group sep markdown members = "" ↔ members.all (!·.visible) = true := by
  unfold group
  rw [Text.joinFilled_eq_empty_iff, List.all_eq_true, List.forall_mem_map]
  refine forall₂_congr fun p _ => ?_
  cases p.visible <;> simp [h]

end Markdown

/-! The elements that are empty texts without a value -/

namespace Element

open Markdown

theorem Phrase.markdown_eq_empty_iff (p : Phrase) : p.markdown = "" ↔ p.value.isEmpty = true := by
  refine Text.ite_eq_empty_iff fun filled => ?_
  split
  · exact alignedTag_ne_empty _ _ _
  · exact mark_ne_empty _ (String.isEmpty_eq_false_iff.1 filled)

theorem Heading.markdown_eq_empty_iff (h : Heading) :
    h.markdown = "" ↔ h.value.isEmpty = true := by
  refine Text.ite_eq_empty_iff fun _ => ?_
  split
  · exact alignedTag_ne_empty _ _ _
  · simp

theorem Quote.line_ne_empty (s : String) : Quote.line s ≠ "" := by
  unfold Quote.line
  split <;> simp

theorem Quote.markdown_eq_empty_iff (q : Quote) : q.markdown = "" ↔ q.value.isEmpty = true := by
  refine Text.ite_eq_empty_iff fun _ => ?_
  -- even a text without lines has one, which is marked
  obtain ⟨l, ls, hl⟩ := List.exists_cons_of_ne_nil (Text.lines_ne_nil q.value)
  rw [hl]
  exact Text.join_ne_empty _ (Quote.line_ne_empty l) _

theorem Typing.markdown_eq_empty_iff (t : Typing) : t.markdown = "" ↔ t.texts.isEmpty = true :=
  Text.ite_eq_empty_iff fun _ => embed_ne_empty _ _

/-! The elements that always say something -/

theorem Code.markdown_ne_empty (c : Code) : c.markdown ≠ "" := by
  unfold Code.markdown
  split
  · exact codeSpan_ne_empty _
  · simp

theorem Image.markdown_ne_empty (i : Image) : i.markdown ≠ "" := by
  unfold Image.markdown
  simp only
  split
  · split
    · exact alignedTag_ne_empty _ _ _
    · split <;> simp
  · exact linked_ne_empty _ (embed_ne_empty _ _)

theorem Link.markdown_ne_empty (l : Link) : l.markdown ≠ "" := by
  unfold Link.markdown
  split <;> exact linkTo_ne_empty _ _

theorem Badge.markdown_ne_empty (b : Badge) : b.markdown ≠ "" :=
  linked_ne_empty _ (embed_ne_empty _ _)

theorem Spacer.markdown_ne_empty (s : Spacer) : s.markdown ≠ "" := by
  unfold Spacer.markdown
  cases s.height <;> exact Text.join_ne_empty _ (by decide) _

theorem Stat.markdown_ne_empty (s : Stat) : s.markdown ≠ "" := by
  simp [Stat.markdown]

theorem Social.markdown_ne_empty (s : Social) : s.markdown ≠ "" := linkTo_ne_empty _ _

theorem Study.markdown_ne_empty (s : Study) : s.markdown ≠ "" :=
  Text.join_ne_empty _ (Text.join_ne_empty _ (by simp) _) _

theorem Award.markdown_ne_empty (a : Award) : a.markdown ≠ "" := by
  simp [Award.markdown]

/-- An element without a value to show is empty as markdown, and no other one is. -/
theorem markdown_eq_empty_iff (e : Element) : e.markdown = "" ↔ e.isVacuous = true := by
  cases e with
  | text e | heading e | quote e | typing e => exact e.markdown_eq_empty_iff
  | custom e => exact String.isEmpty_iff.symm
  | badgeGroup e =>
    show aligned (some e.align) (group " " Badge.markdown e.members) = "" ↔ _
    rw [aligned_eq_empty_iff, group_eq_empty_iff _ Badge.markdown_ne_empty]; rfl
  | statGroup e => exact group_eq_empty_iff _ Stat.markdown_ne_empty _
  | socialGroup e =>
    show aligned (some e.align) (group " " Social.markdown e.members) = "" ↔ _
    rw [aligned_eq_empty_iff, group_eq_empty_iff _ Social.markdown_ne_empty]; rfl
  | code e | image e | link e | badge e | spacer e | stat e | social e | study e | award e =>
    exact iff_of_false e.markdown_ne_empty Bool.false_ne_true
  | rule e => exact iff_of_false (by simp [Element.markdown, Rule.markdown]) Bool.false_ne_true
  | statsCard e => exact iff_of_false (embed_ne_empty _ _) Bool.false_ne_true
  | graph e => exact iff_of_false (by simp [Element.markdown, Graph.markdown]) Bool.false_ne_true
  | card e | projectCard e | position e =>
    -- their first part is a line with a mark of its own
    exact iff_of_false (Text.join_ne_empty _ (by simp) _) Bool.false_ne_true

end Element

/-! ## The markdown of blocks -/

theorem Markdown.arrange_eq_empty_iff (layout : Layout) (parts : List String) :
    arrange layout parts = "" ↔ ∀ s ∈ parts, s = "" := by
  cases layout with
  | paragraph align =>
    exact (aligned_eq_empty_iff _ _).trans (Text.joinFilled_eq_empty_iff _ _)
  | row => exact Text.joinFilled_eq_empty_iff _ _
  | column => exact Text.joinFilled_eq_empty_iff _ _
  | grid => exact Text.joinFilled_eq_empty_iff _ _

theorem Markdown.listLine_ne_empty (marker : ListMarker) (depth number : Nat)
    (icon : Option String) (content : String) : listLine marker depth number icon content ≠ "" := by
  simp [listLine]

theorem Item.linesAll_ne_empty (marker : ListMarker) : ∀ (items : List Item) (depth number : Nat),
    ∀ line ∈ Item.linesAll marker depth number items, line ≠ ""
  | [], _, _, _, h => by unfold Item.linesAll at h; cases h
  | .text content icon nested :: rest, depth, number, line, h => by
    unfold Item.linesAll at h
    split at h
    · exact Item.linesAll_ne_empty marker rest _ _ line h
    · rcases List.mem_append.1 h with h | h
      · rcases List.mem_cons.1 h with rfl | h
        · exact Markdown.listLine_ne_empty _ _ _ _ _
        · exact Item.linesAll_ne_empty marker nested _ _ line h
      · exact Item.linesAll_ne_empty marker rest _ _ line h
  | .block content icon nested :: rest, depth, number, line, h => by
    unfold Item.linesAll at h
    simp only at h
    split at h
    · exact Item.linesAll_ne_empty marker rest _ _ line h
    · rcases List.mem_append.1 h with h | h
      · rcases List.mem_cons.1 h with rfl | h
        · exact Markdown.listLine_ne_empty _ _ _ _ _
        · exact Item.linesAll_ne_empty marker nested _ _ line h
      · exact Item.linesAll_ne_empty marker rest _ _ line h

mutual

/-- The markdown of a block is empty exactly if nothing it shows has anything to say. -/
theorem Block.markdown_eq_empty_iff : ∀ b : Block, b.markdown = "" ↔ b.isExported = false
  | .element _ visible content => by
    unfold Block.markdown Block.isExported Block.shows
    cases visible with
    | false => exact iff_of_true rfl rfl
    | true =>
      rw [if_pos rfl, content.markdown_eq_empty_iff, Bool.true_and, Bool.not_eq_false']
  | .stack _ visible layout children => by
    unfold Block.markdown Block.isExported Block.shows
    cases visible with
    | false => exact iff_of_true rfl rfl
    | true =>
      rw [if_pos rfl, Markdown.arrange_eq_empty_iff, Block.markdownAll_empty_iff children,
        Bool.true_and]
  | .list _ visible marker items => by
    unfold Block.markdown Block.isExported Block.shows
    cases visible with
    | false => exact iff_of_true rfl rfl
    | true =>
      rw [if_pos rfl, Text.join_eq_empty_iff _ (Item.linesAll_ne_empty marker items 0 1),
        Item.linesAll_eq_nil_iff marker items, Bool.true_and]

theorem Block.markdownAll_empty_iff : ∀ bs : List Block,
    (∀ s ∈ Block.markdownAll bs, s = "") ↔ Block.anyShows (!·.isVacuous) bs = false
  | [] => by unfold Block.markdownAll; simp [Block.anyShows]
  | b :: bs => by
    unfold Block.markdownAll Block.anyShows
    rw [List.forall_mem_cons, Block.markdown_eq_empty_iff b, Block.markdownAll_empty_iff bs,
      Bool.or_eq_false_iff]
    rfl

theorem Item.linesAll_eq_nil_iff (marker : ListMarker) : ∀ (items : List Item) {depth number : Nat},
    Item.linesAll marker depth number items = [] ↔ Item.anyShows (!·.isVacuous) items = false
  | [], _, _ => by unfold Item.linesAll; simp [Item.anyShows]
  | .text content icon nested :: rest, depth, number => by
    unfold Item.linesAll Item.anyShows
    cases empty : content.isEmpty with
    | true => simpa using Item.linesAll_eq_nil_iff marker rest
    | false => simp
  | .block content icon nested :: rest, depth, number => by
    have content_iff : content.markdown = "" ↔ content.shows (!·.isVacuous) = false :=
      Block.markdown_eq_empty_iff content
    unfold Item.linesAll Item.anyShows
    rw [Bool.or_eq_false_iff]
    cases empty : content.markdown.isEmpty with
    | true =>
      have nothing := content_iff.1 (String.isEmpty_iff.1 empty)
      simpa [empty, nothing] using Item.linesAll_eq_nil_iff marker rest
    | false =>
      have something := mt content_iff.2 (String.isEmpty_eq_false_iff.1 empty)
      simpa [empty] using fun nothing => absurd nothing something

end

/-! ## Sections -/

theorem Markdown.joinBlocks_eq_empty_iff (sep : String) (bs : List Block) :
    joinBlocks sep bs = "" ↔ ∀ b ∈ bs, b.isExported = false := by
  unfold joinBlocks
  rw [Text.joinFilled_eq_empty_iff, List.forall_mem_map]
  exact forall₂_congr fun b _ => b.markdown_eq_empty_iff

/-- Neither the title nor the comment of a section says anything without its blocks. -/
theorem Render.RenderedSection.markdown_eq_empty_iff (s : RenderedSection) (comment : Bool)
    (visible : s.visible = true) :
    s.markdown comment = "" ↔ Markdown.joinBlocks "\n\n" s.blocks = "" := by
  unfold markdown
  rw [visible, if_pos rfl]
  dsimp only
  split
  · rename_i empty
    exact iff_of_true rfl (String.isEmpty_iff.1 empty)
  · rename_i filled
    refine iff_of_false ?_ (mt String.isEmpty_iff.2 filled)
    split <;> simp_all

end ProfileReadme
