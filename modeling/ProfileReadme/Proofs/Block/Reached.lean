/-
What makes a section say something. From its blocks one goes down through visible blocks and through
the items of lists that are kept; the section has markdown exactly if one comes that way to a
visible block that is no empty text, or to an item with a text. An item is kept for what one finds
in its own content, so what is nested in an item never makes the difference.
-/
import ProfileReadme.Proofs.Block.Exported

namespace ProfileReadme

/-! ## Ways down -/

/-- What one comes to: a block, or an item that is a text. -/
inductive Find where
  | block (b : Block)
  | text (s : String)

/-- Whether an element holds blocks of its own. -/
def Element.isGroup : Element → Bool
  | .badgeGroup _ | .statGroup _ | .socialGroup _ => true
  | _ => false

/-- Whether something is said at this place itself: by a text, or by a visible block that holds no
others and is not vacuous. Of such blocks only texts, headings, quotes and custom blocks without a
text and animations without lines are vacuous. -/
def Find.speaks : Find → Bool
  | .text s => !s.isEmpty
  | .block (.element _ visible e) => visible && !e.isGroup && !e.isVacuous
  | .block _ => false

mutual

/-- The ways from a block: it is left downwards only if it is visible. -/
inductive Block.Reaches : Block → Find → Prop
  | here (b : Block) : b.Reaches (.block b)
  | member {id : String} {e : Element} {b : Block} (mem : b ∈ e.members) :
    (Block.element id true e).Reaches (.block b)
  | child {id : String} {layout : Layout} {children : List Block} {b : Block} {f : Find}
    (mem : b ∈ children) (down : b.Reaches f) : (Block.stack id true layout children).Reaches f
  | item {id : String} {marker : ListMarker} {items : List Item} {i : Item} {f : Find}
    (mem : i ∈ items) (down : i.Reaches f) : (Block.list id true marker items).Reaches f

/-- The ways from an item, which must be kept. -/
inductive Item.Reaches : Item → Find → Prop
  | text {s : String} {icon : Option String} {nested : List Item}
    (kept : (Item.text s icon nested).Kept) : (Item.text s icon nested).Reaches (.text s)
  | content {b : Block} {icon : Option String} {nested : List Item} {f : Find}
    (kept : (Item.block b icon nested).Kept) (down : b.Reaches f) :
    (Item.block b icon nested).Reaches f
  | nested {i j : Item} {f : Find} (kept : i.Kept) (mem : j ∈ i.nested) (down : j.Reaches f) :
    i.Reaches f

/-- An item is kept for a text, or for what its block leads to. -/
inductive Item.Kept : Item → Prop
  | text {s : String} {icon : Option String} {nested : List Item} (filled : s ≠ "") :
    (Item.text s icon nested).Kept
  | block {b : Block} {icon : Option String} {nested : List Item} {f : Find}
    (down : b.Reaches f) (speaks : f.speaks = true) : (Item.block b icon nested).Kept

end

/-! ## What is found is shown -/

theorem Element.not_isVacuous_of_member {e : Element} {b : Block} (mem : b ∈ e.members)
    (speaks : (Find.block b).speaks = true) : e.isVacuous = false := by
  have visible {α : Type} {element : α → Element} {members : List (Placed α)}
      (mem : b ∈ members.map (Placed.member element)) : members.all (!·.visible) = false := by
    obtain ⟨p, hp, rfl⟩ := List.mem_map.1 mem
    have shown : p.visible = true := by
      simp only [Placed.member, Find.speaks, Bool.and_eq_true] at speaks
      exact speaks.1.1
    rw [List.all_eq_false]
    exact ⟨p, hp, by simp [shown]⟩
  cases e with
  | badgeGroup e | statGroup e | socialGroup e => exact visible mem
  | _ => exact absurd mem List.not_mem_nil

theorem Block.anyShows_of_mem {p : Element → Bool} {b : Block} (h : b.shows p = true) :
    ∀ {bs : List Block}, b ∈ bs → Block.anyShows p bs = true
  | c :: bs, mem => by
    unfold Block.anyShows
    rcases List.mem_cons.1 mem with rfl | mem
    · rw [h, Bool.true_or]
    · rw [Block.anyShows_of_mem h mem, Bool.or_true]

/-- Whether the content of an item shows something. -/
def Item.shows (p : Element → Bool) : Item → Bool
  | .text s _ _ => !s.isEmpty
  | .block b _ _ => b.shows p

theorem Item.anyShows_cons (p : Element → Bool) (i : Item) (rest : List Item) :
    Item.anyShows p (i :: rest) = (i.shows p || Item.anyShows p rest) := by
  cases i <;> rfl

theorem Item.anyShows_of_mem {p : Element → Bool} {i : Item} (h : i.shows p = true) :
    ∀ {items : List Item}, i ∈ items → Item.anyShows p items = true
  | j :: items, mem => by
    rw [Item.anyShows_cons]
    rcases List.mem_cons.1 mem with rfl | mem
    · rw [h, Bool.true_or]
    · rw [Item.anyShows_of_mem h mem, Bool.or_true]

mutual

theorem Block.Reaches.isExported : ∀ {b : Block} {f : Find}, b.Reaches f → f.speaks = true →
    b.isExported = true
  | .element _ visible e, _, .here _, speaks => by
    simp only [Find.speaks, Bool.and_eq_true] at speaks
    exact Bool.and_eq_true_iff.2 ⟨speaks.1.1, speaks.2⟩
  | .stack .., _, .here _, speaks => by cases speaks
  | .list .., _, .here _, speaks => by cases speaks
  | _, _, .member mem, speaks => by
    show (true && !Element.isVacuous _) = true
    rw [Element.not_isVacuous_of_member mem speaks]
    rfl
  | _, _, .child mem down, speaks => Block.anyShows_of_mem (down.isExported speaks) mem
  | _, _, .item mem down, _ => Item.anyShows_of_mem down.shows mem

/-- However one goes on from an item, it is kept. -/
theorem Item.Reaches.shows : ∀ {i : Item} {f : Find}, i.Reaches f →
    i.shows (!·.isVacuous) = true
  | _, _, .text kept => kept.shows
  | _, _, .content kept _ => kept.shows
  | _, _, .nested kept _ _ => kept.shows

theorem Item.Kept.shows : ∀ {i : Item}, i.Kept → i.shows (!·.isVacuous) = true
  | _, .text filled => by simpa [Item.shows] using filled
  | _, .block down speaks => down.isExported speaks

end

/-! ## What is shown is found -/

/-- A group that is not vacuous has a visible member, and members always speak. -/
theorem Element.exists_member {e : Element} (group : e.isGroup = true)
    (filled : e.isVacuous = false) : ∃ b ∈ e.members, (Find.block b).speaks = true := by
  have visible {α : Type} {element : α → Element} {members : List (Placed α)}
      (some : members.all (!·.visible) = false)
      (always : ∀ a, (!(element a).isGroup && !(element a).isVacuous) = true) :
      ∃ b ∈ members.map (Placed.member element), (Find.block b).speaks = true := by
    obtain ⟨p, hp, shown⟩ := List.all_eq_false.1 some
    have shown : p.visible = true := by simpa using shown
    refine ⟨p.member element, List.mem_map_of_mem hp, ?_⟩
    show (p.visible && _ && _) = true
    rw [Bool.and_assoc, always, shown]
    rfl
  cases e with
  | badgeGroup e | statGroup e | socialGroup e => exact visible filled fun _ => rfl
  | _ => cases group

mutual

theorem Block.exists_reaches : ∀ {b : Block}, b.isExported = true →
    ∃ f, b.Reaches f ∧ f.speaks = true
  | .element id visible e, h => by
    obtain ⟨rfl, filled⟩ := Bool.and_eq_true_iff.1 h
    cases group : e.isGroup with
    | true =>
      have some : e.isVacuous = false := by simpa using filled
      obtain ⟨b, mem, speaks⟩ := e.exists_member group some
      exact ⟨.block b, .member mem, speaks⟩
    | false => exact ⟨_, .here _, by simpa [Find.speaks, group] using filled⟩
  | .stack id visible layout children, h => by
    obtain ⟨rfl, some⟩ := Bool.and_eq_true_iff.1 h
    obtain ⟨b, mem, f, down, speaks⟩ := Block.exists_reachesAll some
    exact ⟨f, .child mem down, speaks⟩
  | .list id visible marker items, h => by
    obtain ⟨rfl, some⟩ := Bool.and_eq_true_iff.1 h
    obtain ⟨i, mem, f, down, speaks⟩ := Item.exists_reachesAll some
    exact ⟨f, .item mem down, speaks⟩

theorem Block.exists_reachesAll : ∀ {bs : List Block}, Block.anyShows (!·.isVacuous) bs = true →
    ∃ b ∈ bs, ∃ f, b.Reaches f ∧ f.speaks = true
  | b :: bs, h => by
    rcases Bool.or_eq_true_iff.1 h with first | later
    · exact ⟨b, List.mem_cons_self .., Block.exists_reaches first⟩
    · obtain ⟨c, mem, found⟩ := Block.exists_reachesAll later
      exact ⟨c, List.mem_cons_of_mem _ mem, found⟩

theorem Item.exists_reachesAll : ∀ {items : List Item}, Item.anyShows (!·.isVacuous) items = true →
    ∃ i ∈ items, ∃ f, i.Reaches f ∧ f.speaks = true
  | .text s icon nested :: items, h => by
    rcases Bool.or_eq_true_iff.1 h with first | later
    · have filled : s ≠ "" := by simpa using first
      exact ⟨_, List.mem_cons_self .., .text s, .text (.text filled), first⟩
    · obtain ⟨i, mem, found⟩ := Item.exists_reachesAll later
      exact ⟨i, List.mem_cons_of_mem _ mem, found⟩
  | .block b icon nested :: items, h => by
    rcases Bool.or_eq_true_iff.1 h with first | later
    · obtain ⟨f, down, speaks⟩ := Block.exists_reaches first
      exact ⟨_, List.mem_cons_self .., f, .content (.block down speaks) down, speaks⟩
    · obtain ⟨i, mem, found⟩ := Item.exists_reachesAll later
      exact ⟨i, List.mem_cons_of_mem _ mem, found⟩

end

theorem Block.isExported_iff_reaches {b : Block} :
    b.isExported = true ↔ ∃ f, b.Reaches f ∧ f.speaks = true :=
  ⟨Block.exists_reaches, fun ⟨_, down, speaks⟩ => down.isExported speaks⟩

/-! ## Sections -/

namespace Render.RenderedSection

/-- A section has markdown exactly if it is visible and one comes from one of its blocks, through
visible blocks and kept items, to something that speaks. -/
theorem markdown_filled_iff (s : RenderedSection) (comment : Bool) :
    s.markdown comment ≠ "" ↔
      s.visible = true ∧ ∃ b ∈ s.blocks, ∃ f, b.Reaches f ∧ f.speaks = true := by
  have blocks : Markdown.joinBlocks "\n\n" s.blocks ≠ "" ↔
      ∃ b ∈ s.blocks, ∃ f, b.Reaches f ∧ f.speaks = true := by
    rw [ne_eq, Markdown.joinBlocks_eq_empty_iff]
    simp only [not_forall, exists_prop, Bool.not_eq_false, Block.isExported_iff_reaches]
  cases visible : s.visible with
  | false =>
    have hidden : s.markdown comment = "" := by
      unfold markdown
      rw [visible]
      rfl
    exact iff_of_false (fun filled => filled hidden) fun h => Bool.false_ne_true h.1
  | true => rw [ne_eq, s.markdown_eq_empty_iff comment visible, ← ne_eq, blocks, eq_self, true_and]

end Render.RenderedSection

end ProfileReadme
