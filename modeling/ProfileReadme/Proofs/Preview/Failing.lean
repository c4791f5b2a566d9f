/-
When a preview fails: exactly if it has to follow a link that cannot be followed, to make a markup
text safe that the reader of markup rejects, or to track an image that no text names. What a block
asks for is collected over its tree in the order of drawing; an item of a list asks for what is
nested in it even if the item itself shows nothing.
-/
import ProfileReadme.Preview.Page
import ProfileReadme.Proofs.Preview.Drawing
import ProfileReadme.Proofs.Schema.Rereading
import ProfileReadme.Proofs.Url.Following

namespace ProfileReadme

open Preview Preview.Drawing

/-- What a drawing needs to be possible. -/
inductive Preview.Demand where
  | link (url : String)
  | markup (content : String)
  | picture (src alt : Value)

/-- Whether the need is met. -/
def Preview.Demand.Met (c : Context) : Demand → Prop
  | .link url => Url.Followable url c.baseUrl
  | .markup content => ∃ s, Markup.sanitize content = .ok s
  | .picture src alt => ∀ v ∈ [src, alt], v ≠ .null → ∃ s, Reader.text v = .ok s

/-! ## What blocks ask for -/

/-- A link that is there if its text is not empty. -/
def Preview.linkIf (url : Option String) : List Demand := (Text.filled? url).toList.map .link

namespace Element

def Custom.demands (e : Custom) : List Demand :=
  match e.setting? "image_url" with
  | some src => [.picture src ((e.setting? "alt").getD (.text e.customType))]
  | none => if e.customType = "html" ∧ e.content ≠ "" then [.markup e.content] else []

def demands : Element → List Demand
  | .image e => .link e.src :: linkIf e.link
  | .link e => [.link e.href]
  | .badge e => linkIf e.link
  | .social e => [.link e.url]
  | .card e => linkIf e.url
  | .award e => linkIf e.url
  | .custom e => e.demands
  | .badgeGroup e => (e.members.filter (·.visible)).flatMap fun p => linkIf p.content.link
  | .socialGroup e => (e.members.filter (·.visible)).map fun p => .link p.content.url
  | _ => []

end Element

mutual

/-- What a block asks for, in the order in which it is drawn. -/
def Block.demands : Block → List Demand
  | .element _ visible content => if visible then content.demands else []
  | .stack _ visible _ children => if visible then Block.demandsAll children else []
  | .list _ visible _ items => if visible then Item.demandsAll items else []

def Block.demandsAll : List Block → List Demand
  | [] => []
  | b :: bs => b.demands ++ Block.demandsAll bs

def Item.demandsAll : List Item → List Demand
  | [] => []
  | .text _ _ nested :: rest => Item.demandsAll nested ++ Item.demandsAll rest
  | .block content _ nested :: rest =>
    Item.demandsAll nested ++ content.demands ++ Item.demandsAll rest

end

theorem Block.demandsAll_eq (bs : List Block) :
    Block.demandsAll bs = bs.flatMap Block.demands := by
  induction bs with
  | nil => rfl
  | cons b bs ih => rw [Block.demandsAll, ih, List.flatMap_cons]

/-! ## Parts -/

section

variable (c : Context)

theorem Preview.resolve_returnsIff (url : String) :
    (c.resolve url).ReturnsIff (Url.Followable url c.baseUrl) :=
  (returnsIff_ofExcept .url _).congr (Url.resolve_ok_iff url c.baseUrl)

/-- A link that is followed only if its text is not empty. -/
theorem Preview.linkIf_returnsIff {α : Type} (url : Option String) (draw : String → Drawing α)
    (bare : Drawing α) (hdraw : ∀ s, (draw s).ReturnsIff (Url.Followable s c.baseUrl))
    (hbare : bare.ReturnsIff True) :
    (match Text.filled? url with
      | some s => draw s
      | none => bare).ReturnsIff (∀ d ∈ linkIf url, d.Met c) := by
  unfold linkIf
  cases Text.filled? url with
  | none => exact hbare.congr (by simp)
  | some s => exact (hdraw s).congr (by simp [Demand.Met])

/-! ## Images of cards -/

theorem Preview.readAttrs_ok_iff : ∀ attrs : List (String × Value),
    (∃ as, readAttrs attrs = .ok as) ↔ ∀ a ∈ attrs, ∃ s, Reader.text a.2 = .ok s
  | [] => iff_of_true ⟨[], rfl⟩ (by simp)
  | (k, v) :: rest => by
    rw [List.forall_mem_cons, ← Preview.readAttrs_ok_iff rest]
    constructor
    · rintro ⟨as, h⟩
      obtain ⟨g, more, hg, hmore, rfl⟩ := Checked.seq_eq_ok h
      obtain ⟨s, hs, rfl⟩ := Checked.map_eq_ok hg
      exact ⟨⟨s, Checked.inField_eq_ok hs⟩, more, hmore⟩
    · rintro ⟨⟨s, hs⟩, more, hmore⟩
      refine ⟨(k, s) :: more, ?_⟩
      rw [readAttrs, hs, hmore]
      rfl

theorem Preview.putAttr_new {name : String} {value : α} : ∀ {attrs : List (String × α)},
    name ∉ attrs.map Prod.fst → putAttr name value attrs = attrs ++ [(name, value)]
  | [], _ => rfl
  | (k, v) :: rest, h => by
    rw [List.map_cons, List.mem_cons, not_or] at h
    rw [putAttr, if_neg fun same => h.1 same.symm, putAttr_new h.2]
    rfl

/-- Attributes of different names are all put. -/
theorem Preview.foldl_putAttr (attrs : List (String × Value)) : ∀ {done : List (String × Value)},
    (done.map Prod.fst ++ attrs.map (attrName ·.1)).Nodup →
      attrs.foldl (fun done (k, v) => putAttr (attrName k) v done) done =
        done ++ attrs.map fun (k, v) => (attrName k, v) := by
  induction attrs with
  | nil => intro done _; simp
  | cons a attrs ih =>
    intro done distinct
    obtain ⟨k, v⟩ := a
    have new : attrName k ∉ done.map Prod.fst := fun mem =>
      (List.nodup_append.1 distinct).2.2 _ mem _ (List.mem_cons_self ..) rfl
    show attrs.foldl _ (putAttr (attrName k) v done) = _
    rw [putAttr_new new, ih (by simpa using distinct)]
    simp

/-- An element of attributes of different names is made if the values that are there are texts. -/
theorem Preview.elementOf_ok_iff {tag : String} {attrs : List (String × Value)}
    {children : List (Option Child)} {raw : Bool}
    (distinct : ((attrs.map Prod.fst).map attrName).Nodup) :
    (∃ n, elementOf tag attrs children raw = .ok n) ↔
      ∀ a ∈ attrs, a.2 ≠ .null → ∃ s, Reader.text a.2 = .ok s := by
  unfold elementOf
  dsimp only
  -- attributes without a value are left out before the others are read
  generalize hset : attrs.filter _ = set
  have mem_set : ∀ a, a ∈ set ↔ a ∈ attrs ∧ a.2 ≠ .null := by
    rintro ⟨k, v⟩
    rw [← hset, List.mem_filter]
    cases v <;> simp
  have kept : (set.map (attrName ·.1)).Nodup := by
    rw [List.map_map] at distinct
    rw [← hset]
    exact distinct.sublist (List.filter_sublist.map _)
  rw [foldl_putAttr _ (by simpa using kept), List.nil_append]
  constructor
  · rintro ⟨n, h⟩ a ha there
    obtain ⟨as, has, -⟩ := Checked.map_eq_ok h
    have put : (attrName a.1, a.2) ∈ set.map fun (k, v) => (attrName k, v) :=
      List.mem_map.2 ⟨a, (mem_set a).2 ⟨ha, there⟩, rfl⟩
    exact (readAttrs_ok_iff _).1 ⟨as, Checked.inField_eq_ok has⟩ (attrName a.1, a.2) put
  · intro h
    have texts : ∀ a ∈ set.map fun (k, v) => (attrName k, v), ∃ s, Reader.text a.2 = .ok s := by
      refine List.forall_mem_map.2 fun a ha => ?_
      obtain ⟨ha, there⟩ := (mem_set a).1 ha
      exact h a ha there
    obtain ⟨as, has⟩ := (readAttrs_ok_iff _).2 texts
    refine ⟨.mk tag as (children.filterMap id) raw, ?_⟩
    rw [has]
    rfl

theorem Preview.checked_returnsIff (node : Checked Node) :
    (match node with
      | .ok n => pure n
      | .bad issues => throw (.invalid issues) : Drawing Node).ReturnsIff (∃ n, node = .ok n) := by
  cases node with
  | ok n => exact (returnsIff_pure n).congr (iff_of_true trivial ⟨n, rfl⟩)
  | bad issues =>
    refine (returnsIff_throw (.invalid issues)).congr (iff_of_false id ?_)
    rintro ⟨n, h⟩
    cases h

theorem Preview.isKey_of_text {v : Value} (h : v ≠ .null → ∃ s, Reader.text v = .ok s) :
    v.isKey = true := by
  cases v with
  | list | object | record =>
    obtain ⟨s, hs⟩ := h Value.noConfusion
    cases hs
  | _ => rfl

/-- An image of a card is drawn, whether it is loaded or not, if it is named by texts. -/
theorem Preview.card_returnsIff (src alt : Value) (type : String) :
    (card src alt type).ReturnsIff ((Demand.picture src alt).Met c) := by
  have loaded : (["src", "alt", "loading", "class"].map attrName).Nodup := by decide
  have skeleton : (["class", "role", "aria-label", "aria-busy", "data-status",
    "data-src"].map attrName).Nodup := by decide
  unfold card
  cases key : src.isKey with
  | false =>
    intro t
    refine iff_of_false ?_ fun h => ?_
    · rintro ⟨n, t', hrun⟩
      cases hrun
    · rw [isKey_of_text (h src (List.mem_cons_self ..))] at key
      cases key
  | true =>
    refine ((returnsIff_modifyGet _).bind fun status =>
      (checked_returnsIff _).congr (Q := (Demand.picture src alt).Met c) ?_).congr
        (and_iff_right trivial)
    split
    · rw [elementOf_ok_iff (by exact loaded)]
      simp [Demand.Met]
    · rw [elementOf_ok_iff (by exact skeleton)]
      cases status <;> simp [Demand.Met, Named.write, and_comm]

/-! ## Elements -/

namespace Element

theorem Image.draw_returnsIff (i : Image) :
    (i.draw c).ReturnsIff (∀ d ∈ Demand.link i.src :: linkIf i.link, d.Met c) := by
  unfold Image.draw
  have framed (image : Node) :
      (do
        let image ← pure image
        return element "p" [("class", some (alignClass (i.align.getD .center)))] [inside image]
          false : Drawing Node).ReturnsIff True :=
    (returnsIff_pure image).before fun _ => returnsIff_pure _
  refine ((resolve_returnsIff c i.src).bind fun src => linkIf_returnsIff c i.link _ _
    (fun link => (resolve_returnsIff c link).before fun href => framed _) (framed _)).congr ?_
  simp [Demand.Met]

theorem Link.draw_returnsIff (l : Link) :
    (l.draw c).ReturnsIff (Url.Followable l.href c.baseUrl) :=
  (resolve_returnsIff c l.href).before fun _ => returnsIff_pure _

theorem Badge.draw_returnsIff (b : Badge) :
    (b.draw c).ReturnsIff (∀ d ∈ linkIf b.link, d.Met c) := by
  unfold Badge.draw
  exact linkIf_returnsIff c b.link _ _
    (fun link => (resolve_returnsIff c link).before fun href => returnsIff_pure _)
    (returnsIff_pure _)

theorem Social.draw_returnsIff (s : Social) :
    (s.draw c).ReturnsIff (Url.Followable s.url c.baseUrl) :=
  (resolve_returnsIff c s.url).before fun _ => returnsIff_pure _

theorem Card.draw_returnsIff (k : Card) :
    (k.draw c).ReturnsIff (∀ d ∈ linkIf k.url, d.Met c) := by
  unfold Card.draw optionalLink
  exact (linkIf_returnsIff c k.url _ _
    (fun url => (resolve_returnsIff c url).before fun href => returnsIff_pure _)
    (returnsIff_pure _)).before fun link => returnsIff_pure _

theorem Award.draw_returnsIff (a : Award) :
    (a.draw c).ReturnsIff (∀ d ∈ linkIf a.url, d.Met c) := by
  unfold Award.draw
  exact linkIf_returnsIff c a.url _ _
    (fun url => (resolve_returnsIff c url).before fun href =>
      (returnsIff_pure _).before fun title => returnsIff_pure _)
    ((returnsIff_pure _).before fun title => returnsIff_pure _)

theorem StatsCard.draw_returnsIff (s : StatsCard) : s.draw.ReturnsIff True :=
  (card_returnsIff {} _ _ _).congr (by simp [Demand.Met])

theorem Graph.draw_returnsIff (g : Graph) : g.draw.ReturnsIff True :=
  (card_returnsIff {} _ _ _).congr (by simp [Demand.Met])

theorem Custom.draw_returnsIff (b : Custom) :
    b.draw.ReturnsIff (∀ d ∈ b.demands, d.Met c) := by
  unfold Custom.draw Custom.demands
  cases b.setting? "image_url" with
  | some src =>
    exact ((card_returnsIff c src _ b.customType).map some).congr (by simp)
  | none =>
    dsimp only
    by_cases empty : b.content = ""
    · rw [if_pos (by simp [empty]), if_neg fun h => h.2 empty]
      exact (returnsIff_pure none).congr (by simp)
    rw [if_neg (by simpa using empty)]
    by_cases markdown : b.customType = "markdown"
    · rw [if_pos markdown, if_neg (by simp [markdown])]
      exact (returnsIff_pure _).congr (by simp)
    rw [if_neg markdown]
    by_cases html : b.customType = "html"
    · rw [if_pos html, if_pos ⟨html, empty⟩]
      refine ((returnsIff_ofExcept .markup _).before fun safe => returnsIff_pure _).congr ?_
      simp [Demand.Met]
    · rw [if_neg html, if_neg fun h => html h.1]
      exact (returnsIff_pure _).congr (by simp)

theorem drawMembers_returnsIff {α : Type} {draw : α → Drawing Node} {p : α → Prop}
    (h : ∀ a, (draw a).ReturnsIff (p a)) (members : List (Placed α)) :
    (drawMembers draw members).ReturnsIff (∀ m ∈ members.filter (·.visible), p m.content) :=
  returnsIff_mapM (fun m : Placed α => h m.content) _

theorem draw_returnsIff (e : Element) : (e.draw c).ReturnsIff (∀ d ∈ e.demands, d.Met c) := by
  have free {x : Drawing (Option Node)} (h : x.ReturnsIff True) :
      x.ReturnsIff (∀ d ∈ ([] : List Demand), d.Met c) := h.congr (by simp)
  cases e with
  | image e => exact (e.draw_returnsIff c).map some
  | link e => exact ((e.draw_returnsIff c).map some).congr (by simp [demands, Demand.Met])
  | badge e => exact (e.draw_returnsIff c).map some
  | social e => exact ((e.draw_returnsIff c).map some).congr (by simp [demands, Demand.Met])
  | card e => exact (e.draw_returnsIff c).map some
  | award e => exact (e.draw_returnsIff c).map some
  | custom e => exact e.draw_returnsIff c
  | statsCard e => exact free (e.draw_returnsIff.map some)
  | graph e => exact free (e.draw_returnsIff.map some)
  | badgeGroup e =>
    refine ((drawMembers_returnsIff (Badge.draw_returnsIff c) e.members).before fun nodes =>
      returnsIff_pure _).congr ?_
    exact List.forall_mem_flatMap.symm
  | statGroup e =>
    have members := drawMembers_returnsIff (p := fun _ => True)
      (fun s : Stat => returnsIff_pure s.draw) e.members
    exact free ((members.congr (by simp)).before fun nodes => returnsIff_pure _)
  | socialGroup e =>
    refine ((drawMembers_returnsIff (Social.draw_returnsIff c) e.members).before fun nodes =>
      returnsIff_pure _).congr ?_
    exact (List.forall_mem_map (f := fun m : Placed Social => Demand.link m.content.url)
      (P := Demand.Met c)).symm
  | _ => exact free (returnsIff_pure _)

end Element

/-! ## Blocks -/

mutual

theorem Block.drawTree_returnsIff : ∀ b : Block,
    (b.drawTree c).ReturnsIff (∀ d ∈ b.demands, d.Met c)
  | .element _ visible content => by
    unfold Block.drawTree Block.demands
    cases visible with
    | false => exact (returnsIff_pure none).congr (by simp)
    | true => exact content.draw_returnsIff c
  | .stack _ visible layout children => by
    unfold Block.drawTree Block.demands
    cases visible with
    | false => exact (returnsIff_pure none).congr (by simp)
    | true => exact (Block.drawAll_returnsIff children).before fun nodes => returnsIff_pure _
  | .list _ visible marker items => by
    unfold Block.drawTree Block.demands
    cases visible with
    | false => exact (returnsIff_pure none).congr (by simp)
    | true => exact (Item.drawAll_returnsIff marker items).before fun nodes => returnsIff_pure _

theorem Block.drawAll_returnsIff : ∀ bs : List Block,
    (Block.drawAll c bs).ReturnsIff (∀ d ∈ Block.demandsAll bs, d.Met c)
  | [] => (returnsIff_pure []).congr (by simp [Block.demandsAll])
  | b :: bs => by
    unfold Block.drawAll Block.demandsAll
    refine ((Block.drawTree_returnsIff b).bind fun node =>
      (Block.drawAll_returnsIff bs).before fun nodes => returnsIff_pure _).congr ?_
    exact List.forall_mem_append.symm

theorem Item.drawAll_returnsIff (marker : ListMarker) : ∀ items : List Item,
    (Item.drawAll c marker items).ReturnsIff (∀ d ∈ Item.demandsAll items, d.Met c)
  | [] => (returnsIff_pure []).congr (by simp [Item.demandsAll])
  | .text content icon nested :: rest => by
    unfold Item.drawAll Item.demandsAll
    refine ((Item.drawAll_returnsIff marker nested).bind fun below =>
      (Item.drawAll_returnsIff marker rest).before fun nodes => ?_).congr ?_
    · split <;> exact returnsIff_pure _
    · exact List.forall_mem_append.symm
  | .block content icon nested :: rest => by
    unfold Item.drawAll Item.demandsAll
    refine ((Item.drawAll_returnsIff marker nested).bind fun below =>
      (Block.drawTree_returnsIff content).bind fun node =>
        (Item.drawAll_returnsIff marker rest).before fun nodes => ?_).congr ?_
    · split <;> exact returnsIff_pure _
    · rw [List.forall_mem_append, List.forall_mem_append, and_assoc]

end

/-- A block is drawn if it is shown as its markdown, or if all that it asks for is met. -/
theorem Block.draw_returnsIff (b : Block) :
    (b.draw c).ReturnsIff (c.asMarkdown = true ∨ ∀ d ∈ b.demands, d.Met c) := by
  unfold Block.draw
  cases c.asMarkdown with
  | true => exact (returnsIff_pure _).congr (by simp)
  | false => exact (b.drawTree_returnsIff c).congr (by simp)

theorem Preview.drawBlocks_returnsIff : ∀ bs : List Block,
    (drawBlocks c bs).ReturnsIff (c.asMarkdown = true ∨ ∀ d ∈ bs.flatMap Block.demands, d.Met c)
  | [] => (returnsIff_pure []).congr (by simp)
  | b :: bs => by
    unfold drawBlocks
    refine ((b.draw_returnsIff c).bind fun node =>
      (Preview.drawBlocks_returnsIff bs).before fun nodes => returnsIff_pure _).congr ?_
    rw [List.flatMap_cons, List.forall_mem_append, or_and_left]

/-! ## Outputs -/

end

namespace Render

variable (c : Preview.Context)

/-- What the blocks of a section ask for, if it is shown at all. -/
def RenderedSection.demands (s : RenderedSection) : List Demand :=
  if s.visible then s.blocks.flatMap Block.demands else []

def Output.demands (o : Output) : List Demand := o.sections.flatMap RenderedSection.demands

theorem RenderedSection.draw_returnsIff (s : RenderedSection) :
    (s.draw c).ReturnsIff (c.asMarkdown = true ∨ ∀ d ∈ s.demands, d.Met c) := by
  unfold RenderedSection.draw RenderedSection.demands
  cases s.visible with
  | false => exact (returnsIff_pure none).congr (by simp)
  | true =>
    refine (drawBlocks_returnsIff c s.blocks).before fun nodes => ?_
    split <;> exact returnsIff_pure _

theorem Output.draw_returnsIff (o : Output) :
    (o.draw c).ReturnsIff (c.asMarkdown = true ∨ ∀ d ∈ o.demands, d.Met c) := by
  unfold Output.draw Output.demands
  refine ((returnsIff_mapM (RenderedSection.draw_returnsIff c) o.sections).before fun nodes =>
    returnsIff_pure _).congr ?_
  rw [List.forall_mem_flatMap]
  by_cases md : c.asMarkdown = true <;> simp [md]

end Render

end ProfileReadme
