/-
Previews of whole outputs: with the usual builders the preview shows the sections that the readme
contains, and titles those that the readme titles. No block of theirs is hollow, and no block is
drawn like the title of a section.
-/
import ProfileReadme.Proofs.Preview.Shown
import ProfileReadme.Proofs.Preview.Titles
import ProfileReadme.Proofs.Render.Built
import ProfileReadme.Markdown.Document
import ProfileReadme.Preview.Page

namespace ProfileReadme

open Preview Preview.Drawing

/-! ## No block of a builder is hollow -/

theorem Block.anyShows_eq_true_iff (p : Element → Bool) (bs : List Block) :
    Block.anyShows p bs = true ↔ ∃ b ∈ bs, b.shows p = true := by
  induction bs with
  | nil => simp [Block.anyShows]
  | cons b bs ih =>
    unfold Block.anyShows
    rw [Bool.or_eq_true, ih, List.exists_mem_cons_iff]

/-- A list of texts shows them, whatever else is looked for. -/
theorem Item.anyShows_texts (p q : Element → Bool) (icon : Option String) (ss : List String) :
    Item.anyShows p (ss.map fun s => .text s icon []) =
      Item.anyShows q (ss.map fun s => .text s icon []) := by
  induction ss with
  | nil => rfl
  | cons s ss ih => exact congrArg (!s.isEmpty || ·) ih

theorem Element.isGhost_eq_false {e : Element} (h : e.IsBuilt) : e.isGhost = false := by
  cases e with
  | quote e => exact String.isEmpty_eq_false_iff.2 h
  | custom e =>
    show (e.content.isEmpty && (e.setting? "image_url").isSome) = false
    cases hc : e.content.isEmpty with
    | false => rfl
    | true =>
      have none : e.setting? "image_url" = none := h.filled (String.isEmpty_iff.1 hc)
      rw [none]; rfl
  | _ => rfl

theorem Block.isHollow_eq_false_iff (b : Block) :
    b.isHollow = false ↔ (b.shows Element.isGhost = true → b.isExported = true) := by
  unfold Block.isHollow
  cases b.isExported <;> cases b.shows Element.isGhost <;> simp

theorem Block.hollow_keptUp : Block.KeptUp fun b => b.isHollow = false where
  element id e h := by
    rw [Block.isHollow_eq_false_iff]
    intro ghost
    have : e.isGhost = true := ghost
    rw [Element.isGhost_eq_false h] at this
    cases this
  stack id layout children h := by
    rw [Block.isHollow_eq_false_iff]
    intro ghost
    obtain ⟨b, hb, shown⟩ := (Block.anyShows_eq_true_iff _ children).1 ghost
    have exported := (Block.isHollow_eq_false_iff b).1 (h b hb) shown
    exact (Block.anyShows_eq_true_iff _ children).2 ⟨b, hb, exported⟩
  texts id marker ss icon := by
    rw [Block.isHollow_eq_false_iff]
    exact fun ghost => (Item.anyShows_texts _ _ icon ss).trans ghost

/-! ## Blocks and sections -/

/-- A block that is not hollow shows exactly if it is exported, as it will look or as markdown. -/
theorem Block.draw_isSome (c : Context) {b : Block} (h : b.isHollow = false) :
    (b.draw c).Returns fun node => node.isSome = b.isExported := by
  unfold Block.draw
  split
  · refine returns_pure ?_
    cases hm : b.markdown.isEmpty with
    | true => exact ((b.markdown_eq_empty_iff).1 (String.isEmpty_iff.1 hm)).symm
    | false =>
      have exported := mt b.markdown_eq_empty_iff.2 (String.isEmpty_eq_false_iff.1 hm)
      simpa using (Bool.not_eq_false _ ▸ exported : b.isExported = true).symm
  · refine (Block.drawTree_isSome c b).mono fun node hn => ?_
    rw [hn, b.shows_isDrawn]
    have := (Block.isHollow_eq_false_iff b).1 h
    cases he : b.isExported <;> cases hg : b.shows Element.isGhost <;> simp_all

theorem drawBlocks_shows (c : Context) : ∀ {bs : List Block}, (∀ b ∈ bs, b.isHollow = false) →
    (drawBlocks c bs).Returns fun nodes =>
      (nodes = [] ↔ ∀ b ∈ bs, b.isExported = false) ∧ ∀ n ∈ nodes, n.isSectionTitle = false
  | [], _ => returns_pure ⟨by simp, by simp⟩
  | b :: bs, h => by
    obtain ⟨hb, hbs⟩ := List.forall_mem_cons.1 h
    refine ((Block.draw_isSome c hb).and (b.draw_untitled c)).bind fun node hnode => ?_
    refine (drawBlocks_shows c hbs).bind fun nodes hnodes => returns_pure ?_
    obtain ⟨hsome, untitled⟩ := hnode
    obtain ⟨hempty, others⟩ := hnodes
    rw [List.forall_mem_cons, ← hempty, ← hsome]
    cases node with
    | none => exact ⟨by simp, others⟩
    | some n => exact ⟨by simp, List.forall_mem_cons.2 ⟨untitled n rfl, others⟩⟩

namespace Render.RenderedSection

variable (s : RenderedSection) (comment : Bool)

/-- The comment before a section, if the readme has comments. -/
def marker : List String := if comment then ["<!-- Section: " ++ s.type ++ " -->"] else []

/-- The markdown of a section under a title. -/
def titled (title : String) : String :=
  Text.join "\n" (s.marker comment ++ ["## " ++ title]) ++ "\n\n"
    ++ Markdown.joinBlocks "\n\n" s.blocks

/-- A section that shows something has a title in its markdown exactly if it has a title, and no
other text makes it look like a titled one. -/
theorem markdown_eq_titled_iff (visible : s.visible = true)
    (filled : Markdown.joinBlocks "\n\n" s.blocks ≠ "") (title : String) :
    s.markdown comment = s.titled comment title ↔ Text.filled? s.title = some title := by
  unfold markdown titled
  rw [visible, if_pos rfl]
  dsimp only
  rw [if_neg (mt String.isEmpty_iff.1 filled)]
  generalize Markdown.joinBlocks "\n\n" s.blocks = body
  cases Text.filled? s.title with
  | some t =>
    cases comment <;>
      simp [marker, Text.join, String.append_left_inj, String.append_right_inj]
  | none =>
    refine iff_of_false (fun same => ?_) (fun none => by cases none)
    -- a title makes the text longer
    have hashes : "## ".length = 3 := rfl
    cases comment with
    | false =>
      have same : body = "## " ++ title ++ "\n\n" ++ body := same
      have lengths := congrArg String.length same
      simp only [String.length_append] at lengths
      omega
    | true =>
      let line := "<!-- Section: " ++ s.type ++ " -->"
      have same : line ++ "\n\n" ++ body = line ++ "\n" ++ ("## " ++ title) ++ "\n\n" ++ body :=
        same
      have lengths := congrArg String.length same
      simp only [String.length_append] at lengths
      omega

end Render.RenderedSection

/-! ## The preview against the readme -/

namespace Preview

def Node.children : Node → List Child
  | .mk _ _ children _ => children

/-- An element of the preview stands for a section of the readme: it has its id, and it starts with
the title of a section exactly if the markdown has a line with that title above the blocks. -/
structure StandsFor (comment : Bool) (n : Node) (s : Render.RenderedSection) : Prop where
  tag : n.tag = "section"
  id : n.attrs.lookup "id" = some s.id
  title : ∀ m, (n.children.head? = some (.node m) ∧ m.isSectionTitle = true) ↔
    ∃ title, m = classed "h2" "section-title" title ∧ s.markdown comment = s.titled comment title

theorem filterMap_inside (nodes : List Node) :
    (nodes.map inside).filterMap id = nodes.map Child.node := by
  rw [List.filterMap_map]
  exact congrFun (List.filterMap_eq_map (f := Child.node)) nodes

/-- Parts that are no titles have the title before them at their start, and no other one. -/
theorem head_title_iff (title? : Option String) {nodes : List Node}
    (untitled : ∀ n ∈ nodes, n.isSectionTitle = false) (m : Node) :
    (((part? title? (classed "h2" "section-title") :: nodes.map inside).filterMap id).head? =
        some (.node m) ∧ m.isSectionTitle = true) ↔
      ∃ title, m = classed "h2" "section-title" title ∧ Text.filled? title? = some title := by
  unfold part?
  cases Text.filled? title? with
  | some title =>
    constructor
    · rintro ⟨head, -⟩
      cases head
      exact ⟨title, rfl, rfl⟩
    · rintro ⟨_, rfl, ⟨⟩⟩
      exact ⟨rfl, rfl⟩
  | none =>
    refine iff_of_false ?_ (by rintro ⟨_, _, ⟨⟩⟩)
    rintro ⟨head, title⟩
    rw [Option.map_none, List.filterMap_cons_none rfl, filterMap_inside] at head
    -- without a title the first part is one of the nodes
    have hm : m ∈ nodes := by
      cases nodes with
      | nil => cases head
      | cons n rest =>
        cases head
        exact List.mem_cons_self ..
    rw [untitled m hm] at title
    cases title

end Preview

open Render in
theorem Render.RenderedSection.draw_standsFor (c : Preview.Context) (comment : Bool)
    {s : RenderedSection} (visible : s.visible = true)
    (whole : ∀ b ∈ s.blocks, b.isHollow = false) :
    (s.draw c).Returns fun node =>
      (node = none ↔ s.markdown comment = "") ∧ ∀ n ∈ node, StandsFor comment n s := by
  unfold RenderedSection.draw
  rw [visible, if_pos rfl]
  refine (drawBlocks_shows c whole).bind fun nodes h => ?_
  obtain ⟨hempty, untitled⟩ := h
  have body := Markdown.joinBlocks_eq_empty_iff "\n\n" s.blocks
  rw [s.markdown_eq_empty_iff comment visible, body, ← hempty]
  split
  · rename_i none
    exact returns_pure ⟨iff_of_true rfl (List.isEmpty_iff.1 none), fun n hn => by cases hn⟩
  · rename_i some
    have some : nodes ≠ [] := mt List.isEmpty_iff.2 some
    refine returns_pure ⟨iff_of_false (fun none => by cases none) some, ?_⟩
    rintro n ⟨⟩
    refine ⟨rfl, rfl, fun m => (head_title_iff s.title untitled m).trans ?_⟩
    refine exists_congr fun title => and_congr_right fun _ => ?_
    exact (s.markdown_eq_titled_iff comment visible (mt body.1 (mt hempty.2 some)) title).symm

/-- Of parts that are there exactly under a condition, those that are there match what satisfies
it. -/
theorem forall₂_filterMap_filter {R : β → α → Prop} {p : α → Bool} {as : List α}
    {parts : List (Option β)}
    (h : List.Forall₂ (fun a part => (part = none ↔ p a = false) ∧ ∀ b ∈ part, R b a) as parts) :
    List.Forall₂ R (parts.filterMap id) (as.filter p) := by
  induction h with
  | nil => exact .nil
  | @cons a part as parts hpart _ ih =>
    obtain ⟨hnone, hsome⟩ := hpart
    cases part with
    | none =>
      have dropped : ¬ p a = true := by simpa using hnone.1 rfl
      rwa [List.filter_cons_of_neg dropped, List.filterMap_cons_none rfl]
    | some b =>
      have kept : p a = true := by simpa using mt hnone.2
      rw [List.filter_cons_of_pos kept, List.filterMap_cons_some (f := id) rfl]
      exact .cons (hsome b rfl) ih

open Render in
/-- For an output of the usual builders, the elements under the root of a preview stand one to one,
in order and with the same ids, for the sections whose markdown is not empty. -/
theorem Render.Output.draw_mirrors_readme {t : Template} {p : Profile} {o : Options} {out : Output}
    (h : (render .usual t p o).output = some out) (c : Preview.Context) (comment : Bool)
    {k k' : Tracker} {root : Node} (hdraw : (out.draw c).run k = (.ok root, k')) :
    ∃ nodes : List Node, root.children = nodes.map .node ∧
      nodes.map (·.attrs.lookup "id") =
        (out.sections.filter fun s => s.markdown comment ≠ "").map (some ·.id) ∧
      List.Forall₂ (StandsFor comment) nodes
        (out.sections.filter fun s => s.markdown comment ≠ "") := by
  -- the sections are drawn one by one, and those that are not drawn are left out after that
  have whole : (out.draw c).Returns fun root => ∃ nodes : List Node,
      root.children = nodes.map .node ∧ List.Forall₂ (StandsFor comment) nodes
        (out.sections.filter fun s => s.markdown comment ≠ "") := by
    refine (Returns.mapM (p := fun s node => (node = none ↔ s.markdown comment = "") ∧
      ∀ n ∈ node, StandsFor comment n s) fun s hs => ?_).bind fun parts hparts => ?_
    · obtain ⟨_, _, _, _, rfl⟩ := render_output_section .usual t p o h hs
      exact RenderedSection.draw_standsFor c comment rfl (output_kept Block.hollow_keptUp h hs)
    · refine returns_pure ⟨parts.filterMap id, ?_, forall₂_filterMap_filter ?_⟩
      · exact filterMap_inside _
      · exact hparts.imp fun s node hs => ⟨by simpa using hs.1, hs.2⟩
  obtain ⟨nodes, children, stands⟩ := whole.of_run hdraw
  refine ⟨nodes, children, ?_, stands⟩
  rw [← List.forall₂_eq_eq_eq, List.forall₂_map_left_iff, List.forall₂_map_right_iff]
  exact stands.imp fun n s hn => hn.id

def mottoSection : Section :=
  { id := "motto", kind := .quote, title := some "Motto", data := { quote := "Less" },
    config := {} }

/-- A section without blocks. -/
def blankSection : Section :=
  { id := "blank", kind := .divider, data := { style := .none }, config := {} }

def mottoTemplate : Template :=
  { metadata := { id := "t", name := "T" },
    capabilities := { supportedSections := [.quote, .divider] },
    sections := [blankSection, mottoSection] }

open Render in
theorem mottoTemplate_mirrored : ∃ (out : Output) (root : Node) (k' : Tracker),
    (render .usual mottoTemplate {} {}).output = some out ∧
      (out.draw {}).run {} = (.ok root, k') ∧ out.sections.map (·.id) = ["blank", "motto"] ∧
      ∃ nodes : List Node, root.children = nodes.map .node ∧
        nodes.map (·.attrs.lookup "id") = [some "motto"] := by
  have displayed : mottoTemplate.displayed = [blankSection, mottoSection] :=
    List.mergeSort_of_pairwise (by decide)
  have rendered : (render .usual mottoTemplate {} {}).output = some (outputOf mottoTemplate {}
      (stepsOf (Registry.usual.build · {}) [blankSection, mottoSection])) := by
    rw [render_lenient _ _ _ _ rfl (.inr rfl), displayed]
  have drawn : ((outputOf mottoTemplate {}
      (stepsOf (Registry.usual.build · {}) [blankSection, mottoSection])).draw {}).run {} =
        (.ok _, _) := rfl
  obtain ⟨nodes, children, ids, -⟩ := Output.draw_mirrors_readme rendered {} false drawn
  exact ⟨_, _, _, rendered, drawn, rfl, nodes, children, ids⟩

end ProfileReadme
