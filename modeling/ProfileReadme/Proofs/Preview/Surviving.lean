/-
Which outputs can be previewed. The usual builders name their images by texts, so what is left to
go wrong with an output of theirs is a link that cannot be followed from the base of the preview,
and content that the reader of markup rejects. One such link or content takes down the whole page;
a preview as markdown, or of no output, is never taken down.
-/
import ProfileReadme.Proofs.Preview.Failing
import ProfileReadme.Proofs.Render.Built

namespace ProfileReadme

open Preview Preview.Drawing

/-! ## Images of builders -/

/-- An image is asked for by texts. -/
def Preview.Demand.ByText : Demand → Prop
  | .picture src alt => ∃ s s', src = .text s ∧ alt = .text s'
  | _ => True

theorem Preview.linkIf_byText (url : Option String) : ∀ d ∈ linkIf url, d.ByText := by
  intro d hd
  obtain ⟨s, -, rfl⟩ := List.mem_map.1 hd
  trivial

theorem Element.Custom.demands_byText {e : Element.Custom} (h : e.IsBuilt) :
    ∀ d ∈ e.demands, d.ByText := by
  intro d hd
  unfold Custom.demands at hd
  split at hd
  · rename_i src hsrc
    obtain rfl := List.mem_singleton.1 hd
    obtain ⟨s, rfl⟩ := h.texts "image_url" (by simp) src hsrc
    cases halt : e.setting? "alt" with
    | none => exact ⟨s, e.customType, rfl, rfl⟩
    | some alt =>
      obtain ⟨s', rfl⟩ := h.texts "alt" (by simp) alt halt
      exact ⟨s, s', rfl, rfl⟩
  · split at hd
    · obtain rfl := List.mem_singleton.1 hd
      trivial
    · cases hd

theorem Element.demands_byText {e : Element} (h : e.IsBuilt) : ∀ d ∈ e.demands, d.ByText := by
  cases e with
  | image e => exact List.forall_mem_cons.2 ⟨trivial, linkIf_byText e.link⟩
  | link e | social e => exact List.forall_mem_singleton.2 trivial
  | badge e => exact linkIf_byText e.link
  | card e => exact linkIf_byText e.url
  | award e => exact linkIf_byText e.url
  | custom e => exact Custom.demands_byText h
  | badgeGroup e => exact List.forall_mem_flatMap.2 fun m _ => linkIf_byText m.content.link
  | socialGroup e =>
    intro d hd
    obtain ⟨m, -, rfl⟩ := List.mem_map.1 hd
    trivial
  | _ => exact fun d hd => by cases hd

theorem Item.demandsAll_texts (icon : Option String) : ∀ ss : List String,
    Item.demandsAll (ss.map fun s => .text s icon []) = []
  | [] => rfl
  | _ :: ss => Item.demandsAll_texts icon ss

/-- Builders make blocks that ask for images by texts only. -/
theorem Block.byText_keptUp : Block.KeptUp fun b => ∀ d ∈ b.demands, d.ByText where
  element id e h := Element.demands_byText h
  stack id layout children h := by
    show ∀ d ∈ Block.demandsAll children, d.ByText
    rw [Block.demandsAll_eq]
    exact List.forall_mem_flatMap.2 h
  texts id marker ss icon := by
    show ∀ d ∈ Item.demandsAll _, d.ByText
    rw [Item.demandsAll_texts]
    exact fun d hd => by cases hd

/-! ## Outputs of builders -/

def Preview.Demand.link? : Demand → Option String
  | .link url => some url
  | _ => none

def Preview.Demand.markup? : Demand → Option String
  | .markup content => some content
  | _ => none

namespace Render.Output

/-- The links that a preview of an output has to follow, those of images included. -/
def links (o : Output) : List String := o.demands.filterMap Demand.link?

/-- The contents that a preview of an output has to make safe. -/
def markups (o : Output) : List String := o.demands.filterMap Demand.markup?

theorem demands_byText {t : Template} {p : Profile} {o : Options} {out : Output}
    (h : (render .usual t p o).output = some out) : ∀ d ∈ out.demands, d.ByText := by
  refine List.forall_mem_flatMap.2 fun s hs => ?_
  unfold RenderedSection.demands
  split
  · exact List.forall_mem_flatMap.2 (output_kept Block.byText_keptUp h hs)
  · exact fun d hd => by cases hd

theorem demands_met_iff {out : Output} (c : Preview.Context)
    (byText : ∀ d ∈ out.demands, d.ByText) :
    (∀ d ∈ out.demands, d.Met c) ↔
      (∀ url ∈ out.links, Url.Followable url c.baseUrl) ∧
        ∀ s ∈ out.markups, ∃ clean, Markup.sanitize s = .ok clean := by
  constructor
  · intro met
    constructor
    · intro url hurl
      obtain ⟨d, hd, hlink⟩ := List.mem_filterMap.1 hurl
      cases d <;> cases hlink
      exact met _ hd
    · intro s hs
      obtain ⟨d, hd, hmarkup⟩ := List.mem_filterMap.1 hs
      cases d <;> cases hmarkup
      exact met _ hd
  · rintro ⟨links, markups⟩ d hd
    cases d with
    | link url => exact links url (List.mem_filterMap.2 ⟨_, hd, rfl⟩)
    | markup s => exact markups s (List.mem_filterMap.2 ⟨_, hd, rfl⟩)
    | picture src alt =>
      obtain ⟨s, s', rfl, rfl⟩ := byText _ hd
      simp [Demand.Met]

/-- An output of the usual builders can be previewed, by itself and as a page, whatever has been
tracked, exactly if it is shown as markdown, or if every link in it can be followed from the base
and every content in it is accepted as markup. A page without an output is always there. -/
theorem draw_returns_iff {t : Template} {p : Profile} {o : Options} {out : Output}
    (h : (render .usual t p o).output = some out) (c : Preview.Context) (k : Tracker)
    (errors : Nat) (title : String) :
    ((∃ root k', (out.draw c).run k = (.ok root, k')) ↔
      c.asMarkdown = true ∨ (∀ url ∈ out.links, Url.Followable url c.baseUrl) ∧
        ∀ s ∈ out.markups, ∃ clean, Markup.sanitize s = .ok clean) ∧
    ((∃ page k', (outputPage c (some out) errors title).run k = (.ok page, k')) ↔
      c.asMarkdown = true ∨ (∀ url ∈ out.links, Url.Followable url c.baseUrl) ∧
        ∀ s ∈ out.markups, ∃ clean, Markup.sanitize s = .ok clean) ∧
    ∃ page k', (outputPage c none errors title).run k = (.ok page, k') := by
  have drawn := out.draw_returnsIff c
  rw [demands_met_iff c (demands_byText h)] at drawn
  refine ⟨drawn k, ?_, ?_⟩
  · exact (drawn.before fun root => returnsIff_pure _) k
  · exact ((returnsIff_pure (errorNode errors)).before fun root => returnsIff_pure _) k |>.2 trivial

end Render.Output

/-! ## A link that takes down the page -/

/-- A post whose link opens a bracket and does not close it. -/
def brokenBlog : Section :=
  { id := "blog", kind := .blogPosts, config := {},
    data := { items := [{ title := "Post", url := "http://[" }] } }

def brokenBlogTemplate : Template :=
  { metadata := { id := "t", name := "T" }, capabilities := { supportedSections := [.blogPosts] },
    sections := [brokenBlog] }

open Render

/-- What is rendered of it. -/
def brokenBlogOutput : Output :=
  outputOf brokenBlogTemplate {} (stepsOf (Registry.usual.build · {}) [brokenBlog])

theorem brokenBlog_rendered :
    (render .usual brokenBlogTemplate {} {}).output = some brokenBlogOutput := by
  have displayed : brokenBlogTemplate.displayed = [brokenBlog] := List.mergeSort_singleton _
  rw [render_lenient _ _ _ _ rfl (.inr rfl), displayed]
  rfl

/-- Without a base the link is as it is, and with one it cannot be followed. -/
theorem brokenBlog_needs_no_base :
    (∃ page k', (outputPage {} (some brokenBlogOutput) 0 usualTitle).run {} = (.ok page, k')) ∧
      ¬∃ page k', (outputPage { baseUrl := some "https://example.com/" } (some brokenBlogOutput) 0
        usualTitle).run {} = (.ok page, k') := by
  have links : brokenBlogOutput.links = ["http://["] := rfl
  have markups : brokenBlogOutput.markups = [] := rfl
  have unsound : ¬Url.IsSound "http://[" := by
    have checked : Url.checkAuthority (Url.authorityOf "http://[") = .error .brackets := rfl
    unfold Url.IsSound
    rw [checked]
    exact fun h => by cases h
  have survives (c : Preview.Context) :=
    (Output.draw_returns_iff brokenBlog_rendered c {} 0 usualTitle).2.1
  simp only [links, markups, List.forall_mem_singleton] at survives
  constructor
  · exact (survives {}).2 (.inr ⟨trivial, fun s hs => by cases hs⟩)
  · intro h
    rcases (survives _).1 h with asMarkdown | ⟨follow, -⟩
    · cases asMarkdown
    · rcases follow with h | h | h | h | ⟨sound, -⟩
      · exact absurd h (by decide)
      · exact absurd h (by decide)
      · exact absurd h (by decide)
      · exact absurd h (by decide)
      · exact unsound sound

theorem brokenBlog_fails : ∃ out k',
    (render .usual brokenBlogTemplate {} {}).output = some out ∧
      (outputPage { baseUrl := some "https://example.com/" } (some out) 0 usualTitle).run {} =
        (.error (.url .brackets), k') :=
  ⟨brokenBlogOutput, _, brokenBlog_rendered, rfl⟩

end ProfileReadme
