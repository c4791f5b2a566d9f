/-
What the usual builders make: trees of visible elements, stacks and lists of plain texts. What
holds of the elements they make, and passes from the parts of a stack to the stack, holds of every
block of a page.
-/
import ProfileReadme.Proofs.Block.Making
import ProfileReadme.Proofs.Text.Join
import ProfileReadme.Proofs.Render.Sections
import ProfileReadme.Preview.Block

namespace ProfileReadme

/-- What builders see to in a custom block: its settings go by names, if it has an image to show, it
has content as well, and the image and what stands in its place are named by texts. -/
structure Element.Custom.IsBuilt (e : Element.Custom) : Prop where
  keys : ∀ f ∈ e.data, ∃ name, f.1 = .name name
  filled : e.content = "" → e.setting? "image_url" = none
  texts : ∀ name ∈ ["image_url", "alt"], ∀ v, e.setting? name = some v → ∃ s, v = .text s

/-- What builders see to: quotes are not empty, and custom blocks are as above. -/
def Element.IsBuilt : Element → Prop
  | .quote e => e.value ≠ ""
  | .custom e => e.IsBuilt
  | _ => True

/-- Settings with names, as builders give them. -/
theorem Render.named_keys (pairs : List (String × Value)) :
    ∀ f ∈ named pairs, ∃ name, f.1 = .name name := by
  intro f hf
  obtain ⟨pair, -, rfl⟩ := List.mem_map.1 hf
  exact ⟨pair.1, rfl⟩

theorem Element.Custom.isBuilt_of_bare {e : Element.Custom}
    (keys : ∀ f ∈ e.data, ∃ name, f.1 = .name name) (image : e.setting? "image_url" = none)
    (alt : e.setting? "alt" = none) : e.IsBuilt where
  keys := keys
  filled _ := image
  texts name hname v hv := by
    rcases List.mem_pair.1 hname with rfl | rfl
    · cases image.symm.trans hv
    · cases alt.symm.trans hv

/-- A property of blocks that builders keep up. -/
structure Block.KeptUp (P : Block → Prop) : Prop where
  element : ∀ id (e : Element), e.IsBuilt → P (.element id true e)
  stack : ∀ id layout children, (∀ b ∈ children, P b) → P (.stack id true layout children)
  texts : ∀ id marker (ss : List String) icon,
    P (.list id true marker (ss.map fun s => .text s icon []))

namespace Render

open Making

variable {P : Block → Prop} (kept : Block.KeptUp P)

include kept

/-! ## Parts -/

theorem element_kept {e : Element} (h : e.IsBuilt) :
    (element e : Build Block).Makes P :=
  Makes.after fun id => makes_pure (kept.element id e h)

theorem stack_kept {layout : Layout} {children : List Block} (h : ∀ b ∈ children, P b) :
    (stack layout children : Build Block).Makes P :=
  Makes.after fun id => makes_pure (kept.stack id layout children h)

theorem texts_kept (marker : ListMarker) (ss : List String) (icon : Option String) :
    (list marker (ss.map fun s => .text s icon []) : Build Block).Makes P :=
  Makes.after fun id => makes_pure (kept.texts id marker ss icon)

omit kept in
/-- One block is all of a list. -/
theorem single_kept {x : Build Block} (h : x.Makes P) :
    (do return [← x] : Build (List Block)).Makes (∀ b ∈ ·, P b) :=
  h.bind fun b hb => makes_pure fun b' hb' => by rwa [List.mem_singleton.1 hb']

omit kept in
theorem none_kept : (pure [] : Build (List Block)).Makes (∀ b ∈ ·, P b) :=
  makes_pure fun b hb => by cases hb

omit kept in
theorem part?_kept (s : Option String) {f : String → Build Block}
    (h : ∀ t, t ≠ "" → (f t).Makes P) : (part? s f).Makes (∀ b ∈ ·, P b) := by
  unfold part?
  cases hs : Text.filled? s with
  | none => exact none_kept
  | some t => exact single_kept (h t (Text.ne_empty_of_filled? hs).2)

omit kept in
theorem partIf_kept (c : Bool) {x : Build Block} (h : x.Makes P) :
    (partIf c x).Makes (∀ b ∈ ·, P b) := by
  unfold partIf
  cases c with
  | false => exact none_kept
  | true => exact single_kept h

omit kept in
theorem gathered_kept {contain : List Block → Build Block} {blocks : List Block}
    (h : (contain blocks).Makes P) : (gathered contain blocks).Makes (∀ b ∈ ·, P b) := by
  unfold gathered
  split
  · exact none_kept
  · exact single_kept h

theorem heading_kept (value : String) (level : Bounded 1 (some 6)) (align : Option Align) :
    (heading value level align).Makes P := element_kept kept (by trivial)

theorem word_kept (value : String) : (word value).Makes P := element_kept kept (by trivial)

omit kept in
theorem append_kept {as bs : List Block} (ha : ∀ b ∈ as, P b) (hb : ∀ b ∈ bs, P b) :
    ∀ b ∈ as ++ bs, P b := List.forall_mem_append.2 ⟨ha, hb⟩

/-! ## Builders -/

theorem hero_kept (d : HeroData) (c : HeroConfig) (p : Profile) :
    (hero d c p).Makes (∀ b ∈ ·, P b) := by
  unfold hero
  refine (partIf_kept _ (element_kept kept (by trivial))).bind fun wave hwave => ?_
  refine (heading_kept kept _ _ _).bind fun headline hheadline => ?_
  refine (part?_kept _ fun s _ => heading_kept kept _ _ _).bind fun subheadline hsub => ?_
  refine (partIf_kept _ (element_kept kept (by trivial))).bind fun typing htyping => ?_
  refine (part?_kept _ fun s _ => element_kept kept (by trivial)).bind fun tagline htagline => ?_
  refine makes_pure (append_kept (append_kept (append_kept (append_kept hwave ?_) hsub) htyping)
    htagline)
  exact List.forall_mem_singleton.2 hheadline

theorem about_kept (d : AboutData) (c : AboutConfig) (p : Profile) :
    (about d c p).Makes (∀ b ∈ ·, P b) := by
  unfold about
  refine (part?_kept _ fun s _ => element_kept kept (by trivial)).bind fun avatar havatar => ?_
  refine (part?_kept _ fun s _ => word_kept kept _).bind fun content hcontent => ?_
  refine (partIf_kept _ (texts_kept kept _ _ _)).bind fun highlights hhighlights => ?_
  refine (part?_kept _ fun s _ => word_kept kept _).bind fun focus hfocus => ?_
  refine (part?_kept _ fun s _ => word_kept kept _).bind fun fact hfact => ?_
  refine (part?_kept _ fun s _ => word_kept kept _).bind fun location hlocation => ?_
  exact makes_pure (append_kept (append_kept (append_kept (append_kept (append_kept havatar
    hcontent) hhighlights) hfocus) hfact) hlocation)

theorem techStack_kept (d : TechStackData) (c : TechStackConfig) (p : Profile) :
    (techStack d c p).Makes (∀ b ∈ ·, P b) := by
  unfold techStack
  dsimp only
  split
  · exact none_kept
  · split
    · exact single_kept (texts_kept kept _ _ _)
    · split
      · refine (Makes.mapM (p := fun group => ∀ b ∈ group, P b) ?_).bind fun groups h => ?_
        · rintro ⟨category, items⟩ _
          refine (heading_kept kept _ _ _).bind fun title htitle => ?_
          refine Makes.after fun members => ?_
          refine (element_kept kept (by trivial)).bind fun badges hbadges => makes_pure ?_
          exact List.forall_mem_cons.2 ⟨htitle, List.forall_mem_singleton.2 hbadges⟩
        · refine makes_pure fun b hb => ?_
          obtain ⟨group, hgroup, hb⟩ := List.mem_flatten.1 hb
          exact h group hgroup b hb
      · exact Makes.after fun members => single_kept (element_kept kept (by trivial))
    · refine (Makes.mapM fun item _ => word_kept kept _).bind fun words hwords => ?_
      exact single_kept (stack_kept kept hwords)

theorem githubStats_kept (d : GithubStatsData) (c : GithubStatsConfig) (p : Profile) :
    (githubStats d c p).Makes (∀ b ∈ ·, P b) := by
  unfold githubStats
  refine Makes.after fun username => ?_
  refine (Makes.mapM fun card _ => element_kept kept (by trivial)).bind fun cards hcards => ?_
  refine gathered_kept ?_
  cases c.cardLayout <;> exact stack_kept kept hcards

theorem contributions_kept (d : ContributionsData) (c : ContributionsConfig) (p : Profile) :
    (contributions d c p).Makes (∀ b ∈ ·, P b) :=
  Makes.after fun username => single_kept (element_kept kept (by trivial))

theorem pinnedRepos_kept (d : PinnedReposData) (c : PinnedReposConfig) (p : Profile) :
    (pinnedRepos d c p).Makes (∀ b ∈ ·, P b) := by
  unfold pinnedRepos
  refine Makes.after fun username => ?_
  refine (Makes.mapM fun name _ => element_kept kept (by trivial)).bind fun named hnamed => ?_
  split
  · refine (Makes.mapM fun repository _ => element_kept kept (by trivial)).bind
      fun cards hcards => ?_
    exact gathered_kept (stack_kept kept hcards)
  · exact (makes_pure hnamed).bind fun cards hcards => gathered_kept (stack_kept kept hcards)

/-- The content of an image is never empty. -/
theorem imageContent_kept (customType alt src : String) (data : List (String × Value)) :
    (imageContent customType alt src data).Makes P := by
  refine element_kept kept
    ⟨named_keys _, fun empty => absurd empty (by simp), fun name hname v hv => ?_⟩
  obtain ⟨found, -⟩ := Option.filter_eq_some_iff.1 hv
  rcases List.mem_pair.1 hname with rfl | rfl <;>
    simp only [named, Fields.find?, List.map_append, List.map_cons, List.cons_append] at found
  · cases found
    exact ⟨src, rfl⟩
  · cases found
    exact ⟨alt, rfl⟩

theorem wakatime_kept (d : WakatimeData) (c : WakatimeConfig) (p : Profile) :
    (wakatime d c p).Makes (∀ b ∈ ·, P b) :=
  Makes.after fun _ => single_kept (imageContent_kept kept _ _ _ _)

theorem spotify_kept (d : SpotifyData) (c : SpotifyConfig) :
    (spotify d c).Makes (∀ b ∈ ·, P b) :=
  part?_kept _ fun _ _ => imageContent_kept kept _ _ _ _

theorem projects_kept (d : ProjectsData) (c : ProjectsConfig) (p : Profile) :
    (projects d c p).Makes (∀ b ∈ ·, P b) := by
  unfold projects
  refine (Makes.mapM fun r _ => element_kept kept (by trivial)).bind fun cards hcards => ?_
  split
  · exact gathered_kept (stack_kept kept hcards)
  · exact gathered_kept (stack_kept kept hcards)
  · exact makes_pure hcards

theorem experience_kept (d : ExperienceData) (c : ExperienceConfig) (p : Profile) :
    (experience d c p).Makes (∀ b ∈ ·, P b) := Makes.mapM fun e _ => element_kept kept (by trivial)

theorem education_kept (d : EducationData) (c : EducationConfig) (p : Profile) :
    (education d c p).Makes (∀ b ∈ ·, P b) := Makes.mapM fun e _ => element_kept kept (by trivial)

theorem achievements_kept (d : AchievementsData) (c : AchievementsConfig) :
    (achievements d c).Makes (∀ b ∈ ·, P b) := by
  unfold achievements
  split
  · exact none_kept
  · split
    · exact Makes.after fun members => single_kept (element_kept kept (by trivial))
    · refine (Makes.mapM fun a _ => element_kept kept (by trivial)).bind fun items hitems => ?_
      split
      · exact single_kept (stack_kept kept hitems)
      · exact makes_pure hitems

theorem blogPosts_kept (d : BlogPostsData) (c : BlogPostsConfig) :
    (blogPosts d c).Makes (∀ b ∈ ·, P b) := by
  refine Makes.mapM fun post _ => ?_
  refine (element_kept kept (by trivial)).bind fun title htitle => ?_
  refine (part?_kept _ fun s _ => word_kept kept _).bind fun excerpt hexcerpt => ?_
  refine (part?_kept _ fun s _ => element_kept kept (by trivial)).bind fun date hdate => ?_
  exact stack_kept kept (append_kept (List.forall_mem_cons.2 ⟨htitle, hexcerpt⟩) hdate)

theorem contact_kept (d : ContactData) (c : ContactConfig) (p : Profile) :
    (contact d c p).Makes (∀ b ∈ ·, P b) := by
  unfold contact
  refine (part?_kept _ fun s _ => heading_kept kept _ _ _).bind fun headline hheadline => ?_
  refine (part?_kept _ fun s _ => element_kept kept (by trivial)).bind
    fun description hdescription => ?_
  refine (partIf_kept (P := P) _ ?_).bind fun ways hways => ?_
  · split
    · exact (Makes.mapM fun m _ => element_kept kept (by trivial)).bind fun links hlinks =>
        stack_kept kept hlinks
    · exact texts_kept kept _ _ _
  · exact makes_pure (append_kept (append_kept hheadline hdescription) hways)

theorem socials_kept (d : SocialsData) (c : SocialsConfig) (p : Profile) :
    (socials d c p).Makes (∀ b ∈ ·, P b) := by
  unfold socials
  dsimp only
  split
  · exact none_kept
  · exact Makes.after fun members => single_kept (element_kept kept (by trivial))

theorem quote_kept (d : QuoteData) : (quote d).Makes (∀ b ∈ ·, P b) :=
  part?_kept _ fun _ filled => element_kept kept filled

theorem divider_kept (d : DividerData) (c : DividerConfig) :
    (divider d c).Makes (∀ b ∈ ·, P b) := by
  unfold divider
  split
  · exact single_kept (element_kept kept (by trivial))
  · exact none_kept

theorem spacer_kept (d : SpacerData) : (spacer d).Makes (∀ b ∈ ·, P b) :=
  single_kept (element_kept kept (by trivial))

theorem customMarkdown_kept (d : CustomMarkdownData) (p : Profile) :
    (customMarkdown d p).Makes (∀ b ∈ ·, P b) := by
  unfold customMarkdown
  split
  · exact none_kept
  · exact single_kept (element_kept kept (Element.Custom.isBuilt_of_bare nofun rfl rfl))

theorem customHtml_kept (d : CustomHtmlData) : (customHtml d).Makes (∀ b ∈ ·, P b) := by
  have written (content : String) :
      (if Text.allBlank content then pure []
        else do
          return [← element <| .custom
            { customType := "html", content, data := named [("sanitize", .bool d.sanitize)] }] :
        Build (List Block)).Makes (∀ b ∈ ·, P b) := by
    split
    · exact none_kept
    · exact single_kept
        (element_kept kept (Element.Custom.isBuilt_of_bare (named_keys _) rfl rfl))
  unfold customHtml
  split
  · split <;> exact Makes.after written
  · exact Makes.after written

/-- Every block of a section, and of a part of it, is kept up by its builder. -/
theorem build_kept (k : SectionKind) (d : k.Data) (c : k.Config) (p : Profile) :
    (build k d c p).Makes (∀ b ∈ ·, P b) := by
  cases k with
  | hero => exact hero_kept kept d c p
  | about => exact about_kept kept d c p
  | techStack => exact techStack_kept kept d c p
  | githubStats => exact githubStats_kept kept d c p
  | projects => exact projects_kept kept d c p
  | experience => exact experience_kept kept d c p
  | education => exact education_kept kept d c p
  | achievements => exact achievements_kept kept d c
  | blogPosts => exact blogPosts_kept kept d c
  | contact => exact contact_kept kept d c p
  | socials => exact socials_kept kept d c p
  | quote => exact quote_kept kept d
  | divider => exact divider_kept kept d c
  | spacer => exact spacer_kept kept d
  | customMarkdown => exact customMarkdown_kept kept d p
  | customHtml => exact customHtml_kept kept d
  | spotify => exact spotify_kept kept d c
  | wakatime => exact wakatime_kept kept d c p
  | contributions => exact contributions_kept kept d c p
  | pinnedRepos => exact pinnedRepos_kept kept d c p

/-! ## Pages -/

omit kept in
/-- The usual table has the standard builder for every kind. -/
theorem usual_build (s : Section) (p : Profile) : Registry.usual.build s p = standard s p := by
  have found : Registry.usual.require (Named.name s.kind) = .ok standard := by
    cases s.kind <;> rfl
  unfold Registry.build
  rw [found]
  rfl

theorem standard_kept {s : Section} {p : Profile} {blocks : List Block}
    (h : standard s p = .ok blocks) : ∀ b ∈ blocks, P b := by
  unfold standard at h
  cases hrun : (build s.kind s.data s.config p).run { scope := s.id } with
  | error f => rw [hrun] at h; cases h
  | ok made =>
    rw [hrun] at h
    cases h
    exact build_kept kept s.kind s.data s.config p _ _ _ hrun

/-- Every block of an output that the usual builders made is kept up. -/
theorem output_kept {t : Template} {p : Profile} {o : Options} {out : Output}
    (h : (render .usual t p o).output = some out) {rs : RenderedSection} (hrs : rs ∈ out.sections) :
    ∀ b ∈ rs.blocks, P b := by
  obtain ⟨s, _, blocks, hb, rfl⟩ := render_output_section .usual t p o h hrs
  rw [usual_build] at hb
  exact standard_kept kept hb

end Render

end ProfileReadme
