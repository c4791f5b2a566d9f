/-
Which sections the usual builders fail on: those that need an account and have none, from the
section or from the profile, and content that the reader of markup rejects. Everything else is
built. The warnings of a validation tell some of these sections beforehand.
-/
import ProfileReadme.Proofs.Render.Built
import ProfileReadme.Render.Validation

namespace ProfileReadme.Render

open Making

/-! ## What keeps a section from being built -/

/-- The fault of a section that needs an account, if neither it nor the profile names one. -/
def missing (named fallback : String) (fault : Failure) : Option Failure :=
  if named = "" ∧ fallback = "" then some fault else none

/-- What the reader of markup has against the content of a section. -/
def rejected (html : String) : Option Failure :=
  match Markup.sanitize html with
  | .ok _ => none
  | .error r => some (.markup r)

/-- Why the usual builder fails on a section of a kind. -/
def hindrance : (k : SectionKind) → k.Data → Profile → Option Failure
  | .githubStats, d, p => missing d.username p.githubUsername .noAccount
  | .contributions, d, p => missing d.username p.githubUsername .noAccount
  | .pinnedRepos, d, p => missing d.username p.githubUsername .noAccount
  | .wakatime, d, p =>
    missing d.username (p.integrations.wakatime.username.getD "") .noCodingAccount
  | .customHtml, d, _ => if d.sanitize then rejected d.html else none
  | _, _, _ => none

/-! ## Parts -/

theorem ends_single {x : Build Block} {fault : Option Failure} (h : x.Ends fault) :
    (do return [← x] : Build (List Block)).Ends fault := h.before fun b => ends_pure [b]

theorem ends_part? (s : Option String) {f : String → Build Block} (h : ∀ t, (f t).Ends none) :
    (part? s f).Ends none := by
  unfold part?
  split
  · exact ends_single (h _)
  · exact ends_pure []

theorem ends_partIf (c : Bool) {x : Build Block} (h : x.Ends none) : (partIf c x).Ends none := by
  unfold partIf
  split
  · exact ends_single h
  · exact ends_pure []

theorem ends_gathered {contain : List Block → Build Block} (h : ∀ bs, (contain bs).Ends none)
    (blocks : List Block) : (gathered contain blocks).Ends none := by
  unfold gathered
  split
  · exact ends_pure []
  · exact ends_single (h blocks)

/-- A name, or the one it falls back to, is empty only if both are. -/
theorem filledOr_isEmpty (named fallback : String) :
    (Text.filledOr (some named) fallback).isEmpty = true ↔ named = "" ∧ fallback = "" := by
  unfold Text.filledOr
  by_cases h : named = "" <;> simp [h, Text.filled?, Option.filter]

theorem ends_account (username : String) (p : Profile) :
    (account username p).Ends (missing username p.githubUsername .noAccount) := by
  unfold account missing
  simp only [filledOr_isEmpty]
  split
  · exact ends_throw _
  · exact ends_pure _

theorem ends_codingUser (d : WakatimeData) (p : Profile) :
    (codingUser d p).Ends
      (missing d.username (p.integrations.wakatime.username.getD "") .noCodingAccount) := by
  unfold codingUser missing
  simp only [filledOr_isEmpty]
  split
  · exact ends_throw _
  · exact ends_pure _

/-! ## Builders -/

theorem hero_ends (d : HeroData) (c : HeroConfig) (p : Profile) : (hero d c p).Ends none := by
  unfold hero
  refine (ends_partIf _ (ends_element _)).bind fun wave => ?_
  refine (ends_element _).bind fun headline => ?_
  refine (ends_part? _ fun _ => ends_element _).bind fun subheadline => ?_
  refine (ends_partIf _ (ends_element _)).bind fun typing => ?_
  exact (ends_part? _ fun _ => ends_element _).bind fun tagline => ends_pure _

theorem about_ends (d : AboutData) (c : AboutConfig) (p : Profile) : (about d c p).Ends none := by
  unfold about
  refine (ends_part? _ fun _ => ends_element _).bind fun avatar => ?_
  refine (ends_part? _ fun _ => ends_element _).bind fun content => ?_
  refine (ends_partIf _ (ends_list _ _)).bind fun highlights => ?_
  refine (ends_part? _ fun _ => ends_element _).bind fun focus => ?_
  refine (ends_part? _ fun _ => ends_element _).bind fun fact => ?_
  exact (ends_part? _ fun _ => ends_element _).bind fun location => ends_pure _

theorem techStack_ends (d : TechStackData) (c : TechStackConfig) (p : Profile) :
    (techStack d c p).Ends none := by
  have badges (items : List TechItem) : (items.mapM (techBadge c.badgeStyle)).Ends none :=
    ends_mapM (fun _ => ends_member _ _) items
  unfold techStack
  dsimp only
  split
  · exact ends_pure []
  split
  · exact ends_single (ends_list _ _)
  · split
    · refine (ends_mapM ?_ _).bind fun groups => ends_pure _
      rintro ⟨category, items⟩
      refine (ends_element _).bind fun title => (badges items).bind fun members => ?_
      exact (ends_element _).bind fun group => ends_pure _
    · exact (badges _).bind fun members => ends_single (ends_element _)
  · exact (ends_mapM (fun _ => ends_element _) _).bind fun words => ends_single (ends_stack _ _)

theorem githubStats_ends (d : GithubStatsData) (c : GithubStatsConfig) (p : Profile) :
    (githubStats d c p).Ends (missing d.username p.githubUsername .noAccount) := by
  unfold githubStats
  refine (ends_account _ _).before fun username => ?_
  refine (ends_mapM (fun _ => ends_element _) _).bind fun cards => ends_gathered ?_ cards
  cases c.cardLayout <;> exact fun _ => ends_stack _ _

theorem contributions_ends (d : ContributionsData) (c : ContributionsConfig) (p : Profile) :
    (contributions d c p).Ends (missing d.username p.githubUsername .noAccount) :=
  (ends_account _ _).before fun _ => ends_single (ends_element _)

theorem pinnedRepos_ends (d : PinnedReposData) (c : PinnedReposConfig) (p : Profile) :
    (pinnedRepos d c p).Ends (missing d.username p.githubUsername .noAccount) := by
  unfold pinnedRepos
  refine (ends_account _ _).before fun username => ?_
  refine (ends_mapM (fun _ => ends_element _) _).bind fun named => ?_
  have shown (cards : List Block) : (gathered (grid twoColumns) cards).Ends none :=
    ends_gathered (fun _ => ends_stack _ _) cards
  split
  · exact (ends_mapM (fun _ => ends_element _) _).bind shown
  · exact (ends_pure named).bind shown

theorem wakatime_ends (d : WakatimeData) (c : WakatimeConfig) (p : Profile) :
    (wakatime d c p).Ends
      (missing d.username (p.integrations.wakatime.username.getD "") .noCodingAccount) :=
  (ends_codingUser d p).before fun _ => ends_single (ends_element _)

theorem projects_ends (d : ProjectsData) (c : ProjectsConfig) (p : Profile) :
    (projects d c p).Ends none := by
  unfold projects
  refine (ends_mapM (fun _ => ends_element _) _).bind fun cards => ?_
  split
  · exact ends_gathered (fun _ => ends_stack _ _) cards
  · exact ends_gathered (fun _ => ends_stack _ _) cards
  · exact ends_pure cards

theorem achievements_ends (d : AchievementsData) (c : AchievementsConfig) :
    (achievements d c).Ends none := by
  unfold achievements
  split
  · exact ends_pure []
  split
  · exact (ends_mapM (fun _ => ends_member _ _) _).bind fun members => ends_single (ends_element _)
  · refine (ends_mapM (fun _ => ends_element _) _).bind fun items => ?_
    split
    · exact ends_single (ends_stack _ _)
    · exact ends_pure items

theorem blogPosts_ends (d : BlogPostsData) (c : BlogPostsConfig) : (blogPosts d c).Ends none := by
  refine ends_mapM (fun post => ?_) _
  refine (ends_element _).bind fun title => ?_
  refine (ends_part? _ fun _ => ends_element _).bind fun excerpt => ?_
  exact (ends_part? _ fun _ => ends_element _).bind fun date => ends_stack _ _

theorem contact_ends (d : ContactData) (c : ContactConfig) (p : Profile) :
    (contact d c p).Ends none := by
  unfold contact
  refine (ends_part? _ fun _ => ends_element _).bind fun headline => ?_
  refine (ends_part? _ fun _ => ends_element _).bind fun description => ?_
  refine (ends_partIf _ ?_).bind fun ways => ends_pure _
  split
  · exact (ends_mapM (fun _ => ends_element _) _).bind fun links => ends_stack _ _
  · exact ends_list _ _

theorem socials_ends (d : SocialsData) (c : SocialsConfig) (p : Profile) :
    (socials d c p).Ends none := by
  unfold socials
  dsimp only
  split
  · exact ends_pure []
  · exact (ends_mapM (fun _ => ends_member _ _) _).bind fun members => ends_single (ends_element _)

theorem divider_ends (d : DividerData) (c : DividerConfig) : (divider d c).Ends none := by
  unfold divider
  split
  · exact ends_single (ends_element _)
  · exact ends_pure []

theorem customMarkdown_ends (d : CustomMarkdownData) (p : Profile) :
    (customMarkdown d p).Ends none := by
  unfold customMarkdown
  split
  · exact ends_pure []
  · exact ends_single (ends_element _)

theorem customHtml_ends (d : CustomHtmlData) :
    (customHtml d).Ends (if d.sanitize then rejected d.html else none) := by
  have written (content : String) :
      (if Text.allBlank content then pure []
        else do
          return [← element <| .custom
            { customType := "html", content, data := named [("sanitize", .bool d.sanitize)] }] :
        Build (List Block)).Ends none := by
    split
    · exact ends_pure []
    · exact ends_single (ends_element _)
  unfold customHtml rejected
  split
  · cases Markup.sanitize d.html with
    | ok s => exact (ends_pure s).bind written
    | error r => exact (ends_throw (Failure.markup r)).before written
  · exact (ends_pure d.html).bind written

/-- The builder of a section fails if something keeps it from being built, and with that. -/
theorem build_ends (k : SectionKind) (d : k.Data) (c : k.Config) (p : Profile) :
    (build k d c p).Ends (hindrance k d p) := by
  cases k with
  | hero => exact hero_ends d c p
  | about => exact about_ends d c p
  | techStack => exact techStack_ends d c p
  | githubStats => exact githubStats_ends d c p
  | projects => exact projects_ends d c p
  | experience => exact ends_mapM (fun _ => ends_element _) _
  | education => exact ends_mapM (fun _ => ends_element _) _
  | achievements => exact achievements_ends d c
  | blogPosts => exact blogPosts_ends d c
  | contact => exact contact_ends d c p
  | socials => exact socials_ends d c p
  | quote => exact ends_part? _ fun _ => ends_element _
  | divider => exact divider_ends d c
  | spacer => exact ends_single (ends_element _)
  | customMarkdown => exact customMarkdown_ends d p
  | customHtml => exact customHtml_ends d
  | spotify => exact ends_part? _ fun _ => ends_element _
  | wakatime => exact wakatime_ends d c p
  | contributions => exact contributions_ends d c p
  | pinnedRepos => exact pinnedRepos_ends d c p

/-- What the builder of a section makes is built of it, if nothing keeps it from that. -/
theorem built_makes {s : Section} {p : Profile} {made : List Block → Prop}
    (free : hindrance s.kind s.data p = none)
    (makes : (build s.kind s.data s.config p).Makes made) :
    ∃ blocks, Registry.usual.build s p = .ok blocks ∧ made blocks := by
  have ends := build_ends s.kind s.data s.config p
  rw [free] at ends
  obtain ⟨blocks, n, hrun⟩ := ends { scope := s.id }
  refine ⟨blocks, ?_, makes _ _ _ hrun⟩
  rw [usual_build, standard, hrun]
  rfl

end ProfileReadme.Render
