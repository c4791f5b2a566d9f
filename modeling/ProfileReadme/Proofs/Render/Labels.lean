/-
Which ids the usual builders give. All blocks of a section are numbered in the order in which they
are made, so a section's ids follow from the trace of the kinds that it makes. The traces of the
kinds that make links are told in full: these are the ids that two sections may share.
-/
import ProfileReadme.Proofs.Block.Labels
import ProfileReadme.Proofs.Render.Built

namespace ProfileReadme

/-- The kinds of the blocks that a section of a kind is made of. -/
def SectionKind.blockKinds : SectionKind → List BlockKind
  | .hero => [.image, .heading, .typing, .text]
  | .about => [.image, .text, .list]
  | .techStack => [.list, .heading, .badge, .badgeGroup, .text, .grid]
  | .githubStats => [.statsCard, .row, .column, .grid]
  | .projects => [.projectCard, .grid]
  | .experience => [.position]
  | .education => [.study]
  | .achievements => [.badge, .badgeGroup, .award, .grid]
  | .blogPosts => [.link, .text, .column]
  | .contact => [.heading, .text, .link, .row, .list]
  | .socials => [.social, .socialGroup]
  | .quote => [.quote]
  | .divider => [.rule]
  | .spacer => [.spacer]
  | .customMarkdown | .customHtml | .spotify | .wakatime => [.custom]
  | .contributions => [.graph]
  | .pinnedRepos => [.projectCard, .grid]

namespace Render

open Making

/-! ## Parts -/

section Parts

variable {kinds : List BlockKind} {α γ : Type}

/-- An element of a listed kind that has no members. -/
theorem addsOf_element {e : Element} (listed : kinds.contains e.kind = true)
    (alone : e.members = []) : AddsOf kinds (element e : Build Block) [] Block.labels := by
  have made : (element e : Build Block).Adds _ _ _ := adds_element e
  rw [alone] at made
  exact made.of (List.forall_mem_singleton.2 (List.contains_iff_mem.1 listed))

theorem addsOf_stack {layout : Layout} (listed : kinds.contains layout.kind = true)
    (children : List Block) :
    AddsOf kinds (stack layout children : Build Block) (Block.labelsAll children) Block.labels :=
  (adds_stack layout children).of (List.forall_mem_singleton.2 (List.contains_iff_mem.1 listed))

theorem addsOf_texts (listed : kinds.contains .list = true) (marker : ListMarker)
    (ss : List String) (icon : Option String) :
    AddsOf kinds (list marker (ss.map fun s => .text s icon []) : Build Block) [] Block.labels :=
  (adds_texts marker ss icon).of (List.forall_mem_singleton.2 (List.contains_iff_mem.1 listed))

/-- The members of a group, made one after the other. -/
theorem addsOf_members {k : BlockKind} (listed : kinds.contains k = true) (f : γ → α)
    (l : List γ) :
    AddsOf kinds (l.mapM fun c => member k (f c) : Build (List (Placed α))) []
      (·.map fun m => (k, m.id)) := by
  refine (adds_members k f l).of fun k' hk' => ?_
  obtain ⟨c, -, rfl⟩ := List.mem_map.1 hk'
  exact List.contains_iff_mem.1 listed

/-- A group, after its members. -/
theorem addsOf_group {e : Element} {before : List Label} (listed : kinds.contains e.kind = true)
    (members : e.members.map Block.label = before) :
    AddsOf kinds (element e : Build Block) before Block.labels := by
  have made : (element e : Build Block).Adds _ _ _ := adds_element e
  rw [members] at made
  exact made.of (List.forall_mem_singleton.2 (List.contains_iff_mem.1 listed))

theorem addsOf_part? (s : Option String) {f : String → Build Block}
    (h : ∀ t, AddsOf kinds (f t) [] Block.labels) :
    AddsOf kinds (part? s f) [] Block.labelsAll := by
  unfold part?
  split
  · exact addsOf_single (h _)
  · exact addsOf_none

theorem addsOf_partIf (c : Bool) {x : Build Block} (h : AddsOf kinds x [] Block.labels) :
    AddsOf kinds (partIf c x) [] Block.labelsAll := by
  unfold partIf
  split
  · exact addsOf_single h
  · exact addsOf_none

theorem addsOf_gathered {contain : List Block → Build Block}
    (h : ∀ bs, AddsOf kinds (contain bs) (Block.labelsAll bs) Block.labels) (blocks : List Block) :
    AddsOf kinds (gathered contain blocks) (Block.labelsAll blocks) Block.labelsAll := by
  unfold gathered
  split
  · rename_i empty
    rw [List.isEmpty_iff.1 empty]
    exact addsOf_none
  · exact addsOf_single (h blocks)

theorem addsOf_account (username : String) (p : Profile) :
    AddsOf kinds (account username p) [] fun _ => [] := by
  unfold account
  dsimp only
  split
  · exact adds_throw
  · exact addsOf_pure (.refl _)

end Parts

/-! ## Builders -/

/-- The blocks of a section of a kind, numbered from the first one on. -/
abbrev MadeOf (k : SectionKind) (x : Build (List Block)) : Prop :=
  AddsOf k.blockKinds x [] Block.labelsAll

theorem hero_madeOf (d : HeroData) (c : HeroConfig) (p : Profile) : MadeOf .hero (hero d c p) := by
  unfold hero
  refine (addsOf_partIf _ (addsOf_element rfl rfl)).next fun wave => ?_
  refine (addsOf_element rfl rfl).next fun headline => ?_
  refine (addsOf_part? _ fun _ => addsOf_element rfl rfl).next fun subheadline => ?_
  refine (addsOf_partIf _ (addsOf_element rfl rfl)).next fun typing => ?_
  refine (addsOf_part? _ fun _ => addsOf_element rfl rfl).next fun tagline => ?_
  exact addsOf_pure (by simp)

theorem about_madeOf (d : AboutData) (c : AboutConfig) (p : Profile) :
    MadeOf .about (about d c p) := by
  unfold about
  refine (addsOf_part? _ fun _ => addsOf_element rfl rfl).next fun avatar => ?_
  refine (addsOf_part? _ fun _ => addsOf_element rfl rfl).next fun content => ?_
  refine (addsOf_partIf _ (addsOf_texts rfl _ _ _)).next fun highlights => ?_
  refine (addsOf_part? _ fun _ => addsOf_element rfl rfl).next fun focus => ?_
  refine (addsOf_part? _ fun _ => addsOf_element rfl rfl).next fun fact => ?_
  refine (addsOf_part? _ fun _ => addsOf_element rfl rfl).next fun location => ?_
  exact addsOf_pure (by simp)

theorem techStack_madeOf (d : TechStackData) (c : TechStackConfig) (p : Profile) :
    MadeOf .techStack (techStack d c p) := by
  have members (g : Element.BadgeGroup) :
      (Element.badgeGroup g).members.map Block.label = g.members.map fun m => (.badge, m.id) :=
    List.map_map
  unfold techStack
  dsimp only
  split
  · exact addsOf_none
  split
  · exact addsOf_single (addsOf_texts rfl _ _ _)
  · split
    · refine AddsOf.next (addsOf_groups ?_ _) fun groups => ?_
      · rintro ⟨category, items⟩
        refine (addsOf_element rfl rfl).next fun title => ?_
        refine (addsOf_members rfl _ items).next fun badges => ?_
        refine AddsOf.bind (addsOf_group rfl (members _)) fun group => addsOf_pure ?_
        simp
      · exact addsOf_pure (by rw [Block.labelsAll_flatten]; rfl)
    · refine (addsOf_members rfl _ _).next fun badges => ?_
      exact addsOf_single (addsOf_group rfl (members _))
  · refine (addsOf_blocks (fun _ => addsOf_element rfl rfl) _).next fun words => ?_
    exact addsOf_single (addsOf_stack rfl _)

theorem githubStats_madeOf (d : GithubStatsData) (c : GithubStatsConfig) (p : Profile) :
    MadeOf .githubStats (githubStats d c p) := by
  unfold githubStats
  refine (addsOf_account _ _).next fun username => ?_
  refine (addsOf_blocks (fun _ => addsOf_element rfl rfl) _).next fun cards => ?_
  refine addsOf_gathered ?_ cards
  cases c.cardLayout <;> exact addsOf_stack rfl

theorem contributions_madeOf (d : ContributionsData) (c : ContributionsConfig) (p : Profile) :
    MadeOf .contributions (contributions d c p) :=
  (addsOf_account _ _).next fun _ => addsOf_single (addsOf_element rfl rfl)

theorem pinnedRepos_madeOf (d : PinnedReposData) (c : PinnedReposConfig) (p : Profile) :
    MadeOf .pinnedRepos (pinnedRepos d c p) := by
  unfold pinnedRepos
  refine (addsOf_account _ _).next fun username => ?_
  refine (addsOf_blocks (fun _ => addsOf_element rfl rfl) _).next fun named => ?_
  dsimp only
  split
  · rename_i empty
    rw [List.isEmpty_iff.1 empty]
    refine (addsOf_blocks (fun _ => addsOf_element rfl rfl) _).next fun cards => ?_
    exact addsOf_gathered (addsOf_stack rfl) cards
  · exact addsOf_gathered (addsOf_stack rfl) named

theorem wakatime_madeOf (d : WakatimeData) (c : WakatimeConfig) (p : Profile) :
    MadeOf .wakatime (wakatime d c p) := by
  have user : AddsOf SectionKind.wakatime.blockKinds (codingUser d p) [] fun _ => [] := by
    unfold codingUser
    dsimp only
    split
    · exact adds_throw
    · exact addsOf_pure (.refl _)
  exact user.next fun _ => addsOf_single (addsOf_element rfl rfl)

theorem projects_madeOf (d : ProjectsData) (c : ProjectsConfig) (p : Profile) :
    MadeOf .projects (projects d c p) := by
  unfold projects
  refine (addsOf_blocks (fun _ => addsOf_element rfl rfl) _).next fun cards => ?_
  split
  · exact addsOf_gathered (addsOf_stack rfl) cards
  · exact addsOf_gathered (addsOf_stack rfl) cards
  · exact addsOf_pure (.refl _)

theorem achievements_madeOf (d : AchievementsData) (c : AchievementsConfig) :
    MadeOf .achievements (achievements d c) := by
  unfold achievements
  split
  · exact addsOf_none
  split
  · refine (addsOf_members rfl _ _).next fun badges => ?_
    exact addsOf_single (addsOf_group rfl List.map_map)
  · refine (addsOf_blocks (fun _ => addsOf_element rfl rfl) _).next fun items => ?_
    split
    · exact addsOf_single (addsOf_stack rfl _)
    · exact addsOf_pure (.refl _)

theorem divider_madeOf (d : DividerData) (c : DividerConfig) :
    MadeOf .divider (divider d c) := by
  unfold divider
  split
  · exact addsOf_single (addsOf_element rfl rfl)
  · exact addsOf_none

theorem customMarkdown_madeOf (d : CustomMarkdownData) (p : Profile) :
    MadeOf .customMarkdown (customMarkdown d p) := by
  unfold customMarkdown
  split
  · exact addsOf_none
  · exact addsOf_single (addsOf_element rfl rfl)

theorem customHtml_madeOf (d : CustomHtmlData) : MadeOf .customHtml (customHtml d) := by
  have written (content : String) : MadeOf .customHtml (if Text.allBlank content then pure []
      else do
        return [← element <| .custom
          { customType := "html", content, data := named [("sanitize", .bool d.sanitize)] }]) := by
    split
    · exact addsOf_none
    · exact addsOf_single (addsOf_element rfl rfl)
  have plain (content : String) : AddsOf SectionKind.customHtml.blockKinds
      (pure content : Build String) [] fun _ => [] := addsOf_pure (.refl _)
  unfold customHtml
  split
  · cases Markup.sanitize d.html with
    | ok s => exact (plain s).next written
    | error r =>
      have failed : AddsOf SectionKind.customHtml.blockKinds
        (throw (.markup r) : Build String) [] fun _ => [] := adds_throw
      exact failed.next written
  · exact (plain d.html).next written

/-! ## Builders of links -/

/-- The ways to reach someone that a section shows. -/
def contactMethods (d : ContactData) (p : Profile) : List ContactMethod :=
  own d.methods <| (Text.filled? p.personal.email).toList.map fun value => { kind := .email, value }

/-- The kind of a part, if the part is there. -/
def partTrace (s : Option String) (k : BlockKind) : List BlockKind :=
  (Text.filled? s).toList.map fun _ => k

def waysTrace (methods : List ContactMethod) (display : ContactDisplay) : List BlockKind :=
  if methods.isEmpty then []
  else if display = .minimal then (methods.map fun _ => .link) ++ [.row] else [.list]

def contactTrace (d : ContactData) (c : ContactConfig) (p : Profile) : List BlockKind :=
  partTrace d.headline .heading ++
    (partTrace d.description .text ++ waysTrace (contactMethods d p) c.display)

def postTrace (c : BlogPostsConfig) (post : BlogPost) : List BlockKind :=
  .link :: (partTrace (if c.showExcerpt then post.excerpt else none) .text ++
    (partTrace (if c.showDate then post.date else none) .text ++ [.column]))

def socialsTrace (d : SocialsData) (p : Profile) : List BlockKind :=
  let links := own d.links p.socialLinks.links
  if links.isEmpty then [] else (links.map fun _ => .social) ++ [.socialGroup]

theorem adds_alone {e : Element} (alone : e.members = []) :
    (element e : Build Block).Adds [] Block.labels (· = [e.kind]) := by
  have made : (element e : Build Block).Adds _ _ _ := adds_element e
  rwa [alone] at made

theorem adds_part? (s : Option String) {k : BlockKind} {f : String → Build Block}
    (h : ∀ t, (f t).Adds [] Block.labels (· = [k])) :
    (part? s f).Adds [] Block.labelsAll (· = partTrace s k) := by
  unfold part? partTrace
  cases Text.filled? s with
  | none => exact adds_pure rfl (.refl _)
  | some t => exact adds_single (h t)

/-- Links in a row. -/
theorem adds_linkRow {γ : Type} (f : γ → Element.Link) (l : List γ) :
    (do row (← l.mapM fun c => element (.link (f c))) : Build Block).Adds [] Block.labels
      (· = (l.map fun _ => .link) ++ [.row]) := by
  have link (c : γ) : (element (.link (f c)) : Build Block).Adds [] Block.labels (· = [.link]) :=
    adds_alone rfl
  refine (adds_each link l).after fun links => ?_
  rw [← Block.labelsAll_eq_flatMap]
  exact adds_stack _ links

theorem contact_adds (d : ContactData) (c : ContactConfig) (p : Profile) :
    (contact d c p).Adds [] Block.labelsAll (· = contactTrace d c p) := by
  have headline (s : String) : (heading s (.of 3 (.refl true)) (some c.alignment)).Adds []
      Block.labels (· = [.heading]) := adds_alone rfl
  have description (value : String) :
      (element (.text { value, align := some c.alignment }) : Build Block).Adds [] Block.labels
        (· = [.text]) := adds_alone rfl
  unfold contact contactTrace
  refine (adds_part? _ headline).after fun _ => ?_
  refine (adds_part? _ description).after fun _ => ?_
  refine Adds.last ?_ fun ways => adds_pure rfl (by simp)
  show (partIf (!(contactMethods d p).isEmpty) _).Adds [] _ _
  unfold partIf waysTrace
  cases (contactMethods d p).isEmpty with
  | true => exact adds_pure rfl (.refl _)
  | false =>
    refine adds_single ?_
    cases c.display with
    | minimal => exact adds_linkRow _ _
    | card | split => exact adds_texts _ _ _

theorem blogPosts_adds (d : BlogPostsData) (c : BlogPostsConfig) :
    (blogPosts d c).Adds [] Block.labelsAll
      (· = (upTo d.maxPosts d.items).flatMap (postTrace c)) := by
  have text (e : Element.Phrase) :
      (element (.text e) : Build Block).Adds [] Block.labels (· = [.text]) := adds_alone rfl
  have link (e : Element.Link) :
      (element (.link e) : Build Block).Adds [] Block.labels (· = [.link]) := adds_alone rfl
  rw [show Block.labelsAll = (·.flatMap Block.labels) from funext Block.labelsAll_eq_flatMap]
  refine adds_flatMap _ (fun post => ?_) _
  refine (link _).after fun title => ?_
  refine (adds_part? _ fun _ => text _).after fun excerpt => ?_
  refine (adds_part? _ fun _ => text _).after fun date => ?_
  have parts : [] ++ title.labels ++ Block.labelsAll excerpt ++ Block.labelsAll date =
      Block.labelsAll (title :: excerpt ++ date) := by simp
  rw [parts]
  exact adds_stack _ _

theorem socials_adds (d : SocialsData) (c : SocialsConfig) (p : Profile) :
    (socials d c p).Adds [] Block.labelsAll (· = socialsTrace d p) := by
  unfold socials socialsTrace
  dsimp only
  split
  · exact adds_pure rfl (.refl _)
  · refine (adds_members .social _ _).after fun members => adds_single ?_
    have group (g : Element.SocialGroup) : (element (.socialGroup g) : Build Block).Adds
        ((Element.socialGroup g).members.map Block.label) Block.labels (· = [.socialGroup]) :=
      adds_element _
    simp only [Element.members, List.map_map] at group
    exact group _

/-! ## All kinds -/

/-- How many links to accounts elsewhere a section of a kind shows. -/
def socialCount : (k : SectionKind) → k.Data → Profile → Nat
  | .socials, d, p => (own d.links p.socialLinks.links).length
  | _, _, _ => 0

/-- How many blocks a section of a kind makes before its first link, if it makes links. -/
def linkOffset? : (k : SectionKind) → k.Data → k.Config → Profile → Option Nat
  | .contact, d, c, p =>
    if c.display = .minimal ∧ contactMethods d p ≠ [] then
      some ((Text.filled? d.headline).toList.length + (Text.filled? d.description).toList.length)
    else none
  | .blogPosts, d, _, _ => if upTo d.maxPosts d.items = [] then none else some 0
  | _, _, _, _ => none

/-- The kinds that a section makes, in the order in which it makes them. -/
structure Traced (k : SectionKind) (d : k.Data) (c : k.Config) (p : Profile)
    (ks : List BlockKind) : Prop where
  kinds : ∀ b ∈ ks, b ∈ k.blockKinds
  socials : ∀ i, ks[i]? = some .social ↔ i < socialCount k d p
  links : ∀ i, ks[i]? = some .link → ∃ first ∈ linkOffset? k d c p, first ≤ i
  firstLink : ∀ first ∈ linkOffset? k d c p, ks[first]? = some .link

section Traces

variable {as bs : List BlockKind} {k : BlockKind} {i : Nat}

/-- What is not in the first part of a list comes in the second. -/
theorem getElem?_append_of_not_mem (absent : k ∉ as) :
    (as ++ bs)[i]? = some k ↔ as.length ≤ i ∧ bs[i - as.length]? = some k := by
  by_cases early : i < as.length
  · rw [List.getElem?_append_left early]
    refine iff_of_false (fun here => absent (List.mem_of_getElem? here)) ?_
    rintro ⟨late, -⟩
    omega
  · rw [List.getElem?_append_right (by omega)]
    exact (and_iff_right (by omega)).symm

theorem not_mem_partTrace (s : Option String) {other : BlockKind} (h : other ≠ k) :
    other ∉ partTrace s k := by
  intro here
  obtain ⟨t, -, same⟩ := List.mem_map.1 here
  exact h same.symm

theorem length_partTrace (s : Option String) (k : BlockKind) :
    (partTrace s k).length = (Text.filled? s).toList.length := List.length_map _

end Traces

variable {k : SectionKind} {d : k.Data} {c : k.Config} {p : Profile} {ks : List BlockKind}

/-- Sections of a kind that makes no social links. -/
theorem no_socials (kinds : ∀ b ∈ ks, b ∈ k.blockKinds) (none : .social ∉ k.blockKinds)
    (zero : socialCount k d p = 0) (i : Nat) :
    ks[i]? = some .social ↔ i < socialCount k d p := by
  refine iff_of_false (fun here => none (kinds _ (List.mem_of_getElem? here))) ?_
  omega

/-- A kind that makes no links at all. -/
theorem traced_linkless (kinds : ∀ b ∈ ks, b ∈ k.blockKinds) (none : .social ∉ k.blockKinds)
    (none' : .link ∉ k.blockKinds) (zero : socialCount k d p = 0)
    (absent : linkOffset? k d c p = .none) : Traced k d c p ks where
  kinds := kinds
  socials := no_socials kinds none zero
  links i here := absurd (kinds _ (List.mem_of_getElem? here)) none'
  firstLink first hfirst := by
    rw [absent] at hfirst
    cases hfirst

theorem socials_traced (d : SocialsData) (c : SocialsConfig) (p : Profile) :
    Traced .socials d c p (socialsTrace d p) := by
  have count : socialCount .socials d p = (own d.links p.socialLinks.links).length := rfl
  have kinds : ∀ b ∈ socialsTrace d p, b ∈ SectionKind.socials.blockKinds := by
    intro b hb
    unfold socialsTrace at hb
    dsimp only at hb
    split at hb
    · cases hb
    · rcases List.mem_append.1 hb with link | group
      · obtain ⟨l, -, rfl⟩ := List.mem_map.1 link
        decide
      · obtain rfl := List.mem_singleton.1 group
        decide
  refine ⟨kinds, fun i => ?_, fun i here => ?_, fun first hfirst => by cases hfirst⟩
  · rw [count]
    unfold socialsTrace
    dsimp only
    split
    · rename_i empty
      simp [List.isEmpty_iff.1 empty]
    · by_cases early : i < (own d.links p.socialLinks.links).length
      · rw [List.getElem?_append_left (by rwa [List.length_map])]
        simp [early]
      · rw [List.getElem?_append_right (by rw [List.length_map]; omega)]
        refine iff_of_false (fun here => ?_) early
        cases List.mem_singleton.1 (List.mem_of_getElem? here)
  · exact absurd (kinds _ (List.mem_of_getElem? here)) (by decide)

theorem contact_traced (d : ContactData) (c : ContactConfig) (p : Profile) :
    Traced .contact d c p (contactTrace d c p) := by
  have kinds : ∀ b ∈ contactTrace d c p, b ∈ SectionKind.contact.blockKinds := by
    intro b hb
    unfold contactTrace at hb
    rcases List.mem_append.1 hb with headline | hb
    · obtain ⟨t, -, rfl⟩ := List.mem_map.1 headline
      decide
    rcases List.mem_append.1 hb with description | ways
    · obtain ⟨t, -, rfl⟩ := List.mem_map.1 description
      decide
    · unfold waysTrace at ways
      split at ways
      · cases ways
      split at ways
      · rcases List.mem_append.1 ways with link | row
        · obtain ⟨m, -, rfl⟩ := List.mem_map.1 link
          decide
        · obtain rfl := List.mem_singleton.1 row
          decide
      · obtain rfl := List.mem_singleton.1 ways
        decide
  have links (i : Nat) : (contactTrace d c p)[i]? = some .link ↔
      (Text.filled? d.headline).toList.length + (Text.filled? d.description).toList.length ≤ i ∧
        (waysTrace (contactMethods d p) c.display)[i - (Text.filled? d.headline).toList.length -
          (Text.filled? d.description).toList.length]? = some .link := by
    unfold contactTrace
    rw [getElem?_append_of_not_mem (not_mem_partTrace _ (by decide)),
      getElem?_append_of_not_mem (not_mem_partTrace _ (by decide)), length_partTrace,
      length_partTrace, ← and_assoc]
    refine and_congr_left fun _ => ?_
    omega
  refine ⟨kinds, no_socials kinds (by decide) rfl, fun i here => ?_, fun first hfirst => ?_⟩
  · obtain ⟨late, here⟩ := (links i).1 here
    refine ⟨_, ?_, late⟩
    -- there are ways to show, and they are shown as links
    unfold waysTrace at here
    split at here
    · cases here
    rename_i some
    split at here
    · rename_i minimal
      exact if_pos ⟨minimal, fun empty => some (List.isEmpty_iff.2 empty)⟩
    · cases List.mem_singleton.1 (List.mem_of_getElem? here)
  · obtain ⟨⟨minimal, some⟩, same⟩ := Option.ite_none_right_eq_some.1 hfirst
    obtain rfl := Option.some.inj same
    refine (links _).2 ⟨le_rfl, ?_⟩
    obtain ⟨m, rest, methods⟩ := List.exists_cons_of_ne_nil some
    unfold waysTrace
    simp [methods, minimal]

theorem blogPosts_traced (d : BlogPostsData) (c : BlogPostsConfig) (p : Profile) :
    Traced .blogPosts d c p ((upTo d.maxPosts d.items).flatMap (postTrace c)) := by
  have offset : linkOffset? .blogPosts d c p =
      if upTo d.maxPosts d.items = [] then none else some 0 := rfl
  have kinds : ∀ b ∈ (upTo d.maxPosts d.items).flatMap (postTrace c),
      b ∈ SectionKind.blogPosts.blockKinds := by
    intro b hb
    obtain ⟨post, -, hb⟩ := List.mem_flatMap.1 hb
    unfold postTrace at hb
    rcases List.mem_cons.1 hb with rfl | hb
    · decide
    rcases List.mem_append.1 hb with excerpt | hb
    · obtain ⟨t, -, rfl⟩ := List.mem_map.1 excerpt
      decide
    rcases List.mem_append.1 hb with date | column
    · obtain ⟨t, -, rfl⟩ := List.mem_map.1 date
      decide
    · obtain rfl := List.mem_singleton.1 column
      decide
  refine ⟨kinds, no_socials kinds (by decide) rfl, fun i here => ?_, fun first hfirst => ?_⟩
  · rw [offset]
    cases posts : upTo d.maxPosts d.items with
    | nil =>
      rw [posts] at here
      cases here
    | cons post rest => exact ⟨0, rfl, i.zero_le⟩
  · rw [offset] at hfirst
    cases posts : upTo d.maxPosts d.items with
    | nil =>
      rw [posts] at hfirst
      cases hfirst
    | cons post rest =>
      rw [posts] at hfirst
      cases hfirst
      rfl

/-- The trace of any kind of section. -/
theorem build_adds (k : SectionKind) (d : k.Data) (c : k.Config) (p : Profile) :
    (build k d c p).Adds [] Block.labelsAll (Traced k d c p) := by
  have linkless {k : SectionKind} {d : k.Data} {c : k.Config} (none : .social ∉ k.blockKinds)
      (none' : .link ∉ k.blockKinds) (zero : socialCount k d p = 0)
      (absent : linkOffset? k d c p = .none) (made : MadeOf k (build k d c p)) :
      (build k d c p).Adds [] Block.labelsAll (Traced k d c p) :=
    Adds.weaken made fun _ kinds => traced_linkless kinds none none' zero absent
  cases k with
  | contact => exact (contact_adds d c p).weaken fun _ same => same ▸ contact_traced d c p
  | socials => exact (socials_adds d c p).weaken fun _ same => same ▸ socials_traced d c p
  | blogPosts => exact (blogPosts_adds d c).weaken fun _ same => same ▸ blogPosts_traced d c p
  | hero => exact linkless (by decide) (by decide) rfl rfl (hero_madeOf d c p)
  | about => exact linkless (by decide) (by decide) rfl rfl (about_madeOf d c p)
  | techStack => exact linkless (by decide) (by decide) rfl rfl (techStack_madeOf d c p)
  | githubStats => exact linkless (by decide) (by decide) rfl rfl (githubStats_madeOf d c p)
  | projects => exact linkless (by decide) (by decide) rfl rfl (projects_madeOf d c p)
  | experience =>
    exact linkless (by decide) (by decide) rfl rfl (addsOf_blocks (fun _ => addsOf_element rfl rfl) _)
  | education =>
    exact linkless (by decide) (by decide) rfl rfl (addsOf_blocks (fun _ => addsOf_element rfl rfl) _)
  | achievements => exact linkless (by decide) (by decide) rfl rfl (achievements_madeOf d c)
  | quote =>
    exact linkless (by decide) (by decide) rfl rfl (addsOf_part? _ fun _ => addsOf_element rfl rfl)
  | divider => exact linkless (by decide) (by decide) rfl rfl (divider_madeOf d c)
  | spacer => exact linkless (by decide) (by decide) rfl rfl (addsOf_single (addsOf_element rfl rfl))
  | customMarkdown => exact linkless (by decide) (by decide) rfl rfl (customMarkdown_madeOf d p)
  | customHtml => exact linkless (by decide) (by decide) rfl rfl (customHtml_madeOf d)
  | spotify =>
    exact linkless (by decide) (by decide) rfl rfl (addsOf_part? _ fun _ => addsOf_element rfl rfl)
  | wakatime => exact linkless (by decide) (by decide) rfl rfl (wakatime_madeOf d c p)
  | contributions => exact linkless (by decide) (by decide) rfl rfl (contributions_madeOf d c p)
  | pinnedRepos => exact linkless (by decide) (by decide) rfl rfl (pinnedRepos_madeOf d c p)

end Render

end ProfileReadme
