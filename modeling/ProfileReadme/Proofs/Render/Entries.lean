/-
Sections that list entries: technologies, statistics, projects, positions, studies, achievements and
social links. Such a section has one list that counts, its own unless that is empty and the
profile's then; what it is built of shows this list, entry by entry and in order, whatever it is
wrapped in. What is shown of an entry is said by the entry and the settings of the section; only
statistics need an account besides, and without one there is nothing to build.
-/
import ProfileReadme.Proofs.Outcome
import ProfileReadme.Proofs.Render.Total

namespace ProfileReadme

/-! ## What blocks show -/

/-- What a page shows at one place: an element, or a text in a list. -/
inductive Exhibit where
  | element (e : Element)
  | text (s : String)

/-- The members of a group, or the element itself. -/
def Element.exhibits : Element → List Exhibit
  | .badgeGroup g => g.members.map fun m => .element (.badge m.content)
  | .statGroup g => g.members.map fun m => .element (.stat m.content)
  | .socialGroup g => g.members.map fun m => .element (.social m.content)
  | e => [.element e]

mutual

/-- What a block shows, in order, without what it is wrapped in. -/
def Block.exhibits : Block → List Exhibit
  | .element _ _ content => content.exhibits
  | .stack _ _ _ children => Block.exhibitsAll children
  | .list _ _ _ items => Item.exhibitsAll items

def Block.exhibitsAll : List Block → List Exhibit
  | [] => []
  | b :: bs => b.exhibits ++ Block.exhibitsAll bs

def Item.exhibitsAll : List Item → List Exhibit
  | [] => []
  | .text s _ nested :: rest => .text s :: Item.exhibitsAll nested ++ Item.exhibitsAll rest
  | .block content _ nested :: rest =>
    content.exhibits ++ Item.exhibitsAll nested ++ Item.exhibitsAll rest

end

theorem Block.exhibitsAll_eq (bs : List Block) :
    Block.exhibitsAll bs = (bs.map Block.exhibits).flatten := by
  induction bs with
  | nil => rfl
  | cons b bs ih => rw [Block.exhibitsAll, ih, List.map_cons, List.flatten_cons]

theorem Block.exhibitsAll_single (b : Block) : Block.exhibitsAll [b] = b.exhibits :=
  List.append_nil _

theorem Item.exhibitsAll_texts (icon : Option String) : ∀ ss : List String,
    Item.exhibitsAll (ss.map fun s => .text s icon []) = ss.map .text
  | [] => rfl
  | s :: ss => by
    rw [List.map_cons, Item.exhibitsAll, Item.exhibitsAll_texts icon ss]
    rfl

/-! ## Lists of entries -/

namespace SectionKind

/-- Whether sections of a kind list entries. -/
def listsEntries : SectionKind → Bool
  | .techStack | .githubStats | .projects | .experience | .education | .achievements | .socials =>
    true
  | _ => false

/-- What the entries of sections of a kind are. -/
@[reducible]
def Entry : SectionKind → Type
  | .techStack => TechItem
  | .githubStats => StatCard
  | .projects => Project
  | .experience => Experience
  | .education => Education
  | .achievements => Achievement
  | .socials => SocialLink
  | _ => Empty

/-- The entries that a section has of its own. -/
def ownEntries : (k : SectionKind) → k.Data → List k.Entry
  | .techStack, d => d.items
  | .githubStats, d => d.cards
  | .projects, d => d.items
  | .experience, d => d.items
  | .education, d => d.items
  | .achievements, d => d.items
  | .socials, d => d.links
  | _, _ => []

/-- The entries that a profile has for sections of a kind. -/
def profileEntries : (k : SectionKind) → Profile → List k.Entry
  | .techStack, p => p.techStack.items
  | .projects, p => p.projects.items
  | .experience, p => p.professional.experience
  | .education, p => p.professional.education
  | .socials, p => p.socialLinks.links
  | _, _ => []

/-- The entries that are chosen of a list: of projects the featured ones, if only these are asked
for, and then the first ones, as many as there may be. -/
def chosen : (k : SectionKind) → k.Data → k.Config → List k.Entry → List k.Entry
  | .projects, d, c, entries =>
    let entries := if d.featuredOnly then entries.filter (·.featured) else entries
    match c.maxProjects with
    | some n => entries.take n.toNat
    | none => entries
  | _, _, _, entries => entries

/-- The entries that count. -/
def effective (k : SectionKind) (d : k.Data) (c : k.Config) (p : Profile) : List k.Entry :=
  chosen k d c (if (ownEntries k d).isEmpty then profileEntries k p else ownEntries k d)

/-- The account that statistics are about. -/
def accountFor : (k : SectionKind) → k.Data → Profile → String
  | .githubStats, d, p => if d.username.isEmpty then p.githubUsername else d.username
  | _, _, _ => ""

/-- What is shown of a technology. -/
def techExhibit (c : TechStackConfig) (i : TechItem) : Exhibit :=
  match c.display with
  | .list => .text i.name
  | .badges =>
    .element (.badge { label := i.name, logo := some (logoName i.name), style := c.badgeStyle })
  | _ => .element (.text { value := i.name })

/-- A card of statistics about an account. -/
def cardExhibit (c : GithubStatsConfig) (account : String) (card : StatCard) : Exhibit :=
  .element <| .statsCard
    { username := account, card, theme := c.theme, showIcons := c.showIcons,
      hideBorder := c.hideBorder, includeAllCommits := c.includeAllCommits,
      countPrivate := c.countPrivate }

/-- What is shown of a project. -/
def projectExhibit (r : Project) : Exhibit :=
  .element <| .projectCard
    { name := r.name, description := r.description, repoUrl := r.repoUrl, demoUrl := r.demoUrl,
      techStack := r.techStack, stars := r.stars, forks := r.forks, featured := r.featured }

/-- What is shown of a position: its technologies if they are asked for. -/
def positionExhibit (c : ExperienceConfig) (e : Experience) : Exhibit :=
  .element <| .position
    { company := e.company, role := e.role, startDate := e.startDate, endDate := e.endDate,
      location := e.location, description := e.description, highlights := e.highlights,
      technologies := if c.showTechnologies then e.technologies else [] }

/-- What is shown of a study: its grade if it is asked for. -/
def studyExhibit (c : EducationConfig) (e : Education) : Exhibit :=
  .element <| .study
    { institution := e.institution, degree := e.degree, startDate := e.startDate,
      endDate := e.endDate, subject := e.subject, gpa := if c.showGpa then e.gpa else none,
      honors := e.honors }

/-- What is shown of an achievement. -/
def awardExhibit (c : AchievementsConfig) (a : Achievement) : Exhibit :=
  match c.display with
  | .badges =>
    .element (.badge { label := a.title, message := a.issuer, link := a.url, style := .flat })
  | _ =>
    .element <| .award
      { title := a.title, description := a.description, date := a.date, issuer := a.issuer,
        icon := a.icon, url := a.url }

/-- What is shown of a social link. -/
def socialExhibit (c : SocialsConfig) (l : SocialLink) : Exhibit :=
  .element <| .social
    { platform := platformName l.platform, url := l.url, username := l.username,
      label := l.label, showIcon := c.display != .minimal, showLabel := c.showLabels }

/-- What is shown of an entry. -/
def exhibit : (k : SectionKind) → k.Config → (account : String) → k.Entry → Exhibit
  | .techStack => fun c _ => techExhibit c
  | .githubStats => cardExhibit
  | .projects => fun _ _ => projectExhibit
  | .experience => fun c _ => positionExhibit c
  | .education => fun c _ => studyExhibit c
  | .achievements => fun c _ => awardExhibit c
  | .socials => fun c _ => socialExhibit c
  | .hero | .about | .blogPosts | .contact | .quote | .divider | .spacer | .customMarkdown
  | .customHtml | .spotify | .wakatime | .contributions | .pinnedRepos => fun _ _ => nofun

/-- Technologies are not put in groups, and a limit on projects lets some be shown. -/
def IsPlain : (k : SectionKind) → k.Data → k.Config → Prop
  | .techStack, d, c => ¬(c.display = .badges ∧ d.groupByCategory = true ∧ c.categoryHeaders = true)
  | .projects, _, c => ∀ n ∈ c.maxProjects, 0 < n
  | _, _, _ => True

end SectionKind

/-! ## What steps make -/

namespace Making

variable {ε α β γ : Type}

theorem Makes.map_mapM {f : γ → Making ε α} {g : α → β} {h : γ → β}
    (each : ∀ c, (f c).Makes fun a => g a = h c) :
    ∀ l : List γ, (l.mapM f).Makes fun as => as.map g = l.map h
  | [] => makes_pure rfl
  | c :: l => by
    rw [List.mapM_cons]
    refine (each c).bind fun a ha => (Makes.map_mapM each l).bind fun as has => makes_pure ?_
    rw [List.map_cons, List.map_cons, ha, has]

theorem makes_element (e : Element) :
    (element e : Making ε Block).Makes fun b => b.exhibits = e.exhibits :=
  Makes.after fun _ => makes_pure rfl

theorem makes_stack (layout : Layout) (children : List Block) :
    (stack layout children : Making ε Block).Makes fun b =>
      b.exhibits = Block.exhibitsAll children :=
  Makes.after fun _ => makes_pure rfl

theorem makes_texts (marker : ListMarker) (ss : List String) (icon : Option String) :
    (list marker (ss.map fun s => .text s icon []) : Making ε Block).Makes fun b =>
      b.exhibits = ss.map .text :=
  Makes.after fun _ => makes_pure (Item.exhibitsAll_texts icon ss)

/-- Elements that are no groups, made one after the other. -/
theorem makes_elements {f : γ → Element} (alone : ∀ c, (f c).exhibits = [.element (f c)])
    (l : List γ) : (l.mapM fun c => element (f c) : Making ε (List Block)).Makes fun bs =>
      Block.exhibitsAll bs = l.map fun c => .element (f c) := by
  have each (c : γ) : (element (f c) : Making ε Block).Makes fun b =>
      b.exhibits = [.element (f c)] := (makes_element (f c)).imp fun b same => same.trans (alone c)
  refine (Makes.map_mapM each l).imp fun bs same => ?_
  rw [Block.exhibitsAll_eq, same, ← List.flatMap_def, List.map_eq_flatMap]

theorem makes_members (k : BlockKind) (f : γ → α) (l : List γ) :
    (l.mapM fun c => member k (f c) : Making ε (List (Placed α))).Makes fun ms =>
      ms.map Placed.content = l.map f := by
  have each (c : γ) : (member k (f c) : Making ε (Placed α)).Makes fun m => m.content = f c :=
    Makes.after fun _ => makes_pure rfl
  exact Makes.map_mapM each l

end Making

namespace Render

open Making SectionKind

/-- Steps that make blocks with some exhibits. -/
def Shows (x : Build (List Block)) (exhibits : List Exhibit) : Prop :=
  x.Makes fun blocks => Block.exhibitsAll blocks = exhibits

variable {exhibits : List Exhibit}

theorem shows_none : Shows (pure []) [] := makes_pure rfl

theorem shows_single {x : Build Block} (h : x.Makes fun b => b.exhibits = exhibits) :
    Shows (do return [← x]) exhibits :=
  h.bind fun b same => makes_pure ((Block.exhibitsAll_single b).trans same)

theorem shows_gathered {contain : List Block → Build Block} {blocks : List Block}
    (h : (contain blocks).Makes fun b => b.exhibits = Block.exhibitsAll blocks) :
    Shows (gathered contain blocks) (Block.exhibitsAll blocks) := by
  unfold gathered
  split
  next empty =>
    rw [List.isEmpty_iff.1 empty]
    exact shows_none
  · exact shows_single h

/-! ## Builders -/

/-- A group, after its members. -/
theorem shows_members {γ α : Type} (k : BlockKind) (f : γ → α)
    {group : List (Placed α) → Element} (one : α → Element)
    (h : ∀ ms, (group ms).exhibits = ms.map fun m => .element (one m.content)) (l : List γ) :
    Shows (do
      let members ← l.mapM fun c => member k (f c)
      return [← element (group members)]) (l.map fun c => .element (one (f c))) := by
  refine (makes_members k f l).bind fun ms same => shows_single ?_
  refine (makes_element (group ms)).imp fun b shown => ?_
  have members : ms.map (fun m => Exhibit.element (one m.content)) =
      (ms.map Placed.content).map fun a => .element (one a) := by
    rw [List.map_map]
    rfl
  rw [shown, h, members, same, List.map_map]
  rfl

theorem techStack_shows {d : TechStackData} {c : TechStackConfig} (p : Profile)
    (plain : IsPlain .techStack d c) : Shows (techStack d c p)
      ((effective .techStack d c p).map (exhibit .techStack c "")) := by
  show Shows _ ((own d.items p.techStack.items).map (techExhibit c))
  unfold techStack
  dsimp only
  split
  next empty =>
    rw [List.isEmpty_iff.1 empty]
    exact shows_none
  have words (other : c.display ≠ .list) (other' : c.display ≠ .badges) :
      techExhibit c = fun i => .element (.text { value := i.name }) := by
    funext i
    cases display : c.display <;> simp_all [techExhibit]
  cases display : c.display with
  | list =>
    have texts : techExhibit c = fun i => .text i.name := by
      funext i
      simp [techExhibit, display]
    rw [texts]
    refine shows_single ((makes_texts _ _ none).imp fun b same => ?_)
    rw [same, List.map_map]
    rfl
  | badges =>
    have badges : techExhibit c = fun i => .element (.badge
        { label := i.name, logo := some (logoName i.name), style := c.badgeStyle }) := by
      funext i
      simp [techExhibit, display]
    have alone : ¬(d.groupByCategory && c.categoryHeaders) = true := fun both =>
      plain ⟨display, (Bool.and_eq_true _ _ ▸ both)⟩
    dsimp only
    rw [if_neg alone, badges]
    exact shows_members .badge _ .badge (fun _ => rfl) _
  | icons | cards | table =>
    rw [words (by simp [display]) (by simp [display])]
    exact (makes_elements (fun _ => rfl) _).bind fun bs same => shows_single <|
      (makes_stack _ bs).imp fun b shown => shown.trans same

theorem makes_account (username : String) (p : Profile) : (account username p).Makes (· =
    if username.isEmpty then p.githubUsername else username) := by
  have chosen : Text.filledOr (some username) p.githubUsername =
      if username.isEmpty then p.githubUsername else username := by
    unfold Text.filledOr Text.filled?
    cases empty : username.isEmpty <;> simp [Option.filter, empty]
  unfold account
  dsimp only
  split
  · exact fun n a n' hrun => nomatch hrun
  · exact makes_pure chosen

/-- An empty list that has nothing to fall back to is the list that counts. -/
theorem own_nil {α : Type} (entries : List α) :
    (if entries.isEmpty then [] else entries) = entries := by
  split
  next empty => exact (List.isEmpty_iff.1 empty).symm
  · rfl

theorem githubStats_shows (d : GithubStatsData) (c : GithubStatsConfig) (p : Profile) :
    Shows (githubStats d c p) ((effective .githubStats d c p).map
      (exhibit .githubStats c (accountFor .githubStats d p))) := by
  rw [show effective .githubStats d c p = d.cards from own_nil d.cards]
  refine (makes_account d.username p).bind fun username same => ?_
  subst same
  refine (makes_elements (fun _ => rfl) _).bind fun bs same => ?_
  have same : Block.exhibitsAll bs =
      d.cards.map (exhibit .githubStats c (accountFor .githubStats d p)) := same
  rw [← same]
  refine shows_gathered ?_
  cases c.cardLayout <;> exact makes_stack _ bs

theorem shownProjects_eq {d : ProjectsData} {c : ProjectsConfig} (p : Profile)
    (plain : IsPlain .projects d c) : shownProjects d c p = effective .projects d c p := by
  unfold shownProjects
  show _ = match c.maxProjects with
    | some n => List.take n.toNat _
    | none => _
  cases limit : c.maxProjects with
  | none => rfl
  | some n =>
    have positive : 0 < n := plain n limit
    have sized : Element.sizeOf? (some n) = some n :=
      Option.filter_eq_some_iff.2 ⟨rfl, decide_eq_true (by omega)⟩
    rw [sized]
    exact if_pos (Int.le_of_lt positive)

theorem projects_exhibits (d : ProjectsData) (c : ProjectsConfig) (p : Profile) :
    Shows (projects d c p) ((shownProjects d c p).map projectExhibit) := by
  refine (makes_elements (fun _ => rfl) _).bind fun bs same => ?_
  have same : Block.exhibitsAll bs = (shownProjects d c p).map projectExhibit := same
  rw [← same]
  split
  · exact shows_gathered (makes_stack _ bs)
  · exact shows_gathered (makes_stack _ bs)
  · exact makes_pure rfl

theorem projects_shows {d : ProjectsData} {c : ProjectsConfig} (p : Profile)
    (plain : IsPlain .projects d c) : Shows (projects d c p)
      ((effective .projects d c p).map (exhibit .projects c "")) := by
  rw [← shownProjects_eq p plain]
  exact projects_exhibits d c p

theorem achievements_shows (d : AchievementsData) (c : AchievementsConfig) (p : Profile) :
    Shows (achievements d c)
      ((effective .achievements d c p).map (exhibit .achievements c "")) := by
  rw [show effective .achievements d c p = d.items from own_nil d.items]
  show Shows _ (d.items.map (awardExhibit c))
  unfold achievements
  split
  next empty =>
    rw [List.isEmpty_iff.1 empty]
    exact shows_none
  have awards (other : c.display ≠ .badges) : awardExhibit c = fun a => .element (.award
      { title := a.title, description := a.description, date := a.date, issuer := a.issuer,
        icon := a.icon, url := a.url }) := by
    funext a
    cases display : c.display <;> simp_all [awardExhibit]
  cases display : c.display with
  | badges =>
    have badges : awardExhibit c = fun a => .element
        (.badge { label := a.title, message := a.issuer, link := a.url, style := .flat }) := by
      funext a
      simp [awardExhibit, display]
    rw [badges]
    exact shows_members .badge _ .badge (fun _ => rfl) _
  | grid =>
    rw [awards (by simp [display])]
    exact (makes_elements (fun _ => rfl) _).bind fun bs same => shows_single <|
      (makes_stack _ bs).imp fun b shown => shown.trans same
  | list =>
    rw [awards (by simp [display])]
    exact (makes_elements (fun _ => rfl) _).bind fun bs same => makes_pure same

theorem socials_shows (d : SocialsData) (c : SocialsConfig) (p : Profile) :
    Shows (socials d c p) ((effective .socials d c p).map (exhibit .socials c "")) := by
  show Shows _ ((own d.links p.socialLinks.links).map (socialExhibit c))
  unfold socials
  dsimp only
  split
  next empty =>
    rw [List.isEmpty_iff.1 empty]
    exact shows_none
  · exact shows_members .social _ .social (fun _ => rfl) _

/-- The builder of any kind of section that lists entries. -/
theorem build_shows {k : SectionKind} (lists : k.listsEntries = true) {d : k.Data} {c : k.Config}
    (plain : IsPlain k d c) (p : Profile) :
    Shows (build k d c p) ((effective k d c p).map (exhibit k c (accountFor k d p))) := by
  cases k with
  | techStack => exact techStack_shows p plain
  | githubStats => exact githubStats_shows d c p
  | projects => exact projects_shows p plain
  | experience => exact makes_elements (fun _ => rfl) _
  | education => exact makes_elements (fun _ => rfl) _
  | achievements => exact achievements_shows d c p
  | socials => exact socials_shows d c p
  | _ => cases lists

/-! ## Sections -/

/-- The one thing that keeps such a section from being built is that there is no account. -/
theorem hindrance_of_lists {s : Section} (lists : s.kind.listsEntries = true) (p : Profile)
    (f : Failure) : hindrance s.kind s.data p = some f ↔ f = .noAccount ∧ WithoutAccount p s := by
  have others : codingAccountOf? s = none ∧ cleanedMarkup? s = none := by
    rcases s with ⟨id, kind, enabled, order, title, data, config⟩
    cases kind <;> first | exact ⟨rfl, rfl⟩ | cases lists
  rw [hindrance_eq_some_iff, WithoutCodingAccount, others.1, others.2]
  simp

/-- A section that lists entries shows its own entries or, if it has none, the profile's: each that
counts once, in order, as the settings of the section have it. Statistics are about an account, that
of the section or of the profile; without one nothing is built of them. -/
theorem entries_built {s : Section} (lists : s.kind.listsEntries = true)
    (plain : IsPlain s.kind s.data s.config) (p : Profile) :
    (WithoutAccount p s ∧ Registry.usual.build s p = .error .noAccount) ∨
    (¬WithoutAccount p s ∧ ∃ blocks, Registry.usual.build s p = .ok blocks ∧
      Block.exhibitsAll blocks = (effective s.kind s.data s.config p).map
        (exhibit s.kind s.config (accountFor s.kind s.data p))) := by
  have fails (f : Failure) := (build_eq_error_iff (p := p) (s := s) (f := f)).trans
    (hindrance_of_lists lists p f)
  cases built : Registry.usual.build s p with
  | error f =>
    obtain ⟨rfl, without⟩ := (fails f).1 built
    exact .inl ⟨without, rfl⟩
  | ok blocks =>
    refine .inr ⟨fun without => ?_, blocks, rfl, ?_⟩
    · have failed := (fails .noAccount).2 ⟨rfl, without⟩
      rw [built] at failed
      cases failed
    · rw [usual_build] at built
      obtain ⟨⟨made, n⟩, hrun, rfl⟩ := map_eq_ok built
      exact build_shows lists plain p _ _ _ hrun

/-- The first of the featured projects, and a profile with one that does not count. -/
def featuredWork : Section :=
  { id := "work", kind := .projects, config := { display := .grid, maxProjects := some 1 },
    data :=
      { items := [{ name := "plain" }, { name := "first", featured := true },
          { name := "second", featured := true }],
        featuredOnly := true } }

theorem featuredWork_built :
    ∃ blocks, Registry.usual.build featuredWork
        { projects := { items := [{ name := "elsewhere", featured := true }] } } = .ok blocks ∧
      Block.exhibitsAll blocks =
        [.element (.projectCard { name := "first", featured := true })] := by
  have positive : IsPlain featuredWork.kind featuredWork.data featuredWork.config := by
    rintro n ⟨⟩
    decide
  rcases entries_built (s := featuredWork) rfl positive
    { projects := { items := [{ name := "elsewhere", featured := true }] } } with
    ⟨without, -⟩ | ⟨-, blocks, built, same⟩
  · cases without.1
  · exact ⟨blocks, built, same⟩

/-! ## Statistics and their account -/

/-- A card of statistics about nobody. -/
def unnamedStats : Section :=
  { id := "stats", kind := .githubStats, data := { cards := [.stats] }, config := {} }

/-- Without an account there is no card; and with one the card is about it, so that the section
alone does not say what is shown. -/
theorem unnamedStats_open :
    effective unnamedStats.kind unnamedStats.data unnamedStats.config {} = [.stats] ∧
    (¬∃ blocks, Registry.usual.build unnamedStats {} = .ok blocks) ∧
    ¬∃ shown : StatCard → Exhibit, ∀ p blocks, Registry.usual.build unnamedStats p = .ok blocks →
      Block.exhibitsAll blocks = [StatCard.stats].map shown := by
  have about_one : ∃ blocks,
      Registry.usual.build unnamedStats { githubUsername := "one" } = .ok blocks ∧
        Block.exhibitsAll blocks = [.element (.statsCard { username := "one" })] := ⟨_, rfl, rfl⟩
  have about_other : ∃ blocks,
      Registry.usual.build unnamedStats { githubUsername := "other" } = .ok blocks ∧
        Block.exhibitsAll blocks = [.element (.statsCard { username := "other" })] := ⟨_, rfl, rfl⟩
  refine ⟨rfl, ?_, ?_⟩
  · rintro ⟨blocks, built⟩
    have failed : Registry.usual.build unnamedStats {} = .error .noAccount := by rfl
    rw [failed] at built
    cases built
  · rintro ⟨shown, same⟩
    obtain ⟨blocks, built, here⟩ := about_one
    obtain ⟨blocks', built', there⟩ := about_other
    have clash := (here.symm.trans (same _ _ built)).trans ((same _ _ built').symm.trans there)
    simp at clash

end Render

end ProfileReadme
