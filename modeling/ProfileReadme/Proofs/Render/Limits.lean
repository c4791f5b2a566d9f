/-
Sections with a limit: blog posts, projects and pinned repositories. What such a section shows is
always the start of a list, and a positive limit bounds it. Other limits need not: a negative one
takes its amount off the end of the list and leaves the rest, so it bounds what is shown only if
nothing is left, and to projects zero is no limit at all.
-/
import ProfileReadme.Proofs.Render.Entries

namespace ProfileReadme

/-! ## Candidates -/

/-- What a section with a limit may show. -/
inductive Candidate where
  | post (post : BlogPost)
  | project (r : Project)
  /-- A repository by its name. -/
  | named (name : String)
  /-- A repository that the profile knows. -/
  | repository (r : Repository)

namespace SectionKind

/-- The limit of a section, if there is one. -/
def limit? : (k : SectionKind) → k.Data → k.Config → Option Int
  | .blogPosts, d, _ => some d.maxPosts
  | .pinnedRepos, d, _ => some d.maxRepos
  | .projects, _, c => c.maxProjects
  | _, _, _ => none

/-- How many of `count` candidates are shown under a limit: a negative limit takes its amount off
the end, and zero does not limit projects. -/
def room (k : SectionKind) (limit : Int) (count : Nat) : Nat :=
  if limit < 0 then count - limit.natAbs
  else if k = .projects ∧ limit = 0 then count
  else min limit.toNat count

/-- The limits that bound what is shown, whatever there is to show. -/
def Bounds (k : SectionKind) (limit : Int) : Prop := 0 < limit ∨ limit = 0 ∧ k ≠ .projects

/-- The projects that may be shown: those of the section or, if it has none, of the profile, and of
these the featured ones if only these are asked for. -/
def projectsFor (d : ProjectsData) (p : Profile) : List Project :=
  let projects := if d.items.isEmpty then p.projects.items else d.items
  if d.featuredOnly then projects.filter (·.featured) else projects

/-- The list that a section shows the start of. Of pinned repositories these are the names in the
section, or the repositories that the profile knows if the limit leaves none of the names. -/
def eligible : (k : SectionKind) → k.Data → Profile → List Candidate
  | .blogPosts, d, _ => d.items.map .post
  | .projects, d, p => (projectsFor d p).map .project
  | .pinnedRepos, d, p =>
    if room .pinnedRepos d.maxRepos d.repos.length = 0 then
      (p.github.elim [] (·.pinnedRepos)).map .repository
    else d.repos.map .named
  | _, _, _ => []

/-- A text that is shown if it is asked for and there is one. -/
def wordsIf (asked : Bool) (s : Option String) (emphasis : Emphasis) : List Exhibit :=
  ((Text.filled? (if asked then s else none)).map fun value =>
    .element (.text { value, emphasis })).toList

/-- What is shown of a candidate. -/
def look : (k : SectionKind) → k.Data → k.Config → Profile → Candidate → List Exhibit
  | .blogPosts, _, c, _, .post post =>
    .element (.link { href := post.url, label := post.title }) ::
      wordsIf c.showExcerpt post.excerpt .normal ++ wordsIf c.showDate post.date .italic
  | .projects, _, _, _, .project r => [projectExhibit r]
  | .pinnedRepos, d, _, p, .named name =>
    let account := if d.username.isEmpty then p.githubUsername else d.username
    [.element <| .projectCard
      { name, repoUrl := some ("https://github.com/" ++ account ++ "/" ++ name) }]
  | .pinnedRepos, _, _, _, .repository r =>
    [.element <| .projectCard
      { name := r.name, description := r.description.getD "", repoUrl := r.url,
        techStack := (Text.filled? r.language).toList, stars := some r.stars,
        forks := some r.forks }]
  | _, _, _, _, _ => []

theorem room_le (k : SectionKind) (limit : Int) (count : Nat) : room k limit count ≤ count := by
  unfold room
  split
  · omega
  · split <;> omega

/-- The candidates that are shown are within the limit exactly if it bounds them, or if there are
too few of them for it to leave any. -/
theorem room_le_limit_iff (k : SectionKind) (limit : Int) (count : Nat) :
    (room k limit count : Int) ≤ max limit 0 ↔ Bounds k limit ∨ count ≤ limit.natAbs := by
  unfold room Bounds
  split
  · omega
  · by_cases none : k = .projects ∧ limit = 0
    · rw [if_pos none]
      simp [none.1, none.2]
    · rw [if_neg none]
      refine iff_of_true (by omega) (.inl ?_)
      by_cases zero : limit = 0
      · exact .inr ⟨zero, fun projects => none ⟨projects, zero⟩⟩
      · omega

end SectionKind

theorem Block.exhibitsAll_append (as bs : List Block) :
    Block.exhibitsAll (as ++ bs) = Block.exhibitsAll as ++ Block.exhibitsAll bs := by
  rw [exhibitsAll_eq, exhibitsAll_eq, exhibitsAll_eq, List.map_append, List.flatten_append]

namespace Render

open Making SectionKind

/-! ## Builders -/

theorem shows_mapM {α : Type} {f : α → Build Block} {h : α → List Exhibit}
    (each : ∀ a, (f a).Makes fun b => b.exhibits = h a) (l : List α) :
    Shows (l.mapM f) (l.flatMap h) := by
  refine (Makes.map_mapM each l).imp fun bs same => ?_
  rw [Block.exhibitsAll_eq, same, List.flatMap_def]

theorem shows_part? (s : Option String) {f : String → Build Block} {x : String → Exhibit}
    (h : ∀ t, (f t).Makes fun b => b.exhibits = [x t]) :
    Shows (part? s f) ((Text.filled? s).map x).toList := by
  unfold part?
  cases Text.filled? s with
  | none => exact shows_none
  | some t => exact shows_single (h t)

theorem upTo_eq_take {α : Type} {k : SectionKind} {n : Int} (limits : n = 0 → k ≠ .projects)
    (xs : List α) : upTo n xs = xs.take (room k n xs.length) := by
  unfold upTo room
  by_cases negative : n < 0
  · rw [if_neg (by omega), if_pos negative]
  · have some : ¬(k = .projects ∧ n = 0) := fun none => limits none.2 none.1
    rw [if_pos (by omega), if_neg negative, if_neg some, ← List.take_eq_take_min]

/-- The candidates that a section shows. -/
def shownOf (k : SectionKind) (n : Int) (d : k.Data) (p : Profile) : List Candidate :=
  (eligible k d p).take (room k n (eligible k d p).length)

theorem shownOf_flatMap {α : Type} {k : SectionKind} {n : Int} {d : k.Data} {p : Profile}
    (xs : List α) {f : α → Candidate} (same : eligible k d p = xs.map f)
    (h : Candidate → List Exhibit) :
    (shownOf k n d p).flatMap h = (xs.take (room k n xs.length)).flatMap fun a => h (f a) := by
  rw [shownOf, same, List.length_map, ← List.map_take, List.flatMap_map]

theorem blogPosts_limited (d : BlogPostsData) (c : BlogPostsConfig) (p : Profile) :
    Shows (blogPosts d c)
      ((shownOf .blogPosts d.maxPosts d p).flatMap (look .blogPosts d c p)) := by
  rw [shownOf_flatMap d.items rfl, ← upTo_eq_take (k := .blogPosts) fun _ => nofun]
  refine shows_mapM (fun post => ?_) _
  refine (makes_element _).bind fun title htitle => ?_
  refine (shows_part? _ fun value => makes_element (.text { value })).bind fun excerpt hexcerpt => ?_
  refine (shows_part? _ fun value => makes_element (.text { value, emphasis := .italic })).bind
    fun date hdate => (makes_stack _ _).imp fun b shown => ?_
  rw [shown, List.cons_append, Block.exhibitsAll, htitle, Block.exhibitsAll_append, hexcerpt, hdate]
  rfl

theorem shownProjects_limited {d : ProjectsData} {c : ProjectsConfig} {n : Int}
    (limited : c.maxProjects = some n) (p : Profile) : shownProjects d c p =
      (projectsFor d p).take (room .projects n (projectsFor d p).length) := by
  unfold shownProjects
  rw [limited]
  by_cases zero : n = 0
  · have all : room .projects n (projectsFor d p).length = (projectsFor d p).length := by
      rw [room, if_neg (by omega), if_pos ⟨rfl, zero⟩]
    have unsized : Element.sizeOf? (some n) = none := by simp [Element.sizeOf?, zero]
    rw [all, List.take_length, unsized]
    rfl
  · have sized : Element.sizeOf? (some n) = some n := by simp [Element.sizeOf?, Option.filter, zero]
    rw [sized]
    exact upTo_eq_take (fun none => absurd none zero) (projectsFor d p)

theorem projects_limited {d : ProjectsData} {c : ProjectsConfig} {n : Int}
    (limited : c.maxProjects = some n) (p : Profile) : Shows (projects d c p)
      ((shownOf .projects n d p).flatMap (look .projects d c p)) := by
  rw [shownOf_flatMap (projectsFor d p) rfl, ← shownProjects_limited limited]
  show Shows _ ((shownProjects d c p).flatMap fun r => [projectExhibit r])
  rw [← List.map_eq_flatMap]
  exact projects_exhibits d c p

theorem pinnedRepos_limited (d : PinnedReposData) (c : PinnedReposConfig) (p : Profile) :
    Shows (pinnedRepos d c p)
      ((shownOf .pinnedRepos d.maxRepos d p).flatMap (look .pinnedRepos d c p)) := by
  refine (makes_account d.username p).bind fun username same => ?_
  subst same
  have cut {α : Type} (xs : List α) : upTo d.maxRepos xs = xs.take _ :=
    upTo_eq_take (k := .pinnedRepos) (fun _ => nofun) xs
  have left : (upTo d.maxRepos d.repos).length = room .pinnedRepos d.maxRepos d.repos.length := by
    rw [cut, List.length_take, Nat.min_eq_left (room_le ..)]
  refine (Makes.map_mapM (g := Block.exhibits) (h := fun name => look .pinnedRepos d c p (.named name))
    (fun name => makes_element _) _).bind fun named same => ?_
  have length := congrArg List.length same
  rw [List.length_map, List.length_map, left] at length
  split
  next empty =>
    -- none of the names is left, so the repositories of the profile are cut instead
    rw [List.isEmpty_iff.1 empty] at length
    have others : eligible .pinnedRepos d p =
        (p.github.elim [] (·.pinnedRepos)).map .repository := if_pos length.symm
    rw [shownOf_flatMap _ others, ← cut]
    refine (shows_mapM (h := fun r => look .pinnedRepos d c p (.repository r))
      (fun r => makes_element _) _).bind fun cards same => ?_
    rw [← same]
    exact shows_gathered (makes_stack _ cards)
  next filled =>
    have own : eligible .pinnedRepos d p = d.repos.map .named := by
      refine if_neg fun none => filled ?_
      rw [none] at length
      exact List.isEmpty_iff.2 (List.length_eq_zero_iff.1 length)
    rw [shownOf_flatMap _ own, ← cut, List.flatMap_def, ← same, ← Block.exhibitsAll_eq]
    exact (makes_pure rfl).bind fun cards same => same ▸ shows_gathered (makes_stack _ named)

/-- The builder of any kind of section with a limit. -/
theorem build_limited {k : SectionKind} {n : Int} {d : k.Data} {c : k.Config}
    (limited : limit? k d c = some n) (p : Profile) :
    Shows (build k d c p) ((shownOf k n d p).flatMap (look k d c p)) := by
  cases k with
  | blogPosts =>
    cases limited
    exact blogPosts_limited d c p
  | pinnedRepos =>
    cases limited
    exact pinnedRepos_limited d c p
  | projects => exact projects_limited limited p
  | _ => cases limited

/-! ## Sections -/

/-- The one thing that keeps such a section from being built is that there is no account. -/
theorem hindrance_of_limited {s : Section} {n : Int}
    (limited : limit? s.kind s.data s.config = some n) (p : Profile) (f : Failure) :
    hindrance s.kind s.data p = some f ↔ f = .noAccount ∧ WithoutAccount p s := by
  have others : codingAccountOf? s = none ∧ cleanedMarkup? s = none := by
    rcases s with ⟨id, kind, enabled, order, title, data, config⟩
    cases kind <;> first | exact ⟨rfl, rfl⟩ | cases limited
  rw [hindrance_eq_some_iff, WithoutCodingAccount, others.1, others.2]
  simp

/-- A section with a limit shows the start of the list that it may show, as much of it as the limit
leaves room for. What it shows is within the limit, with nothing shown under a negative one, exactly
if the limit bounds what is shown or the list is no longer than the limit has units. Pinned
repositories are those of an account; without one nothing is built. -/
theorem limited_built {s : Section} {n : Int} (limited : limit? s.kind s.data s.config = some n)
    (p : Profile) :
    (WithoutAccount p s ∧ Registry.usual.build s p = .error .noAccount) ∨
    (¬WithoutAccount p s ∧ ∃ blocks shown, Registry.usual.build s p = .ok blocks ∧
      Block.exhibitsAll blocks = shown.flatMap (look s.kind s.data s.config p) ∧
      shown <+: eligible s.kind s.data p ∧
      shown.length = room s.kind n (eligible s.kind s.data p).length ∧
      ((shown.length : Int) ≤ max n 0 ↔
        Bounds s.kind n ∨ (eligible s.kind s.data p).length ≤ n.natAbs)) := by
  have fails := hindrance_of_limited limited p
  by_cases without : WithoutAccount p s
  · exact .inl ⟨without, build_eq_error_iff.2 ((fails .noAccount).2 ⟨rfl, without⟩)⟩
  · have free : hindrance s.kind s.data p = none :=
      Option.eq_none_iff_forall_ne_some.2 fun f failed => without ((fails f).1 failed).2
    obtain ⟨blocks, built, same⟩ := built_makes free (build_limited limited p)
    have length : (shownOf s.kind n s.data p).length =
        room s.kind n (eligible s.kind s.data p).length := by
      rw [shownOf, List.length_take, Nat.min_eq_left (room_le ..)]
    refine .inr ⟨without, blocks, _, built, same, List.take_prefix .., length, ?_⟩
    rw [length]
    exact room_le_limit_iff ..

/-- Pinned repositories without names of their own, and a profile that knows three. -/
def topRepos : Section :=
  { id := "pins", kind := .pinnedRepos, data := { maxRepos := 2 }, config := {} }

def pinningProfile : Profile :=
  { githubUsername := "octocat",
    github := some
      { login := "octocat",
        pinnedRepos := [{ name := "one", stars := 3 }, { name := "two" }, { name := "three" }] } }

theorem topRepos_limited : limit? topRepos.kind topRepos.data topRepos.config = some 2 ∧
    ∃ blocks, Registry.usual.build topRepos pinningProfile = .ok blocks ∧
      Block.exhibitsAll blocks =
        [.element (.projectCard { name := "one", stars := some 3, forks := some 0 }),
          .element (.projectCard { name := "two", stars := some 0, forks := some 0 })] := by
  refine ⟨rfl, ?_⟩
  rcases limited_built (s := topRepos) (n := 2) rfl pinningProfile with
    ⟨without, -⟩ | ⟨-, blocks, shown, built, same, first, length, -⟩
  · exact absurd without.2 (by decide)
  · refine ⟨blocks, built, ?_⟩
    rw [same, List.prefix_iff_eq_take.1 first, length]
    rfl

/-- Two posts, of which the last is taken off by the limit. -/
def backlog : Section :=
  { id := "blog", kind := .blogPosts, config := {},
    data :=
      { items := [{ title := "One", url := "https://one.example" },
          { title := "Two", url := "https://two.example" }],
        maxPosts := -1 } }

/-- A project under a limit of none. -/
def soleWork : Section :=
  { id := "work", kind := .projects, data := { items := [{ name := "One" }] },
    config := { maxProjects := some 0 } }

/-- Something is shown under a negative limit, and a project under a limit of zero. -/
theorem limits_exceeded :
    (∃ blocks, Registry.usual.build backlog {} = .ok blocks ∧ Block.exhibitsAll blocks =
      [.element (.link { href := "https://one.example", label := "One" })]) ∧
    ∃ blocks, Registry.usual.build soleWork {} = .ok blocks ∧
      Block.exhibitsAll blocks = [.element (.projectCard { name := "One" })] :=
  ⟨⟨_, rfl, rfl⟩, ⟨_, rfl, rfl⟩⟩

end Render

end ProfileReadme
