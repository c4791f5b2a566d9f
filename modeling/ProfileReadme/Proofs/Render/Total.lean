/-
When the usual builder of a section makes blocks, and which: it does unless the section lacks an
account that it cannot do without, or has markup that the reader of markup rejects, and then every
block is as its kind allows.
-/
import ProfileReadme.Proofs.Block.Shapes
import ProfileReadme.Proofs.Render.Foreseen

namespace ProfileReadme.Render

/-! ## Sections that cannot be built -/

/-- The account that a section of coding times names. -/
def codingAccountOf? (s : Section) : Option String :=
  match s with
  | { kind := .wakatime, data, .. } => some data.username
  | _ => none

/-- The markup of a section that shows it cleaned. -/
def cleanedMarkup? (s : Section) : Option String :=
  match s with
  | { kind := .customHtml, data, .. } => if data.sanitize then some data.html else none
  | _ => none

/-- The section needs a GitHub account, and neither it nor the profile names one. -/
def WithoutAccount (p : Profile) (s : Section) : Prop :=
  accountOf? s = some "" ∧ p.githubUsername = ""

/-- The section is one of coding times, and neither it nor the profile names an account. -/
def WithoutCodingAccount (p : Profile) (s : Section) : Prop :=
  codingAccountOf? s = some "" ∧ p.integrations.wakatime.username.getD "" = ""

/-- The section has markup to clean that the reader of markup rejects. -/
def WithBadMarkup (s : Section) : Prop :=
  ∃ html ∈ cleanedMarkup? s, ∃ r, Markup.sanitize html = .error r

variable {p : Profile} {s : Section} {f : Failure}

theorem missing_eq_some_iff {named fallback : String} {fault : Failure} :
    missing named fallback fault = some f ↔ f = fault ∧ named = "" ∧ fallback = "" := by
  unfold missing
  rw [Option.ite_none_right_eq_some, Option.some.injEq, and_comm, eq_comm]

theorem rejected_eq_some_iff {html : String} :
    rejected html = some f ↔ ∃ r, f = .markup r ∧ Markup.sanitize html = .error r := by
  unfold rejected
  cases Markup.sanitize html with
  | ok s => simp
  | error r => simp [eq_comm]

/-- A builder fails in one of three ways. -/
theorem hindrance_eq_some_iff : hindrance s.kind s.data p = some f ↔
    (f = .noAccount ∧ WithoutAccount p s) ∨ (f = .noCodingAccount ∧ WithoutCodingAccount p s) ∨
      ∃ r, f = .markup r ∧ ∃ html ∈ cleanedMarkup? s, Markup.sanitize html = .error r := by
  unfold WithoutAccount WithoutCodingAccount
  rcases s with ⟨id, kind, enabled, order, title, data, config⟩
  cases kind with
  | githubStats | contributions | pinnedRepos | wakatime =>
    simp [hindrance, missing_eq_some_iff, accountOf?, codingAccountOf?, cleanedMarkup?]
  | customHtml =>
    simp [hindrance, rejected_eq_some_iff, accountOf?, codingAccountOf?, cleanedMarkup?,
      and_left_comm]
  | _ => simp [hindrance, accountOf?, codingAccountOf?, cleanedMarkup?]

theorem build_eq_error_iff : Registry.usual.build s p = .error f ↔
    hindrance s.kind s.data p = some f := by
  rw [← fault?_eq]
  unfold fault?
  cases Registry.usual.build s p with
  | ok blocks => exact iff_of_false nofun nofun
  | error f' => rw [Except.error.injEq, Option.some.injEq]

/-! ## All sections -/

/-- A section fails with the code for a missing account exactly if it needs a GitHub account that
neither it nor the profile names, and with the code for a section that could not be rendered exactly
if the same holds of an account of coding times, or if its markup is rejected. In every other case
its builder makes blocks, and all of these, however deep they are nested, are as their kinds
allow. -/
theorem usual_total (s : Section) (p : Profile) :
    ((∃ f, Registry.usual.build s p = .error f ∧
        (f.report s.id s.kind).code = .githubUsernameRequired) ↔ WithoutAccount p s) ∧
    ((∃ f, Registry.usual.build s p = .error f ∧
        (f.report s.id s.kind).code = .sectionRenderFailed) ↔
      WithoutCodingAccount p s ∨ WithBadMarkup s) ∧
    (WithoutAccount p s ∨ WithoutCodingAccount p s ∨ WithBadMarkup s ∨
      ∃ blocks, Registry.usual.build s p = .ok blocks ∧
        ∀ b ∈ Block.walkAll blocks, b.Admitted) := by
  have fails (f : Failure) := (build_eq_error_iff (p := p) (s := s) (f := f)).trans
    hindrance_eq_some_iff
  refine ⟨⟨?_, fun without => ?_⟩, ⟨?_, ?_⟩, ?_⟩
  · rintro ⟨f, failed, code⟩
    rcases (fails f).1 failed with ⟨-, without⟩ | ⟨rfl, -⟩ | ⟨r, rfl, -⟩
    · exact without
    · cases code
    · cases code
  · exact ⟨.noAccount, (fails _).2 (.inl ⟨rfl, without⟩), rfl⟩
  · rintro ⟨f, failed, code⟩
    rcases (fails f).1 failed with ⟨rfl, -⟩ | ⟨-, without⟩ | ⟨r, -, html, shown, rejected⟩
    · cases code
    · exact .inl without
    · exact .inr ⟨html, shown, r, rejected⟩
  · rintro (without | ⟨html, shown, r, rejected⟩)
    · exact ⟨.noCodingAccount, (fails _).2 (.inr (.inl ⟨rfl, without⟩)), rfl⟩
    · exact ⟨.markup r, (fails _).2 (.inr (.inr ⟨r, rfl, html, shown, rejected⟩)), rfl⟩
  · cases built : Registry.usual.build s p with
    | error f =>
      rcases (fails f).1 built with ⟨-, without⟩ | ⟨-, without⟩ | ⟨r, -, html, shown, rejected⟩
      · exact .inl without
      · exact .inr (.inl without)
      · exact .inr (.inr (.inl ⟨html, shown, r, rejected⟩))
    | ok blocks =>
      refine .inr (.inr (.inr ⟨blocks, rfl, fun b hb => ?_⟩))
      rw [usual_build] at built
      rw [Block.walkAll_eq_flatMap] at hb
      obtain ⟨top, htop, hb⟩ := List.mem_flatMap.1 hb
      exact standard_kept Block.admitted_keptUp built top htop b hb

end ProfileReadme.Render
