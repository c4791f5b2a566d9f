/-
Texts bound to a profile: the placeholders are replaced one kind after the other, so a name or an
account that completes a placeholder replaced after it is looked at again. Exactly the profiles
without such values bind every text as one walk does, in which what is put in stays as it is; no
text that is bound holds the placeholder for the years.
-/
import ProfileReadme.Render.Binding
import ProfileReadme.Proofs.Text.Substitution
import ProfileReadme.Proofs.Value.JsonText

namespace ProfileReadme

open Text

namespace Profile

def nameMark : List Char := "\x7bname\x7d".toList

def usernameMark : List Char := "\x7busername\x7d".toList

def yearsMark : List Char := "\x7byears\x7d".toList

/-- The years of experience as texts show them. -/
def shownYears (p : Profile) : String :=
  match p.professional.yearsOfExperience with
  | some n => toString n
  | none => "X"

/-- The placeholders with what a profile has for them. -/
def placeholders (p : Profile) : List (List Char × List Char) :=
  [(nameMark, p.shownName.toList), (usernameMark, p.githubUsername.toList),
    (yearsMark, p.shownYears.toList)]

/-- The placeholders of a text replaced all at once: what is put in is not looked at. -/
def bindAtOnce (p : Profile) (s : String) : String :=
  String.ofList (substitute p.placeholders s.toList)

theorem isMark_name : IsMark nameMark := ⟨"name".toList, by decide⟩

theorem isMark_username : IsMark usernameMark := ⟨"username".toList, by decide⟩

theorem isMark_years : IsMark yearsMark := ⟨"years".toList, by decide⟩

variable (p : Profile)

theorem bind_toList (s : String) : (p.bind s).toList =
    substitute [(yearsMark, p.shownYears.toList)]
      (substitute [(usernameMark, p.githubUsername.toList)]
        (substitute [(nameMark, p.shownName.toList)] s.toList)) := by
  unfold bind
  rw [replace_toList _ _ (by decide), replace_toList _ _ (by decide), replace_toList _ _ (by decide)]
  rfl

theorem bindAtOnce_toList (s : String) :
    (p.bindAtOnce s).toList = substitute p.placeholders s.toList :=
  String.toList_ofList

/-- Years are written without the characters of their placeholder. -/
theorem years_not_completed : ¬ Completes yearsMark p.shownYears.toList := by
  unfold shownYears
  cases p.professional.yearsOfExperience with
  | none => decide
  | some n =>
    refine not_completes_of_foreign (by decide) ?_ fun c hc => ?_
    · rw [Json.intText_toList]
      exact List.append_ne_nil_of_right_ne_nil _ (Decimal.digitChars_ne_nil _)
    · intro mem
      have foreign : yearsMark.all (fun d => !(d = '-' || d.isDigit)) = true := by decide
      have apart := List.all_eq_true.1 foreign c mem
      rcases Json.mem_intText hc with minus | digit
      · simp [minus] at apart
      · simp [digit] at apart

/-- The placeholder for the years is in no text that is bound, whatever the other values hold. -/
theorem bind_no_years (s : String) : ¬ yearsMark <:+: (p.bind s).toList := by
  intro occurs
  rw [bind_toList] at occurs
  have kept : ∀ e ∈ [(yearsMark, p.shownYears.toList)], ¬ Completes yearsMark e.2 := by
    simpa using p.years_not_completed
  have gone := (infix_of_substitute (isMark_years.single _) kept isMark_years.ne_nil _ occurs).2
  exact gone _ (List.mem_singleton_self _) rfl

theorem placeholders_isMark : ∀ e ∈ p.placeholders, IsMark e.1 := by
  simp [placeholders, isMark_name, isMark_username, isMark_years]

/-- Replacing one kind after the other is one walk when no value completes a placeholder replaced
after it; an account that is its own placeholder changes nothing where it is put in. -/
theorem bind_eq_bindAtOnce
    (name : ¬ Completes yearsMark p.shownName.toList)
    (username : ¬ Completes yearsMark p.githubUsername.toList)
    (later : ¬ Completes usernameMark p.shownName.toList ∨
      p.githubUsername.toList = usernameMark) (s : String) : p.bind s = p.bindAtOnce s := by
  have apart : nameMark ≠ usernameMark ∧ nameMark ≠ yearsMark ∧ usernameMark ≠ yearsMark := by
    decide
  have first := isMark_name.single p.shownName.toList
  rw [← String.toList_inj, bind_toList, bindAtOnce_toList]
  rcases later with free | idle
  · have both : ∀ e ∈ [(nameMark, p.shownName.toList)] ++
        [(usernameMark, p.githubUsername.toList)], IsMark e.1 := by
      simp [isMark_name, isMark_username]
    rw [substitute_substitute first (by simpa using free) isMark_username (by simp [apart]),
      substitute_substitute both (by simp [name, username]) isMark_years (by simp [apart])]
    rfl
  · have twice : ∀ e ∈ [(nameMark, p.shownName.toList)] ++ [(yearsMark, p.shownYears.toList)],
        IsMark e.1 := by
      simp [isMark_name, isMark_years]
    rw [idle, substitute_self isMark_username, substitute_substitute first (by simpa using name)
      isMark_years (by simp [apart]), ← substitute_idle isMark_username twice (by simp [apart.1,
        apart.2.2.symm]), placeholders, idle]
    rfl

example : ¬ Completes usernameMark "Mona Lisa".toList := by decide

theorem entryAt_name (rest : List Char) :
    entryAt p.placeholders (nameMark ++ rest) = some (nameMark, p.shownName.toList) := rfl

theorem entryAt_username (rest : List Char) :
    entryAt p.placeholders (usernameMark ++ rest) =
      some (usernameMark, p.githubUsername.toList) := rfl

/-- What a placeholder becomes between two parts of another mark. -/
theorem bindAtOnce_between {mark value around front back : List Char}
    (entry : entryAt p.placeholders (mark ++ back) = some (mark, value)) (ha : IsMark around)
    (hf : front ∈ around.inits) (hb : back ∈ around.tails) (nf : front ≠ around)
    (nb : back ≠ around) :
    (p.bindAtOnce (String.ofList (front ++ mark ++ back))).toList = front ++ value ++ back := by
  have isMark := p.placeholders_isMark _ (entryAt_eq_some entry).1
  rw [bindAtOnce_toList, String.toList_ofList]
  exact substitute_between p.placeholders_isMark isMark ha hf hb nf nb entry

/-- A profile that binds every text in one walk has no value that completes the placeholder for the
years: between what stands around it, the placeholder of that value would leave one behind. -/
theorem years_apart (same : ∀ s, p.bind s = p.bindAtOnce s) {mark value : List Char}
    (entry : ∀ rest, entryAt p.placeholders (mark ++ rest) = some (mark, value)) :
    ¬ Completes yearsMark value := by
  rintro ⟨front, hf, back, hb, nf, nb, occurs⟩
  refine p.bind_no_years (String.ofList (front ++ mark ++ back)) ?_
  rw [same, bindAtOnce_between p (entry back) isMark_years hf hb nf nb]
  exact occurs

/-- Nor has it a name that completes the placeholder for the account, which would be replaced, and
by another text, in the second round. -/
theorem username_apart (same : ∀ s, p.bind s = p.bindAtOnce s)
    (ne : p.githubUsername.toList ≠ usernameMark) :
    ¬ Completes usernameMark p.shownName.toList := by
  rintro ⟨front, hf, back, hb, nf, nb, occurs⟩
  have username : ∀ e ∈ [(usernameMark, p.githubUsername.toList)], ¬ Completes yearsMark e.2 := by
    simpa using p.years_apart same p.entryAt_username
  have once := bindAtOnce_between p (p.entryAt_name back) isMark_username hf hb nf nb
  have first := substitute_between (isMark_name.single p.shownName.toList) isMark_name
    isMark_username hf hb nf nb entryAt_single
  have rounds := p.bind_toList (String.ofList (front ++ nameMark ++ back))
  rw [same, once, String.toList_ofList, first] at rounds
  -- no years are in what the first round makes, and the second brings none, so the third is idle
  have clear : ¬ yearsMark <:+: substitute [(usernameMark, p.githubUsername.toList)]
      (front ++ p.shownName.toList ++ back) := by
    intro years
    have before := (infix_of_substitute (isMark_username.single _) username isMark_years.ne_nil _
      years).1
    rw [← once, ← same] at before
    exact p.bind_no_years _ before
  rw [substitute_of_absent clear] at rounds
  exact substitute_ne isMark_username ne occurs rounds.symm

/-- A bound text never holds the placeholder for the years, and exactly the profiles whose name and
account complete no placeholder replaced after them bind every text in one walk. An account that
is the text of its own placeholder does no harm, for the second round changes nothing then. -/
theorem bound_at_once_iff (p : Profile) :
    (∀ s, ¬ yearsMark <:+: (p.bind s).toList) ∧
      ((∀ s, p.bind s = p.bindAtOnce s) ↔
        ¬ Completes yearsMark p.shownName.toList ∧
        ¬ Completes yearsMark p.githubUsername.toList ∧
        (¬ Completes usernameMark p.shownName.toList ∨ p.githubUsername.toList = usernameMark)) := by
  refine ⟨p.bind_no_years, ?_, ?_⟩
  · intro same
    refine ⟨p.years_apart same p.entryAt_name, p.years_apart same p.entryAt_username, ?_⟩
    by_cases own : p.githubUsername.toList = usernameMark
    · exact .inr own
    · exact .inl (p.username_apart same own)
  · rintro ⟨name, username, later⟩
    exact p.bind_eq_bindAtOnce name username later

/-- A profile whose display name is the placeholder for the account. -/
def echo : Profile where
  githubUsername := "octocat"
  personal := { displayName := some "\x7busername\x7d" }

/-- Braces that come from a profile are replaced again, and so are braces of the text that a value
brings together, also one without braces. -/
theorem bound_again :
    (echo.bind "\x7bname\x7d" = "octocat" ∧
      echo.bindAtOnce "\x7bname\x7d" = "\x7busername\x7d") ∧
    (({} : Profile).bind "\x7buser\x7bname\x7dname\x7d" = "" ∧
      ({} : Profile).bindAtOnce "\x7buser\x7bname\x7dname\x7d" = "\x7busername\x7d") := by
  decide

end Profile

end ProfileReadme
