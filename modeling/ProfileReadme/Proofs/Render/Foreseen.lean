/-
What the warnings of a validation foresee of a render that goes on after errors. They tell the
sections that lack a GitHub account, each once, in the places that the sections have in the
template, and the render leaves out every one of them. Content that the reader of markup rejects
shows only when it is built.
-/
import ProfileReadme.Proofs.Render.Failing

namespace ProfileReadme.Render

/-- Why the usual builder of a section fails, if it does. -/
def fault? (p : Profile) (s : Section) : Option Failure :=
  match Registry.usual.build s p with
  | .ok _ => none
  | .error f => some f

/-- Whether a section that is enabled is left out because its builder fails. -/
def dropped (p : Profile) (s : Section) : Bool := s.enabled && (fault? p s).isSome

def Failure.isNoAccount : Failure → Bool
  | .noAccount => true
  | _ => false

def Failure.isMarkup : Failure → Bool
  | .markup _ => true
  | _ => false

/-- The warning that a section is going to be left out. -/
def skipWarning (s : Section) : String :=
  "Section '" ++ s.id ++ "' (" ++ Named.name s.kind
    ++ ") needs a GitHub username and will be skipped"

/-! ## The faults of the usual builders -/

theorem fault?_eq (p : Profile) (s : Section) : fault? p s = hindrance s.kind s.data p := by
  have ends := build_ends s.kind s.data s.config p
  unfold fault?
  rw [usual_build, standard]
  cases h : hindrance s.kind s.data p with
  | none =>
    rw [h] at ends
    obtain ⟨blocks, n, hrun⟩ := ends { scope := s.id }
    rw [hrun]
    rfl
  | some f =>
    rw [h] at ends
    rw [ends { scope := s.id }]
    rfl

theorem missing_eq_some {named fallback : String} {fault f : Failure}
    (h : missing named fallback fault = some f) : f = fault := by
  unfold missing at h
  split at h
  · exact (Option.some.inj h).symm
  · cases h

theorem rejected_isMarkup {html : String} {f : Failure} (h : rejected html = some f) :
    f.isMarkup = true := by
  unfold rejected at h
  split at h
  · cases h
  · cases h
    rfl

/-- A fault is a GitHub account that is missing, the account of a section of coding times, or markup
that was rejected. -/
theorem fault?_cases {p : Profile} {s : Section} {f : Failure} (h : fault? p s = some f) :
    f = .noAccount ∨ (f = .noCodingAccount ∧ s.kind = .wakatime) ∨ f.isMarkup = true := by
  rw [fault?_eq] at h
  rcases s with ⟨id, kind, enabled, order, title, data, config⟩
  cases kind with
  | githubStats | contributions | pinnedRepos => exact .inl (missing_eq_some h)
  | wakatime => exact .inr (.inl ⟨missing_eq_some h, rfl⟩)
  | customHtml =>
    simp only [hindrance] at h
    split at h
    · exact .inr (.inr (rejected_isMarkup h))
    · cases h
  | _ => cases h

/-! ## The sections that are warned of -/

/-- Whether a section that is enabled has no GitHub account to show. -/
def lacksAccount (p : Profile) (s : Section) : Bool :=
  s.enabled && (fault? p s).any Failure.isNoAccount

theorem any_missing (named fallback : String) :
    (missing named fallback .noAccount).any Failure.isNoAccount =
      (named.isEmpty && fallback.isEmpty) := by
  unfold missing
  by_cases hn : named = "" <;> by_cases hf : fallback = "" <;>
    simp [hn, hf, Failure.isNoAccount]

theorem any_rejected (html : String) : (rejected html).any Failure.isNoAccount = false := by
  unfold rejected
  cases Markup.sanitize html <;> rfl

/-- The table of kinds that need an account agrees with their builders. -/
theorem profileWarning?_eq (p : Profile) (s : Section) :
    profileWarning? p s = if lacksAccount p s then some (skipWarning s) else none := by
  unfold lacksAccount
  rw [fault?_eq]
  rcases s with ⟨id, kind, enabled, order, title, data, config⟩
  cases kind with
  | githubStats | contributions | pinnedRepos =>
    simp only [hindrance, any_missing, profileWarning?, accountOf?, Bool.and_assoc, skipWarning]
  | wakatime =>
    simp only [hindrance, missing, profileWarning?, accountOf?]
    split <;> simp [Failure.isNoAccount]
  | customHtml =>
    simp only [hindrance, profileWarning?, accountOf?]
    split <;> simp [any_rejected]
  | _ => simp [hindrance, profileWarning?, accountOf?]

theorem warnings_eq (t : Template) (p : Profile) :
    (validate t p).warnings = (t.sections.filter (lacksAccount p)).map skipWarning := by
  show t.sections.filterMap (profileWarning? p) = _
  rw [← List.filterMap_eq_map, List.filterMap_filter]
  exact List.filterMap_congr fun s _ => profileWarning?_eq p s

theorem dropped_of_lacksAccount {p : Profile} {s : Section} (h : lacksAccount p s = true) :
    dropped p s = true := by
  unfold lacksAccount at h
  unfold dropped
  cases hf : fault? p s with
  | none => simp [hf] at h
  | some f => simpa using (Bool.and_eq_true_iff.1 h).1

/-- Apart from sections of coding times, a section is warned of if it is left out for anything but
its markup. -/
theorem lacksAccount_iff_dropped (p : Profile) {s : Section} (other : s.kind ≠ .wakatime) :
    lacksAccount p s = (dropped p s && !(fault? p s).any Failure.isMarkup) := by
  unfold lacksAccount dropped
  cases hf : fault? p s with
  | none => simp
  | some f =>
    rcases fault?_cases hf with rfl | ⟨-, hk⟩ | hm
    · simp [Failure.isNoAccount, Failure.isMarkup]
    · exact absurd hk other
    · cases f with
      | markup r => simp [Failure.isNoAccount, Failure.isMarkup]
      | _ => cases hm

/-! ## The sections that are left out -/

theorem map_filter_eq_flatMap {α β : Type} (q : α → Bool) (f : α → β) :
    ∀ l : List α, (l.filter q).map f = l.flatMap fun a => if q a then [f a] else []
  | [] => rfl
  | a :: l => by
    rw [List.flatMap_cons, ← map_filter_eq_flatMap q f l]
    by_cases ha : q a = true <;> simp [ha]

theorem stepsOf_ids (p : Profile) (ss : List Section) :
    (stepsOf (Registry.usual.build · p) ss).sections.map (·.id) =
      (ss.filter fun s => s.enabled && !dropped p s).map (·.id) := by
  rw [map_filter_eq_flatMap, stepsOf_flatMap _ (fun q => q.sections.map (·.id)) rfl
    fun _ _ => List.map_append]
  refine List.flatMap_congr fun s _ => ?_
  rcases stepOf_cases (Registry.usual.build · p) s with
    ⟨he, h⟩ | ⟨blocks, he, hb, h⟩ | ⟨f, he, hb, h⟩ <;> rw [h]
  · simp [he, Progress.skip]
  · simp [he, dropped, fault?, hb, Progress.add, rendition]
  · simp [he, dropped, fault?, hb, Progress.fail]

/-- The usual builders blame no other section than their own. -/
theorem stepsOf_sectionIds (p : Profile) (ss : List Section) :
    (stepsOf (Registry.usual.build · p) ss).errors.map (·.sectionId) =
      (ss.filter (dropped p)).map (some ·.id) := by
  rw [map_filter_eq_flatMap, stepsOf_flatMap _ (fun q => q.errors.map (·.sectionId)) rfl
    fun _ _ => List.map_append]
  refine List.flatMap_congr fun s _ => ?_
  rcases stepOf_cases (Registry.usual.build · p) s with
    ⟨he, h⟩ | ⟨blocks, he, hb, h⟩ | ⟨f, he, hb, h⟩ <;> rw [h]
  · simp [he, dropped, Progress.skip]
  · simp [dropped, fault?, hb, Progress.add]
  · have hf : fault? p s = some f := by simp [fault?, hb]
    have own : (f.report s.id s.kind).sectionId = some s.id := by
      rcases fault?_cases hf with rfl | ⟨rfl, -⟩ | hm
      · rfl
      · rfl
      · cases f with
        | markup r => rfl
        | _ => cases hm
    simp [he, dropped, hf, Progress.fail, own]

/-- A render that goes on after errors shows the enabled sections that it does not drop. The
warnings of a validation name sections that it drops, each once, as they stand in the template, and
none that it shows. Leaving aside sections of coding times, these are all the sections that it
drops, but for content whose markup is rejected. -/
theorem validate_foresees (t : Template) (p : Profile) (theme : Option ColorScheme)
    (locale : String) :
    let result :=
      render .usual t p { theme, locale, skipValidation := true, continueOnError := true }
    result.success = true ∧
      result.shown.map (·.id) =
        (t.displayed.filter fun s => s.enabled && !dropped p s).map (·.id) ∧
      result.errors.map (·.sectionId) = (t.displayed.filter (dropped p)).map (some ·.id) ∧
      ∃ warned : List Section, warned.Sublist t.sections ∧
        (validate t p).warnings = warned.map skipWarning ∧
        (∀ s ∈ warned, dropped p s = true) ∧
        warned.filter (·.kind ≠ .wakatime) =
          (t.sections.filter fun s => dropped p s && !(fault? p s).any Failure.isMarkup).filter
            (·.kind ≠ .wakatime) := by
  dsimp only
  rw [render_lenient .usual t p _ rfl (.inl rfl)]
  refine ⟨rfl, stepsOf_ids p t.displayed, stepsOf_sectionIds p t.displayed,
    t.sections.filter (lacksAccount p), List.filter_sublist, warnings_eq t p, fun s hs => ?_, ?_⟩
  · exact dropped_of_lacksAccount (List.mem_filter.1 hs).2
  · rw [List.filter_filter, List.filter_filter]
    refine List.filter_congr fun s _ => ?_
    -- sections of coding times are on neither side
    by_cases other : s.kind = .wakatime
    · simp [other]
    · rw [lacksAccount_iff_dropped p other]

/-- A section with a marked section of an unknown kind, which the reader of markup rejects. -/
def oddMarkup : Section :=
  { id := "odd", kind := .customHtml, data := { html := "<![zz]>" }, config := {} }

def oddTemplate : Template :=
  { metadata := { id := "t", name := "T" }, capabilities := { supportedSections := [.customHtml] },
    sections := [oddMarkup] }

/-- The section is left out and nothing tells so beforehand. -/
theorem oddMarkup_unforeseen :
    (render .usual oddTemplate {} { skipValidation := true }).errors.map (·.sectionId) =
        [some "odd"] ∧
      (render .usual oddTemplate {} { skipValidation := true }).shown.map (·.id) = [] ∧
      (validate oddTemplate {}).warnings = [] := by
  have dropped : dropped {} oddMarkup = true := by decide +kernel
  have displayed : oddTemplate.displayed = [oddMarkup] := List.mergeSort_singleton oddMarkup
  rw [render_lenient .usual oddTemplate {} _ rfl (.inl rfl), displayed]
  refine ⟨?_, ?_, rfl⟩
  · show (stepsOf _ _).errors.map _ = _
    rw [stepsOf_sectionIds, List.filter_singleton, dropped]
    rfl
  · show (stepsOf _ _).sections.map _ = _
    rw [stepsOf_ids, List.filter_singleton, dropped]
    rfl

end ProfileReadme.Render
