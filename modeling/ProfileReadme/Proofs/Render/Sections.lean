/-
Rendering section by section: a render that goes on after errors is put together from renders of
its sections one at a time, in display order. No section sees another one, so what one builder
does has no effect on the rest of the page.
-/
import ProfileReadme.Proofs.Template.Order
import ProfileReadme.Render.Pipeline
import Mathlib.Data.List.Basic

namespace ProfileReadme.Render

/-! ## Progress adds up -/

namespace Progress

instance : Append Progress where
  append p q :=
    { sections := p.sections ++ q.sections, errors := p.errors ++ q.errors,
      warnings := p.warnings ++ q.warnings, skipped := p.skipped + q.skipped,
      events := p.events ++ q.events }

theorem append_def (p q : Progress) :
    p ++ q =
      { sections := p.sections ++ q.sections, errors := p.errors ++ q.errors,
        warnings := p.warnings ++ q.warnings, skipped := p.skipped + q.skipped,
        events := p.events ++ q.events } := rfl

@[simp] theorem append_empty (p : Progress) : p ++ ({} : Progress) = p := by
  simp [append_def]

@[simp] theorem empty_append (p : Progress) : ({} : Progress) ++ p = p := by
  simp [append_def]

theorem append_assoc (p q r : Progress) : p ++ q ++ r = p ++ (q ++ r) := by
  simp [append_def, Nat.add_assoc]

theorem skip_eq_append (p : Progress) : p.skip = p ++ ({} : Progress).skip := by
  simp [append_def, skip]

theorem add_eq_append (p : Progress) (s : RenderedSection) :
    p.add s = p ++ ({} : Progress).add s := by
  simp [append_def, add]

theorem fail_eq_append (p : Progress) (id : String) (e : Error) :
    p.fail id e = p ++ ({} : Progress).fail id e := by
  simp [append_def, fail]

end Progress

section Lenient

variable (build : Section → Except Failure (List Block))

/-- What a section makes of its blocks. -/
def rendition (s : Section) (blocks : List Block) : RenderedSection :=
  { id := s.id, type := Named.name s.kind, title := s.title, order := s.order, blocks }

/-- What one section adds to a render that goes on after errors. -/
def stepOf (s : Section) : Progress :=
  if s.enabled then
    match build s with
    | .ok blocks => ({} : Progress).add (rendition s blocks)
    | .error f => ({} : Progress).fail s.id (f.report s.id s.kind)
  else ({} : Progress).skip

/-- What some sections add, one after the other. -/
def stepsOf : List Section → Progress
  | [] => {}
  | s :: rest => stepOf build s ++ stepsOf rest

/-- A section is left out for being disabled, or rendered, or left out for an error. -/
theorem stepOf_cases (s : Section) :
    (s.enabled = false ∧ stepOf build s = ({} : Progress).skip) ∨
    (∃ blocks, s.enabled = true ∧ build s = .ok blocks ∧
      stepOf build s = ({} : Progress).add (rendition s blocks)) ∨
    (∃ f, s.enabled = true ∧ build s = .error f ∧
      stepOf build s = ({} : Progress).fail s.id (f.report s.id s.kind)) := by
  unfold stepOf
  cases he : s.enabled with
  | false => exact .inl ⟨rfl, rfl⟩
  | true =>
    cases build s with
    | ok blocks => exact .inr (.inl ⟨blocks, rfl, rfl, rfl⟩)
    | error f => exact .inr (.inr ⟨f, rfl, rfl, rfl⟩)

theorem renderAll_cons (p : Progress) (s : Section) (rest : List Section) :
    renderAll build true p (s :: rest) = renderAll build true (p ++ stepOf build s) rest := by
  rcases stepOf_cases build s with ⟨he, h⟩ | ⟨blocks, he, hb, h⟩ | ⟨f, he, hb, h⟩
  · simp only [renderAll, he, h, Bool.false_eq_true, if_false, ← Progress.skip_eq_append]
  · simp only [renderAll, he, hb, h, if_true, ← Progress.add_eq_append, rendition]
  · simp only [renderAll, he, hb, h, if_true, ← Progress.fail_eq_append]

/-- A render that stops has no output. -/
theorem renderAll_stopped {c : Bool} : ∀ {ss : List Section} {p : Progress} {stopped : Result},
    renderAll build c p ss = .inl stopped → stopped.output = none
  | [], p, stopped, h => by cases h
  | s :: rest, p, stopped, h => by
    rw [renderAll] at h
    split at h
    · split at h
      · exact renderAll_stopped h
      · dsimp only at h
        split at h
        · exact renderAll_stopped h
        · cases h
          rfl
    · exact renderAll_stopped h

/-- A render that goes on after errors never stops, and adds what its sections add. -/
theorem renderAll_lenient : ∀ (ss : List Section) (p : Progress),
    renderAll build true p ss = .inr (p ++ stepsOf build ss)
  | [], p => by rw [stepsOf, Progress.append_empty]; rfl
  | s :: rest, p => by
    rw [renderAll_cons, renderAll_lenient rest, stepsOf, Progress.append_assoc]

/-- Any render that gets to the end adds what its sections add. -/
theorem renderAll_finished {c : Bool} : ∀ {ss : List Section} {p p' : Progress},
    renderAll build c p ss = .inr p' → p' = p ++ stepsOf build ss
  | [], p, p', h => by
    cases h
    rw [stepsOf, Progress.append_empty]
  | s :: rest, p, p', h => by
    have step : renderAll build c (p ++ stepOf build s) rest = .inr p' := by
      rcases stepOf_cases build s with ⟨he, hs⟩ | ⟨blocks, he, hb, hs⟩ | ⟨f, he, hb, hs⟩
      · rw [hs, ← Progress.skip_eq_append]
        simpa only [renderAll, he, Bool.false_eq_true, if_false] using h
      · rw [hs, ← Progress.add_eq_append]
        simpa only [renderAll, he, hb, if_true, rendition] using h
      · rw [hs, ← Progress.fail_eq_append]
        cases c with
        | true => simpa only [renderAll, he, hb, if_true] using h
        -- a render that stops at errors has not come to its end
        | false =>
          simp only [renderAll, he, hb, if_true, Bool.false_eq_true, if_false] at h
          cases h
    rw [renderAll_finished step, stepsOf, Progress.append_assoc]

/-! ## The parts of what sections add -/

/-- A part that adds up is put together from what the sections add to it. -/
theorem stepsOf_flatMap {α : Type} (part : Progress → List α) (nil : part {} = [])
    (append : ∀ p q, part (p ++ q) = part p ++ part q) : ∀ ss : List Section,
    part (stepsOf build ss) = ss.flatMap fun s => part (stepOf build s)
  | [] => nil
  | s :: rest => by
    rw [stepsOf, append, stepsOf_flatMap part nil append rest, List.flatMap_cons]

theorem mem_stepOf_sections {s : Section} {rs : RenderedSection} :
    rs ∈ (stepOf build s).sections ↔
      ∃ blocks, s.enabled = true ∧ build s = .ok blocks ∧ rs = rendition s blocks := by
  rcases stepOf_cases build s with ⟨he, hs⟩ | ⟨blocks, he, hb, hs⟩ | ⟨f, he, hb, hs⟩ <;> rw [hs]
  · simp [Progress.skip, he]
  · simp [Progress.add, he, hb]
  · simp [Progress.fail, hb]

end Lenient

/-! ## One section of a template that can be rendered -/

/-- The sections of the output, if there is one. -/
def Result.shown (r : Result) : List RenderedSection := (r.output.map (·.sections)).getD []

variable (r : Registry) (t : Template) (p : Profile) (o : Options)

/-- The output of a render that has made some progress. -/
def outputOf (progress : Progress) : Output :=
  { context :=
      { templateId := t.metadata.id, theme := o.theme.getD t.styles.defaultTheme,
        locale := o.locale },
    sections := progress.sections, metadata := progress.metadata t }

/-- A render that goes on after errors gives what the displayed sections add. -/
theorem render_lenient (lenient : o.continueOnError = true)
    (fit : o.skipValidation = true ∨ (validateTemplate t).valid = true) :
    render r t p o =
      ⟨some (outputOf t o (stepsOf (r.build · p) t.displayed)),
        (stepsOf (r.build · p) t.displayed).errors,
        (stepsOf (r.build · p) t.displayed).events⟩ := by
  have open' : (!o.skipValidation && !(validateTemplate t).valid) = false := by
    rcases fit with h | h <;> simp [h]
  unfold render
  rw [lenient, renderAll_lenient, Progress.empty_append]
  simp only [open', Bool.false_eq_true, if_false]
  rfl

/-- An output is what the displayed sections add, whatever the options. -/
theorem render_output {out : Output} (h : (render r t p o).output = some out) :
    out = outputOf t o (stepsOf (r.build · p) t.displayed) := by
  unfold render at h
  dsimp only at h
  split at h
  · cases h
  · split at h
    · rename_i stopped hstopped
      rw [renderAll_stopped _ hstopped] at h
      cases h
    · rename_i progress hfinished
      cases h
      rw [renderAll_finished _ hfinished, Progress.empty_append]
      rfl

/-- Every section of an output has the blocks that its builder made. -/
theorem render_output_section {out : Output} (h : (render r t p o).output = some out)
    {rs : RenderedSection} (hrs : rs ∈ out.sections) :
    ∃ s ∈ t.sections, ∃ blocks, r.build s p = .ok blocks ∧ rs = rendition s blocks := by
  rw [render_output r t p o h, outputOf, stepsOf_flatMap _ (·.sections) rfl (fun _ _ => rfl)] at hrs
  obtain ⟨s, hs, hrs⟩ := List.mem_flatMap.1 hrs
  obtain ⟨blocks, _, hb, rfl⟩ := (mem_stepOf_sections _).1 hrs
  exact ⟨s, t.mem_displayed.1 hs, blocks, hb, rfl⟩

def patchyAbout : Section :=
  { id := "about", kind := .about, order := 2, data := {}, config := {} }

def patchyHero : Section := { id := "hero", kind := .hero, data := {}, config := {} }

def patchyRule : Section :=
  { id := "rule", kind := .divider, enabled := false, order := 1, data := {}, config := {} }

def patchyGap : Section := { id := "gap", kind := .spacer, data := {}, config := {} }

/-- A template out of order: a section that works, one that fails, one that is disabled, and one
without a builder that ties with the failing one. -/
def patchyTemplate : Template :=
  { metadata := { id := "t", name := "T" },
    sections := [patchyAbout, patchyHero, patchyRule, patchyGap] }

def patchyBuilders : Registry :=
  [(.about, fun s _ => .ok [.element s.id true (.text { value := "Hi" })]),
    (.hero, fun _ _ => .error (.gaveUp .sectionRenderFailed "no picture"))]

end ProfileReadme.Render
