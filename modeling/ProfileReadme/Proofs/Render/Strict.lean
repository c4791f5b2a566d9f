/-
Strict renders beside lenient ones. A render that stops at errors does what one that goes on does,
up to and including the first error; without errors the two are the same. Validation decides
before any section is built: it lets a render through unchanged, or it is all there is of it.
-/
import ProfileReadme.Proofs.Render.Sections

namespace ProfileReadme.Render

/-- The errors of sections, as opposed to those of the template. -/
def Result.sectionErrors (r : Result) : List Error :=
  r.errors.filter (·.category = .building)

/-- The happening is a section that was built. -/
def Event.isRendered : Event → Bool
  | .rendered _ => true
  | .failed _ => false

/-! ## Sections one after the other -/

/-- How a strict render ends that has made some progress, where a lenient one would add some more:
at the end if that holds no error, and otherwise at its first error, before which every section
was built. -/
def StopsAtFirst (p added : Progress) (outcome : Result ⊕ Progress) : Prop :=
  (added.errors = [] ∧ outcome = .inr (p ++ added)) ∨
  ∃ e errors before after, added.errors = e :: errors ∧
    added.events = before ++ .failed e :: after ∧ before.all Event.isRendered = true ∧
    outcome = .inl ⟨none, [e], p.events ++ (before ++ [.failed e])⟩

/-- Progress without an error may be counted to what was there or to what is added. -/
theorem StopsAtFirst.after {p own added : Progress} {outcome : Result ⊕ Progress}
    (clean : own.errors = []) (built : own.events.all Event.isRendered = true)
    (h : StopsAtFirst (p ++ own) added outcome) : StopsAtFirst p (own ++ added) outcome := by
  have errors : (own ++ added).errors = added.errors := by
    show own.errors ++ added.errors = _
    rw [clean, List.nil_append]
  rcases h with ⟨none, done⟩ | ⟨e, es, before, after, first, trace, clear, stopped⟩
  · exact .inl ⟨errors.trans none, by rw [done, Progress.append_assoc]⟩
  · refine .inr ⟨e, es, own.events ++ before, after, errors.trans first, ?_, ?_, ?_⟩
    · show own.events ++ added.events = _
      rw [trace, List.append_assoc]
    · rw [List.all_append, built, clear, Bool.and_self]
    · rw [stopped, List.append_assoc, ← List.append_assoc p.events]
      rfl

section Stopping

variable (build : Section → Except Failure (List Block))

theorem renderAll_strict : ∀ (ss : List Section) (p : Progress),
    StopsAtFirst p (stepsOf build ss) (renderAll build false p ss)
  | [], p => .inl ⟨rfl, by rw [stepsOf, Progress.append_empty]; rfl⟩
  | s :: rest, p => by
    have onwards := renderAll_strict rest (p ++ stepOf build s)
    rw [stepsOf]
    -- skipped, built or failed; only the last one ends the render
    rcases stepOf_cases build s with ⟨he, hs⟩ | ⟨blocks, he, hb, hs⟩ | ⟨f, he, hb, hs⟩
    · rw [hs] at onwards ⊢
      refine StopsAtFirst.after rfl rfl ?_
      simpa only [renderAll, he, Bool.false_eq_true, if_false, ← Progress.skip_eq_append]
        using onwards
    · rw [hs] at onwards ⊢
      refine StopsAtFirst.after rfl rfl ?_
      simpa only [renderAll, he, hb, if_true, rendition, ← Progress.add_eq_append] using onwards
    · -- the first error, so nothing was added before it
      rw [hs]
      refine .inr ⟨f.report s.id s.kind, _, [], _, rfl, rfl, rfl, ?_⟩
      simp only [renderAll, he, hb, if_true, Bool.false_eq_true, if_false]
      rfl

/-- What sections add are errors of the building of sections. -/
theorem stepsOf_category {ss : List Section} {e : Error} (h : e ∈ (stepsOf build ss).errors) :
    e.category = .building := by
  rw [stepsOf_flatMap build (·.errors) rfl (fun _ _ => rfl)] at h
  obtain ⟨s, -, h⟩ := List.mem_flatMap.1 h
  rcases stepOf_cases build s with ⟨_, hs⟩ | ⟨_, _, _, hs⟩ | ⟨f, _, _, hs⟩ <;> rw [hs] at h
  · cases h
  · cases h
  · obtain rfl : e = f.report s.id s.kind := List.mem_singleton.1 h
    rfl

end Stopping

/-! ## The render of a template -/

variable (r : Registry) (t : Template) (p : Profile) (o : Options)

theorem validateTemplate_valid_iff :
    (validateTemplate t).valid = true ↔ (validateTemplate t).errors = [] :=
  List.isEmpty_iff.trans List.map_eq_nil_iff.symm

/-- A template that passes validation is rendered as if it were not validated. -/
theorem render_valid (valid : (validateTemplate t).errors = []) :
    render r t p { o with skipValidation := true } =
      render r t p { o with skipValidation := false } := by
  have valid := (validateTemplate_valid_iff t).2 valid
  unfold render
  simp only [valid, Bool.not_true, Bool.and_false, Bool.false_eq_true, if_false]

/-- A template that does not pass validation is not rendered. -/
theorem render_invalid (checked : o.skipValidation = false)
    (invalid : (validateTemplate t).errors ≠ []) :
    render r t p o = ⟨none, (validateTemplate t).errors, []⟩ := by
  have invalid : (validateTemplate t).valid = false :=
    eq_false_of_ne_true fun valid => invalid ((validateTemplate_valid_iff t).1 valid)
  unfold render
  simp only [checked, invalid, Bool.not_false, Bool.and_self, if_true]

/-- The errors of a template are none of its sections'. -/
theorem validation_category {e : Error} (h : e ∈ (validateTemplate t).errors) :
    e.category = .validation := by
  obtain ⟨misfit, -, rfl⟩ := List.mem_map.1 h
  cases misfit <;> rfl

/-- A strict render of a template that is let through: it gives what the sections add if none of
them fails, and ends with the first error otherwise. -/
theorem render_strict (strict : o.continueOnError = false)
    (fit : o.skipValidation = true ∨ (validateTemplate t).valid = true) :
    let added := stepsOf (r.build · p) t.displayed
    (added.errors = [] ∧ render r t p o = ⟨some (outputOf t o added), added.errors, added.events⟩) ∨
    ∃ e errors before after, added.errors = e :: errors ∧
      added.events = before ++ .failed e :: after ∧ before.all Event.isRendered = true ∧
      render r t p o = ⟨none, [e], before ++ [.failed e]⟩ := by
  intro added
  have through : (!o.skipValidation && !(validateTemplate t).valid) = false := by
    rcases fit with h | h <;> simp [h]
  have outcome := renderAll_strict (r.build · p) t.displayed {}
  rcases outcome with ⟨none, done⟩ | ⟨e, es, before, after, first, trace, clear, stopped⟩
  · refine .inl ⟨none, ?_⟩
    unfold render
    simp only [through, Bool.false_eq_true, if_false, strict, done, Progress.empty_append]
    rfl
  · refine .inr ⟨e, es, before, after, first, trace, clear, ?_⟩
    unfold render
    simp only [through, Bool.false_eq_true, if_false, strict, stopped]
    rfl

/-- A strict render does what the lenient one does, unless that meets an error of a section: then
it ends there. -/
theorem strict_eq_lenient_or_stops :
    let lenient := render r t p { o with continueOnError := true }
    let strict := render r t p { o with continueOnError := false }
    (lenient.sectionErrors = [] ∧ strict = lenient) ∨
    ∃ e rest before after, lenient.sectionErrors = e :: rest ∧ lenient.errors = e :: rest ∧
      lenient.events = before ++ .failed e :: after ∧ before.all Event.isRendered = true ∧
      strict = ⟨none, [e], before ++ [.failed e]⟩ := by
  intro lenient strict
  by_cases fit : o.skipValidation = true ∨ (validateTemplate t).valid = true
  · have going : lenient = _ := render_lenient r t p { o with continueOnError := true } rfl fit
    have own : lenient.sectionErrors = (stepsOf (r.build · p) t.displayed).errors := by
      rw [going]
      exact List.filter_eq_self.2 fun e he => decide_eq_true (stepsOf_category _ he)
    rw [own, going]
    rcases render_strict r t p { o with continueOnError := false } rfl fit with
      ⟨none, done⟩ | ⟨e, es, before, after, first, trace, clear, stopped⟩
    · exact .inl ⟨none, done⟩
    · exact .inr ⟨e, es, before, after, first, first, trace, clear, stopped⟩
  · -- the template is refused in either way, for errors that are none of its sections'
    obtain ⟨checked, invalid⟩ := not_or.1 fit
    have checked : o.skipValidation = false := eq_false_of_ne_true checked
    have invalid : (validateTemplate t).errors ≠ [] :=
      mt (validateTemplate_valid_iff t).2 invalid
    have refused (going : Bool) := render_invalid r t p { o with continueOnError := going } checked
      invalid
    refine .inl ⟨?_, (refused false).trans (refused true).symm⟩
    rw [show lenient = _ from refused true]
    refine List.filter_eq_nil_iff.2 fun e he => ?_
    rw [validation_category t he]
    decide

/-- A strict render beside the lenient one, which goes on after errors. If no section fails they
are the same. Otherwise the strict one fails with the first error alone, and what has happened is
what has happened in the lenient one up to and including that error, the first failure in it.
Validation changes nothing of the render of a template without misfits, and is all that happens to
one that has some. -/
theorem render_strictness (r : Registry) (t : Template) (p : Profile) (o : Options) :
    let lenient := render r t p { o with continueOnError := true }
    let strict := render r t p { o with continueOnError := false }
    (lenient.sectionErrors = [] → strict = lenient) ∧
    (lenient.sectionErrors ≠ [] →
      ∃ e rest before after, lenient.errors = e :: rest ∧
        lenient.events = before ++ .failed e :: after ∧ before.all Event.isRendered = true ∧
        strict.success = false ∧ strict = ⟨none, [e], before ++ [.failed e]⟩) ∧
    ((validateTemplate t).errors = [] →
      render r t p { o with skipValidation := true } =
        render r t p { o with skipValidation := false }) ∧
    ((validateTemplate t).errors ≠ [] →
      render r t p { o with skipValidation := false } =
        ⟨none, (validateTemplate t).errors, []⟩) := by
  intro lenient strict
  have beside : (lenient.sectionErrors = [] ∧ strict = lenient) ∨ _ :=
    strict_eq_lenient_or_stops r t p o
  refine ⟨fun none => ?_, fun some => ?_, render_valid r t p o,
    fun invalid => render_invalid r t p _ rfl invalid⟩
  · rcases beside with ⟨-, same⟩ | ⟨e, rest, -, -, first, -⟩
    · exact same
    · rw [first] at none
      cases none
  · rcases beside with ⟨none, -⟩ | ⟨e, rest, before, after, -, first, trace, clear, stopped⟩
    · exact absurd none some
    · have failed : strict.success = false := congrArg Result.success stopped
      exact ⟨e, rest, before, after, first, trace, clear, failed, stopped⟩

def promptAbout : Section := { patchyAbout with order := 0 }

/-- A section that works, one that fails, and one without a builder, in this order. -/
def shakyTemplate : Template :=
  patchyTemplate.withSections [promptAbout, patchyHero, patchyGap]

theorem shaky_displayed : shakyTemplate.displayed = [promptAbout, patchyHero, patchyGap] := by
  simp [Template.displayed, shakyTemplate, Template.withSections, List.mergeSort,
    List.MergeSort.Internal.splitInTwo, promptAbout, patchyAbout, patchyHero, patchyGap]

/-- A strict render of the shaky template tells of the section that was built and of the first
failure; the lenient one goes on to the second. -/
theorem render_strictness_shaky :
    (render patchyBuilders shakyTemplate {} {}).sectionErrors.map (·.sectionId) =
      [some "hero", some "gap"] ∧
    ∃ e s, e.sectionId = some "hero" ∧ s.id = "about" ∧
      render patchyBuilders shakyTemplate {} { continueOnError := false } =
        ⟨none, [e], [.rendered s, .failed e]⟩ := by
  have failing : (render patchyBuilders shakyTemplate {} {}).sectionErrors.map (·.sectionId) =
      [some "hero", some "gap"] := by
    simp only [render, shaky_displayed]
    rfl
  have happened : (render patchyBuilders shakyTemplate {} {}).events =
      [.rendered (rendition promptAbout [.element "about" true (.text { value := "Hi" })]),
        .failed (Failure.report (.gaveUp .sectionRenderFailed "no picture") "hero" .hero),
        .failed (Failure.report (.noBuilder "spacer" ["about", "hero"]) "gap" .spacer)] := by
    simp only [render, shaky_displayed]
    rfl
  refine ⟨failing, ?_⟩
  obtain ⟨e, rest, before, after, -, trace, clear, -, stopped⟩ :=
    (render_strictness patchyBuilders shakyTemplate {} {}).2.1 fun none => by
      rw [none] at failing
      cases failing
  have trace := happened.symm.trans trace
  -- the failure stands behind one section that was built
  rcases before with _ | ⟨built, _ | ⟨next, before⟩⟩
  · cases trace
  · cases trace
    exact ⟨_, _, rfl, rfl, stopped⟩
  · obtain ⟨rfl, rfl, -⟩ : _ = built ∧ _ = next ∧ _ := by simpa using trace
    cases clear

end ProfileReadme.Render
