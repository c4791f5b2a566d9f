/-
What validation says of a template, told without the walk that finds it. The walk compares an id
with those it has met; here a section's problems depend on the template and on the section's
position alone, so that their absence is a property of the template as a whole.
-/
import ProfileReadme.Proofs.Text.Trimming
import ProfileReadme.Render.Validation
import Mathlib.Data.List.Nodup

namespace ProfileReadme.Render

/-- What a field of a template's metadata holds. -/
def MetadataField.of (m : TemplateMetadata) : MetadataField → String
  | .id => m.id
  | .name => m.name

/-- A template that validation lets through. -/
structure Sound (t : Template) : Prop where
  titled : ∀ f : MetadataField, Text.strip (f.of t.metadata) ≠ ""
  within : t.sections.length ≤ t.capabilities.maxSections
  identified : ∀ s ∈ t.sections, Text.strip s.id ≠ ""
  distinct : (t.sections.map (·.id)).Nodup
  supported : ∀ s ∈ t.sections, s.kind ∈ t.capabilities.supportedSections

/-! ## The problems of one section -/

/-- What may be wrong with a section of a template. -/
inductive Problem where
  | emptyId | duplicateId | unsupported
deriving DecidableEq, Repr

namespace Problem

/-- The section at a position of a template has a problem. -/
def Of (t : Template) (i : Nat) (s : Section) : Problem → Prop
  | .emptyId => Text.strip s.id = ""
  | .duplicateId => Text.strip s.id ≠ "" ∧ ∃ earlier ∈ t.sections.take i, earlier.id = s.id
  | .unsupported => s.kind ∉ t.capabilities.supportedSections

instance (t : Template) (i : Nat) (s : Section) : DecidablePred (Of t i s)
  | .emptyId => inferInstanceAs (Decidable (Text.strip s.id = ""))
  | .duplicateId => inferInstanceAs
      (Decidable (Text.strip s.id ≠ "" ∧ ∃ earlier ∈ t.sections.take i, earlier.id = s.id))
  | .unsupported => inferInstanceAs (Decidable (s.kind ∉ t.capabilities.supportedSections))

/-- What is reported of a section with a problem. -/
def misfit (t : Template) (i : Nat) (s : Section) : Problem → Misfit
  | .emptyId => .emptyId i s.kind
  | .duplicateId => .duplicate s.id s.kind
  | .unsupported =>
    .unsupported s.id s.kind t.metadata.id t.capabilities.supportedSections

def code : Problem → ErrorCode
  | .emptyId => .emptySectionId
  | .duplicateId => .duplicateSectionId
  | .unsupported => .sectionUnsupported

end Problem

/-- The problems of a section, in the order in which they are reported. -/
def problemsOf (t : Template) (i : Nat) (s : Section) : List Problem :=
  [Problem.emptyId, .duplicateId, .unsupported].filter (·.Of t i s)

section Walk

variable {t : Template} {i : Nat} {s : Section}

theorem problemsOf_eq_nil_iff :
    problemsOf t i s = [] ↔ Text.strip s.id ≠ "" ∧
      (∀ earlier ∈ t.sections.take i, earlier.id ≠ s.id) ∧
      s.kind ∈ t.capabilities.supportedSections := by
  have every : problemsOf t i s = [] ↔ ∀ problem : Problem, ¬ problem.Of t i s := by
    unfold problemsOf
    rw [List.filter_eq_nil_iff]
    constructor
    · intro h problem
      have h := h problem (by cases problem <;> simp)
      simpa using h
    · intro h problem _
      simpa using h problem
  rw [every]
  constructor
  · intro h
    have identified : Text.strip s.id ≠ "" := h .emptyId
    refine ⟨identified, ?_, ?_⟩
    · intro earlier mem same
      exact h .duplicateId ⟨identified, earlier, mem, same⟩
    · exact not_not.1 (h .unsupported)
  · rintro ⟨identified, fresh, supported⟩ problem
    cases problem with
    | emptyId => exact identified
    | duplicateId =>
      rintro ⟨-, earlier, mem, same⟩
      exact fresh earlier mem same
    | unsupported => exact not_not.2 supported

/-- What the walk finds at a section, if it has met the ids of the sections before it. -/
theorem sectionMisfits_eq {seen : List String}
    (met : ∀ id, id ∈ seen ↔ ∃ earlier ∈ t.sections.take i, earlier.id = id) :
    sectionMisfits t i seen s = (problemsOf t i s).map (·.misfit t i s) := by
  have ofId : (if Text.allBlank s.id then [Misfit.emptyId i s.kind]
        else if s.id ∈ seen then [.duplicate s.id s.kind] else []) =
      ([Problem.emptyId, .duplicateId].filter (·.Of t i s)).map (·.misfit t i s) := by
    have blank := Text.strip_eq_empty_iff s.id
    by_cases empty : Text.allBlank s.id = true
    · have none := blank.2 empty
      simp [empty, Problem.Of, Problem.misfit, none]
    · have some : Text.strip s.id ≠ "" := fun none => empty (blank.1 none)
      rw [if_neg empty]
      by_cases repeated : s.id ∈ seen
      · have earlier := (met s.id).1 repeated
        simp [repeated, Problem.Of, Problem.misfit, some, earlier]
      · have fresh := mt (met s.id).2 repeated
        simp [repeated, Problem.Of, some, fresh]
  have ofKind : (if t.capabilities.supports s.kind then []
        else [Misfit.unsupported s.id s.kind t.metadata.id t.capabilities.supportedSections]) =
      ([Problem.unsupported].filter (·.Of t i s)).map (·.misfit t i s) := by
    by_cases supported : s.kind ∈ t.capabilities.supportedSections <;>
      simp [Capabilities.supports, Problem.Of, Problem.misfit, supported]
  unfold sectionMisfits problemsOf
  rw [ofId, ofKind, ← List.map_append, ← List.filter_append]
  rfl

/-- What the walk finds in the sections from some position on. -/
theorem sectionsMisfits_eq {before rest : List Section} {seen : List String}
    (cut : t.sections = before ++ rest) (met : ∀ id, id ∈ seen ↔ ∃ s ∈ before, s.id = id) :
    sectionsMisfits t before.length seen rest =
      (rest.zipIdx before.length).flatMap fun (s, i) =>
        (problemsOf t i s).map (·.misfit t i s) := by
  induction rest generalizing before seen with
  | nil => rfl
  | cons s rest ih =>
    have here : t.sections.take before.length = before := by
      rw [cut, List.take_left]
    have cut' : t.sections = (before ++ [s]) ++ rest := by
      rw [cut, List.append_assoc]
      rfl
    have met' (id : String) : id ∈ s.id :: seen ↔ ∃ s' ∈ before ++ [s], s'.id = id := by
      rw [List.mem_cons, met id]
      constructor
      · rintro (rfl | ⟨earlier, mem, same⟩)
        · exact ⟨s, by simp, rfl⟩
        · exact ⟨earlier, by simp [mem], same⟩
      · rintro ⟨earlier, mem, same⟩
        rcases List.mem_append.1 mem with mem | mem
        · exact .inr ⟨earlier, mem, same⟩
        · obtain rfl := List.mem_singleton.1 mem
          exact .inl same.symm
    have onwards := ih cut' met'
    rw [sectionsMisfits, List.zipIdx_cons, List.flatMap_cons, sectionMisfits_eq (by rwa [here])]
    rw [List.length_append, List.length_singleton] at onwards
    rw [onwards]

end Walk

/-! ## The template as a whole -/

section Whole

variable (t : Template)

theorem blankFields_eq (m : TemplateMetadata) :
    blankFields m = [MetadataField.id, .name].filter fun f => Text.strip (f.of m) = "" := by
  have id := Text.strip_eq_empty_iff m.id
  have name := Text.strip_eq_empty_iff m.name
  unfold blankFields
  by_cases noId : Text.allBlank m.id = true <;> by_cases noName : Text.allBlank m.name = true <;>
    simp [MetadataField.of, id, name, noId, noName]

theorem blankFields_eq_nil_iff (m : TemplateMetadata) :
    blankFields m = [] ↔ ∀ f : MetadataField, Text.strip (f.of m) ≠ "" := by
  rw [blankFields_eq, List.filter_eq_nil_iff]
  constructor
  · intro h f
    have h := h f (by cases f <;> simp)
    simpa using h
  · intro h f _
    simpa using h f

/-- No section has a problem exactly if each alone is fine and no two share an id. -/
theorem problems_eq_nil_iff :
    (t.sections.zipIdx.flatMap fun (s, i) => (problemsOf t i s).map (·.misfit t i s)) = [] ↔
      (∀ s ∈ t.sections, Text.strip s.id ≠ "") ∧ (t.sections.map (·.id)).Nodup ∧
        ∀ s ∈ t.sections, s.kind ∈ t.capabilities.supportedSections := by
  have each : (t.sections.zipIdx.flatMap fun (s, i) =>
        (problemsOf t i s).map (·.misfit t i s)) = [] ↔
      ∀ s i, t.sections[i]? = some s → problemsOf t i s = [] := by
    rw [List.flatMap_eq_nil_iff]
    constructor
    · intro h s i at_
      exact List.map_eq_nil_iff.1 (h (s, i) (List.mem_zipIdx_iff_getElem?.2 at_))
    · rintro h ⟨s, i⟩ mem
      exact List.map_eq_nil_iff.2 (h s i (List.mem_zipIdx_iff_getElem?.1 mem))
  rw [each]
  constructor
  · intro h
    have fine : ∀ s ∈ t.sections, ∃ i, problemsOf t i s = [] := by
      intro s mem
      obtain ⟨i, at_⟩ := List.getElem?_of_mem mem
      exact ⟨i, h s i at_⟩
    refine ⟨?_, ?_, ?_⟩
    · intro s mem
      obtain ⟨i, none⟩ := fine s mem
      exact (problemsOf_eq_nil_iff.1 none).1
    · rw [List.nodup_iff_getElem?_ne_getElem?]
      intro i j lt bound same
      -- the later of the two has the earlier one among the sections before it
      rw [List.length_map] at bound
      have later := List.getElem?_eq_getElem bound
      have earlier := List.getElem?_eq_getElem (lt.trans bound)
      rw [List.getElem?_map, List.getElem?_map, later, earlier] at same
      have mem : t.sections[i] ∈ t.sections.take j :=
        List.mem_take_iff_getElem.2 ⟨i, lt_min lt (lt.trans bound), rfl⟩
      exact (problemsOf_eq_nil_iff.1 (h _ j later)).2.1 _ mem (Option.some.inj same)
    · intro s mem
      obtain ⟨i, none⟩ := fine s mem
      exact (problemsOf_eq_nil_iff.1 none).2.2
  · rintro ⟨identified, distinct, supported⟩ s j at_
    have mem := List.mem_of_getElem? at_
    refine problemsOf_eq_nil_iff.2 ⟨identified s mem, ?_, supported s mem⟩
    intro earlier before same
    obtain ⟨i, lt, eq⟩ := List.mem_take_iff_getElem.1 before
    obtain ⟨bound, here⟩ := List.getElem?_eq_some_iff.1 at_
    rw [List.nodup_iff_getElem?_ne_getElem?] at distinct
    refine distinct i j (by omega) (by rwa [List.length_map]) ?_
    rw [List.getElem?_map, List.getElem?_map, at_, List.getElem?_eq_getElem (by omega), eq]
    exact congrArg some same

/-- All misfits of a template, without the walk. -/
theorem misfits_eq :
    misfits t = (if blankFields t.metadata = [] then [] else [.blank (blankFields t.metadata)]) ++
      (if t.capabilities.maxSections < t.sections.length then
        [.tooMany t.capabilities.maxSections t.sections.length t.metadata.id] else []) ++
      t.sections.zipIdx.flatMap fun (s, i) => (problemsOf t i s).map (·.misfit t i s) := by
  have none (id : String) : id ∈ ([] : List String) ↔ ∃ s ∈ ([] : List Section), s.id = id := by
    simp
  have walked : sectionsMisfits t 0 [] t.sections = _ := sectionsMisfits_eq rfl none
  rw [List.length_nil] at walked
  unfold misfits
  rw [walked]
  simp only [List.isEmpty_iff]

theorem misfits_eq_nil_iff : misfits t = [] ↔ Sound t := by
  rw [misfits_eq, List.append_eq_nil_iff, List.append_eq_nil_iff, problems_eq_nil_iff]
  constructor
  · rintro ⟨⟨titled, within⟩, identified, distinct, supported⟩
    refine ⟨(blankFields_eq_nil_iff _).1 ?_, ?_, identified, distinct, supported⟩
    · by_contra blank
      rw [if_neg blank] at titled
      cases titled
    · by_contra full
      rw [if_pos (by omega)] at within
      cases within
  · intro sound
    refine ⟨⟨?_, ?_⟩, sound.identified, sound.distinct, sound.supported⟩
    · rw [if_pos ((blankFields_eq_nil_iff _).2 sound.titled)]
    · have within := sound.within
      rw [if_neg (by omega)]

theorem Problem.misfit_code (problem : Problem) (i : Nat) (s : Section) :
    (problem.misfit t i s).report.code = problem.code := by
  cases problem <;> rfl

/-- Validation finds fault with a template exactly if the template is not sound, and what it
reports is, in this order: the blank fields of the metadata, if any, in one report; that there are
too many sections, if there are; and section by section each of its problems under the problem's
own code. -/
theorem validateTemplate_errors :
    ((validateTemplate t).errors = [] ↔ Sound t) ∧
    (validateTemplate t).errors =
      (let blank := [MetadataField.id, .name].filter fun f => Text.strip (f.of t.metadata) = ""
        if blank = [] then [] else [(Misfit.blank blank).report]) ++
      (if t.capabilities.maxSections < t.sections.length then
        [(Misfit.tooMany t.capabilities.maxSections t.sections.length t.metadata.id).report]
        else []) ++
      (t.sections.zipIdx.flatMap fun (s, i) =>
        (problemsOf t i s).map fun problem => (problem.misfit t i s).report) ∧
    (∀ blank, (Misfit.blank blank).report.code = .validationFailed ∧
      (Misfit.blank blank).report.details =
        named [("issues", .texts (blank.map MetadataField.issue))]) ∧
    (∀ limit count id, (Misfit.tooMany limit count id).report.code = .sectionLimitExceeded) ∧
    ∀ (problem : Problem) i s, (problem.misfit t i s).report.code = problem.code := by
  refine ⟨?_, ?_, fun _ => ⟨rfl, rfl⟩, fun _ _ _ => rfl, Problem.misfit_code t⟩
  · exact List.map_eq_nil_iff.trans (misfits_eq_nil_iff t)
  · show (misfits t).map Misfit.report = _
    rw [misfits_eq, List.map_append, List.map_append, List.map_flatMap, blankFields_eq]
    simp only [apply_ite (List.map Misfit.report), List.map_cons, List.map_nil, List.map_map,
      Function.comp_def]

end Whole

end ProfileReadme.Render
