/-
Sections that are changed where they stand. A change that neither looks at the place of a section
nor touches it comes to the same before and after a move; and a move, whatever places it gives,
leaves where each id leads.
-/
import ProfileReadme.Proofs.Template.Moving
import Mathlib.Logic.Function.Conjugate

namespace ProfileReadme

/-- A change of a section that keeps the id, and that keeps the order and does not look at it. -/
structure Section.InPlace (f : Section → Section) : Prop where
  id : ∀ s, (f s).id = s.id
  order : ∀ (s : Section) (n : Int), f { s with order := n } = { f s with order := n }

theorem Section.InPlace.order_eq {f : Section → Section} (h : InPlace f) (s : Section) :
    (f s).order = s.order :=
  congrArg (·.order) (h.order s s.order)

namespace Template

/-- A template with all of its sections changed. -/
def mapSections (f : Section → Section) (t : Template) : Template :=
  t.withSections (t.sections.map f)

variable {f : Section → Section} {t : Template} {id : String}

theorem mapSections_ids (h : ∀ s, (f s).id = s.id) (t : Template) :
    (t.mapSections f).sections.map (·.id) = t.sections.map (·.id) := by
  show (t.sections.map f).map (·.id) = _
  rw [List.map_map]
  exact List.map_congr_left fun s _ => h s

theorem mapSections_comm {g : Section → Section} (h : Function.Commute f g) :
    Function.Commute (mapSections f) (mapSections g) := by
  intro t
  show t.withSections ((t.sections.map g).map f) = t.withSections ((t.sections.map f).map g)
  rw [List.map_map, List.map_map, h.comp_eq]

theorem mapSections_eq_self (h : ∀ s ∈ t.sections, f s = s) : t.mapSections f = t := by
  have map : t.sections.map f = t.sections := by
    simpa using List.map_congr_left (g := id) h
  rw [mapSections, map]
  rfl

theorem displayed_mapSections (h : Section.InPlace f) (t : Template) :
    (t.mapSections f).displayed = t.displayed.map f := by
  refine (List.map_mergeSort fun a _ b _ => ?_).symm
  rw [h.order_eq, h.order_eq]

theorem numbered_inPlace (h : Section.InPlace f) (ss : List Section) :
    numbered (ss.map f) = (numbered ss).map f := by
  unfold numbered
  refine List.ext_getElem (by simp) fun i hi hi' => ?_
  rw [List.getElem_map, List.getElem_mapIdx, List.getElem_mapIdx, List.getElem_map]
  exact (h.order _ _).symm

/-- A change that keeps ids makes no difference to which section an id leads to. -/
theorem hasId_comp (h : ∀ s, (f s).id = s.id) (id : String) :
    (fun s : Section => s.id == id) ∘ f = fun s => s.id == id := by
  funext s
  rw [Function.comp_apply, h]

theorem find?_mapSections (h : ∀ s, (f s).id = s.id) (t : Template) (id : String) :
    (t.mapSections f).find? id = (t.find? id).map f := by
  show (t.sections.map f).find? _ = _
  rw [List.find?_map, hasId_comp h]
  rfl

/-- It is all the same whether sections are changed before one is moved or after that. -/
theorem moveSection_mapSections (h : Section.InPlace f) (t : Template) (id : String) (m : Move) :
    (t.mapSections f).moveSection id m = (t.moveSection id m).mapSections f := by
  unfold moveSection
  rw [displayed_mapSections h, List.findIdx?_map, hasId_comp h.id]
  cases t.displayed.findIdx? (·.id == id) with
  | none => rfl
  | some i =>
    dsimp only
    rw [Move.apply_map, numbered_inPlace h]
    rfl

/-! ## Where ids lead after a move -/

theorem moveSection_perm (t : Template) (id : String) (m : Move) :
    ((t.moveSection id m).sections.map Section.unnumbered).Perm
      (t.sections.map Section.unnumbered) := by
  unfold moveSection
  split
  next i _ =>
    show ((numbered _).map Section.unnumbered).Perm _
    rw [numbered_map fun _ _ => rfl]
    exact ((m.apply_perm i t.displayed).trans t.displayed_perm).map _
  · exact .refl _

theorem moveSection_ids (t : Template) (id : String) (m : Move) :
    ((t.moveSection id m).sections.map (·.id)).Perm (t.sections.map (·.id)) := by
  have perm := (t.moveSection_perm id m).map (·.id)
  rwa [List.map_map, List.map_map] at perm

/-- Where no id repeats, an id leads to the one section that has it. -/
theorem find?_eq_some_iff {ss : List Section} (distinct : (ss.map (·.id)).Nodup) {s : Section} :
    ss.find? (·.id == id) = some s ↔ s ∈ ss ∧ s.id = id := by
  constructor
  · intro found
    exact ⟨List.mem_of_find?_eq_some found, by simpa using List.find?_some found⟩
  · rintro ⟨mem, here⟩
    have isSome : (ss.find? (·.id == id)).isSome :=
      List.find?_isSome.2 ⟨s, mem, by simpa using here⟩
    obtain ⟨s', found⟩ := Option.isSome_iff_exists.1 isSome
    have here' : s'.id = id := by simpa using List.find?_some found
    rw [found, List.inj_on_of_nodup_map distinct (List.mem_of_find?_eq_some found) mem
      (here'.trans here.symm)]

theorem find?_of_perm {ss ss' : List Section} (perm : ss'.Perm ss)
    (distinct : (ss.map (·.id)).Nodup) (id : String) :
    ss'.find? (·.id == id) = ss.find? (·.id == id) := by
  have distinct' := (perm.map (·.id)).nodup_iff.2 distinct
  refine Option.ext fun s => ?_
  rw [find?_eq_some_iff distinct', find?_eq_some_iff distinct, perm.mem_iff]

/-- Where no id repeats, an id leads to the same section after any move, but for its order. -/
theorem find?_moveSection (distinct : (t.sections.map (·.id)).Nodup) (id id' : String) (m : Move) :
    ((t.moveSection id' m).find? id).map Section.unnumbered =
      (t.find? id).map Section.unnumbered := by
  have unnumber (ss : List Section) : (ss.find? (·.id == id)).map Section.unnumbered =
      (ss.map Section.unnumbered).find? (·.id == id) := by
    rw [List.find?_map]
    rfl
  have ids : ((t.sections.map Section.unnumbered).map (·.id)).Nodup := by
    rwa [List.map_map]
  exact (unnumber _).trans ((find?_of_perm (t.moveSection_perm id' m) ids id).trans
    (unnumber _).symm)

end Template

end ProfileReadme
