/-
What an edit of a section leaves as it is. An edit finds one section and puts what becomes of it in
the place of every section with its id: what the other sections with that id hold is overwritten.
-/
import ProfileReadme.Proofs.Section.Written
import ProfileReadme.Store.Action
import Mathlib.Data.List.Forall2
import Mathlib.Data.List.Nodup

namespace ProfileReadme

/-! ## Sections that differ in one thing -/

/-- A section that differs at most in being enabled. -/
def Section.SameButEnabled (s s' : Section) : Prop := s' = { s with enabled := s'.enabled }

/-- A section that differs at most in its config; so it has the same kind. -/
def Section.SameButConfig (s s' : Section) : Prop :=
  ∃ config : s.kind.Config, s' = { s with config }

theorem Section.sameButEnabled_equivalence : Equivalence SameButEnabled where
  refl _ := rfl
  symm {s s'} h := by
    unfold SameButEnabled at h ⊢
    rw [h]
  trans {s s' s''} h h' := by
    unfold SameButEnabled at h h' ⊢
    rw [h', h]

theorem Section.sameButConfig_equivalence : Equivalence SameButConfig where
  refl s := ⟨s.config, rfl⟩
  symm := by
    rintro s _ ⟨config, rfl⟩
    exact ⟨s.config, rfl⟩
  trans := by
    rintro s _ _ ⟨config, rfl⟩ ⟨config', rfl⟩
    exact ⟨config', rfl⟩

/-! ## Putting a section in the place of those with its id -/

namespace Template

/-- What an edit of the sections with an id never touches: the template around its sections, their
number, places and ids, and every section with another id. -/
structure EditedAt (id : String) (t t' : Template) : Prop where
  around : t'.withSections t.sections = t
  sections : List.Forall₂ (fun s s' => s'.id = s.id ∧ (s.id ≠ id → s' = s)) t.sections t'.sections

/-- All sections with an id are alike. -/
def AlikeAt (alike : Section → Section → Prop) (id : String) (t : Template) : Prop :=
  ∀ s ∈ t.sections, ∀ s' ∈ t.sections, s.id = id → s'.id = id → alike s s'

variable {t : Template} {id : String} {old new : Section}

theorem find?_id (h : t.find? id = some old) : old ∈ t.sections ∧ old.id = id :=
  ⟨List.mem_of_find?_eq_some h, by simpa using List.find?_some h⟩

theorem editedAt_refl (id : String) (t : Template) : EditedAt id t t :=
  ⟨rfl, List.forall₂_same.2 fun _ _ => ⟨rfl, fun _ => rfl⟩⟩

theorem replaceSection_editedAt (h : new.id = id) : EditedAt id t (t.replaceSection id new) where
  around := rfl
  sections := by
    refine List.forall₂_map_right_iff.2 (List.forall₂_same.2 fun s _ => ?_)
    by_cases here : s.id = id
    · simp [here, h]
    · simp [here]

/-- The section that an edit finds is the one that it changes. -/
theorem find?_replaceSection (h : t.find? id = some old) (same : new.id = id) :
    (t.replaceSection id new).find? id = some new := by
  have unmoved : ((·.id == id) ∘ fun s : Section => if s.id = id then new else s) =
      fun s : Section => s.id == id := by
    funext s
    by_cases here : s.id = id
    · simp [here, same]
    · simp [here]
  show (t.sections.map _).find? _ = _
  rw [List.find?_map, unmoved]
  show (t.find? id).map _ = _
  rw [h, Option.map_some, if_pos (find?_id h).2]

theorem alikeAt_of_nodup {alike : Section → Section → Prop} (equiv : Equivalence alike)
    (distinct : (t.sections.map (·.id)).Nodup) (id : String) : t.AlikeAt alike id := by
  intro s hs s' hs' here here'
  rw [List.inj_on_of_nodup_map distinct hs hs' (here.trans here'.symm)]
  exact equiv.refl s'

theorem replaceSection_alike_iff {alike : Section → Section → Prop} (equiv : Equivalence alike)
    (h : t.find? id = some old) (edit : alike old new) :
    List.Forall₂ alike t.sections (t.replaceSection id new).sections ↔ t.AlikeAt alike id := by
  obtain ⟨mem, found⟩ := find?_id h
  show List.Forall₂ alike t.sections (t.sections.map _) ↔ _
  rw [List.forall₂_map_right_iff, List.forall₂_same]
  constructor
  · intro each s hs s' hs' at_s at_s'
    have hs := each s hs
    have hs' := each s' hs'
    rw [if_pos at_s] at hs
    rw [if_pos at_s'] at hs'
    exact equiv.trans hs (equiv.symm hs')
  · intro same s hs
    by_cases here : s.id = id
    · rw [if_pos here]
      exact equiv.trans (same s hs old mem here found) edit
    · rw [if_neg here]
      exact equiv.refl s

end Template

/-! ## Edits of a section -/

namespace Action

/-- A section whose config has changes laid over it is the section with the config that the changed
document of its config reads as. -/
theorem reconfigured_object (s : Section) (fields : Fields) :
    reconfigured s (.object fields) =
      match s.kind.readConfig ((s.kind.writeConfig s.config).merge (.object fields)) with
      | .ok config => .ok { s with config }
      | .bad issues => .error (.invalid issues) := by
  obtain ⟨inner, written⟩ := Section.writeConfig_isObject s.kind s.config
  -- changes are laid over the whole section as it is written, so it is read again as a whole
  have merged : s.write.merge (.obj [("config", .object fields)]) =
      .obj [("id", .text s.id), ("type", Named.write s.kind), ("enabled", .bool s.enabled),
        ("order", .int s.order), ("title", .optional .text s.title),
        ("data", s.kind.writeData s.data), ("config", .object (Fields.over fields inner))] := by
    simp [Section.write, written, Value.obj, Value.merge, Value.over, Fields.over, Fields.alter]
  have changed : (s.kind.writeConfig s.config).merge (.object fields) =
      .object (Fields.over fields inner) := by
    rw [written, Value.merge, Value.over]
  show reread Section.read s.write (.obj [("config", .object fields)]) = _
  unfold reread
  rw [merged, Section.read_withConfig, changed]
  cases s.kind.readConfig (.object (Fields.over fields inner)) <;> rfl

theorem reconfigured_eq_ok {s s' : Section} {changes : Value}
    (h : reconfigured s changes = .ok s') :
    ∃ config : s.kind.Config,
      s.kind.readConfig ((s.kind.writeConfig s.config).merge changes) = .ok config ∧
        s' = { s with config } := by
  cases changes with
  | object fields =>
    rw [reconfigured_object] at h
    split at h
    · rename_i config laid
      cases h
      exact ⟨config, laid, rfl⟩
    · cases h
  | _ => cases h

variable {s s' : State} {t : Template} {id : String}

/-- An edit of a section that is not refused leaves all but the template as it is. It changes the
first section with the id; the others with that id become the same section. -/
theorem onSection_eq_ok {alike : Section → Section → Prop} (equiv : Equivalence alike)
    {edit : Section → Except Refusal Section}
    (keeps : ∀ old new, edit old = .ok new → alike old new ∧ new.id = old.id)
    (h : s.template = some t) (ok : onSection id edit s = .ok s') :
    ∃ t', s' = { s with template := some t' } ∧ t.EditedAt id t' ∧
      (∀ old ∈ t.find? id, ∃ new, edit old = .ok new ∧ t'.find? id = some new) ∧
      (List.Forall₂ alike t.sections t'.sections ↔ t.AlikeAt alike id) := by
  unfold onSection at ok
  rw [h] at ok
  dsimp only at ok
  cases found : t.find? id with
  | none =>
    rw [found] at ok
    cases ok
    refine ⟨t, by rw [← h], t.editedAt_refl id, (fun old none => by cases none), ?_⟩
    have no (s : Section) (hs : s ∈ t.sections) : s.id ≠ id := by
      simpa using List.find?_eq_none.1 found s hs
    exact iff_of_true (List.forall₂_same.2 fun s _ => equiv.refl s)
      fun s hs _ _ here => absurd here (no s hs)
  | some old =>
    rw [found] at ok
    dsimp only at ok
    cases edited : edit old with
    | error refusal =>
      rw [edited] at ok
      cases ok
    | ok new =>
      rw [edited] at ok
      cases ok
      obtain ⟨like, sameId⟩ := keeps old new edited
      have same : new.id = id := sameId.trans (Template.find?_id found).2
      refine ⟨_, rfl, t.replaceSection_editedAt same, ?_,
        t.replaceSection_alike_iff equiv found like⟩
      rintro _ ⟨⟩
      exact ⟨new, edited, t.find?_replaceSection found same⟩

/-- Turning a section on or off is never refused. -/
theorem toggleSection_accepted (initial : Profile) (h : s.template = some t) (id : String) :
    ∃ t', apply initial (.toggleSection id) s = .ok { s with template := some t' } ∧
      t.EditedAt id t' ∧
      (∀ old ∈ t.find? id, t'.find? id = some { old with enabled := !old.enabled }) ∧
      (List.Forall₂ Section.SameButEnabled t.sections t'.sections ↔
        t.AlikeAt Section.SameButEnabled id) := by
  have accepted : ∃ s', apply initial (.toggleSection id) s = .ok s' := by
    show ∃ s', onSection id _ s = .ok s'
    unfold onSection
    rw [h]
    dsimp only
    cases t.find? id <;> exact ⟨_, rfl⟩
  obtain ⟨s', ok⟩ := accepted
  have toggled (old new : Section)
      (edit : Except.ok { old with enabled := !old.enabled } = Except.ok (ε := Refusal) new) :
      old.SameButEnabled new ∧ new.id = old.id := by
    cases edit
    exact ⟨rfl, rfl⟩
  obtain ⟨t', rfl, edited, first, framed⟩ :=
    onSection_eq_ok Section.sameButEnabled_equivalence toggled h ok
  refine ⟨t', ok, edited, fun old hold => ?_, framed⟩
  obtain ⟨_, ⟨⟩, found⟩ := first old hold
  exact found

/-- An edit of a config that is not refused lays the changes over the config of the first section
with the id. -/
theorem updateSectionConfig_eq_ok {initial : Profile} {changes : Value} (h : s.template = some t)
    (ok : apply initial (.updateSectionConfig id changes) s = .ok s') :
    ∃ t', s' = { s with template := some t' } ∧ t.EditedAt id t' ∧
      (∀ old ∈ t.find? id, ∃ config,
        old.kind.readConfig ((old.kind.writeConfig old.config).merge changes) = .ok config ∧
          t'.find? id = some { old with config }) ∧
      (List.Forall₂ Section.SameButConfig t.sections t'.sections ↔
        t.AlikeAt Section.SameButConfig id) := by
  have laid (old new : Section) (edit : reconfigured old changes = .ok new) :
      old.SameButConfig new ∧ new.id = old.id := by
    obtain ⟨config, -, rfl⟩ := reconfigured_eq_ok edit
    exact ⟨⟨config, rfl⟩, rfl⟩
  obtain ⟨t', rfl, edited, first, framed⟩ :=
    onSection_eq_ok Section.sameButConfig_equivalence laid h ok
  refine ⟨t', rfl, edited, fun old hold => ?_, framed⟩
  obtain ⟨new, edit, found⟩ := first old hold
  obtain ⟨config, read, rfl⟩ := reconfigured_eq_ok edit
  exact ⟨config, read, found⟩

end Action

/-- Whatever ids repeat in a template, turning a section on or off and an accepted edit of its
config leave the template around the sections, their number, places and ids, and all sections with
another id as they are, and do to the first section with the id what they say. They change nothing
but `enabled`, or nothing but the config, exactly if all sections with the id are alike but for
that, as they are where no id repeats; otherwise they overwrite the others with the first. -/
theorem Store.sectionEdits_framed_iff (initial : Profile) {s : State} {t : Template}
    (h : s.template = some t) (id : String) :
    (∃ t', Action.apply initial (.toggleSection id) s = .ok { s with template := some t' } ∧
      t.EditedAt id t' ∧
      (∀ old ∈ t.find? id, t'.find? id = some { old with enabled := !old.enabled }) ∧
      (List.Forall₂ Section.SameButEnabled t.sections t'.sections ↔
        t.AlikeAt Section.SameButEnabled id)) ∧
    (∀ changes s', Action.apply initial (.updateSectionConfig id changes) s = .ok s' →
      ∃ t', s' = { s with template := some t' } ∧ t.EditedAt id t' ∧
        (∀ old ∈ t.find? id, ∃ config,
          old.kind.readConfig ((old.kind.writeConfig old.config).merge changes) = .ok config ∧
            t'.find? id = some { old with config }) ∧
        (List.Forall₂ Section.SameButConfig t.sections t'.sections ↔
          t.AlikeAt Section.SameButConfig id)) ∧
    ((t.sections.map (·.id)).Nodup →
      t.AlikeAt Section.SameButEnabled id ∧ t.AlikeAt Section.SameButConfig id) := by
  refine ⟨Action.toggleSection_accepted initial h id,
    fun changes s' => Action.updateSectionConfig_eq_ok h, fun distinct => ⟨?_, ?_⟩⟩
  · exact Template.alikeAt_of_nodup Section.sameButEnabled_equivalence distinct id
  · exact Template.alikeAt_of_nodup Section.sameButConfig_equivalence distinct id

/-! ## Two sections with one id -/

def twinAbout : Section := { id := "a", kind := .about, data := {}, config := {} }

def twinQuote : Section := { id := "a", kind := .quote, data := { quote := "Less" }, config := {} }

def twinTemplate : Template :=
  { metadata := { id := "t", name := "T" }, sections := [twinAbout, twinQuote] }

/-- A section turned off takes the place of the other one with its id. -/
theorem twinAbout_toggled : ∃ t',
    Action.apply {} (.toggleSection "a") { template := some twinTemplate } =
      .ok { template := some t' } ∧
    t'.find? "a" = some { twinAbout with enabled := false } ∧
    ¬ List.Forall₂ Section.SameButEnabled twinTemplate.sections t'.sections := by
  obtain ⟨⟨t', ok, -, first, framed⟩, -⟩ := Store.sectionEdits_framed_iff {}
    (s := { template := some twinTemplate }) rfl "a"
  refine ⟨t', ok, first twinAbout rfl, fun same => ?_⟩
  have alike := framed.1 same twinAbout (by simp [twinTemplate]) twinQuote (by simp [twinTemplate])
    rfl rfl
  have kinds : SectionKind.quote = .about := congrArg Section.kind alike
  cases kinds

/-- The quote is lost when the section with its id is turned off. -/
theorem twinQuote_lost : ∃ t',
    Action.apply {} (.toggleSection "a") { template := some twinTemplate } =
      .ok { template := some t' } ∧
    twinTemplate.sections.map (·.kind) = [.about, .quote] ∧
    t'.sections.map (·.kind) = [.about, .about] :=
  ⟨_, rfl, rfl, rfl⟩

end ProfileReadme
