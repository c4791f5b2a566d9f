/-
Edits that do not mind each other. Most edits are about one part of a state: the sections with an
id, the order of the sections, the profile, or the colors. Where no id repeats, edits of different
parts come to the same in either order, and neither makes a difference to whether the other is
rejected.
-/
import Mathlib
import ProfileReadme.Proofs.Store.Rejecting
import ProfileReadme.Proofs.Template.Mapped

namespace ProfileReadme

/-! ## Edits of sections with an id -/

/-- An edit of a section that keeps its id, and for which its order makes no difference. -/
structure Section.EditsInPlace (edit : Section → Except Refusal Section) : Prop where
  id : ∀ {s new}, edit s = .ok new → new.id = s.id
  order : ∀ (s : Section) (n : Int),
    edit { s with order := n } = (edit s).map fun new => { new with order := n }

namespace Section

variable {edit edit' : Section → Except Refusal Section} {id id' : String}

/-- What becomes of a section when those with an id are edited. A refused edit leaves it. -/
def editedAt (id : String) (edit : Section → Except Refusal Section) (s : Section) : Section :=
  if s.id = id then
    match edit s with
    | .ok new => new
    | .error _ => s
  else s

theorem editedAt_of_ne {s : Section} (h : s.id ≠ id) : s.editedAt id edit = s := if_neg h

theorem editedAt_accepted {s new : Section} (h : s.id = id) (ok : edit s = .ok new) :
    s.editedAt id edit = new := by
  rw [editedAt, if_pos h, ok]

theorem editedAt_refused {s : Section} {refusal : Refusal} (refused : edit s = .error refusal) :
    s.editedAt id edit = s := by
  rw [editedAt, refused]
  exact ite_self s

theorem EditsInPlace.inPlace (h : EditsInPlace edit) (id : String) :
    InPlace (editedAt id edit) where
  id s := by
    by_cases here : s.id = id
    · cases edited : edit s with
      | ok new => rw [editedAt_accepted here edited, h.id edited]
      | error refusal => rw [editedAt_refused edited]
    · rw [editedAt_of_ne here]
  order s n := by
    have anew := h.order s n
    by_cases here : s.id = id
    · cases edited : edit s with
      | ok new =>
        rw [edited] at anew
        rw [editedAt_accepted here edited]
        exact editedAt_accepted (s := { s with order := n }) here anew
      | error refusal =>
        rw [edited] at anew
        rw [editedAt_refused edited]
        exact editedAt_refused anew
    · rw [editedAt_of_ne here]
      exact editedAt_of_ne here

theorem EditsInPlace.comm (h : EditsInPlace edit) (h' : EditsInPlace edit') (ne : id ≠ id') :
    Function.Commute (editedAt id edit) (editedAt id' edit') := by
  intro s
  by_cases here : s.id = id
  · have there : s.id ≠ id' := here ▸ ne
    have there' : (s.editedAt id edit).id ≠ id' := by rwa [(h.inPlace id).id]
    rw [editedAt_of_ne there, editedAt_of_ne there']
  · have here' : (s.editedAt id' edit').id ≠ id := by rwa [(h'.inPlace id').id]
    rw [editedAt_of_ne here, editedAt_of_ne here']

theorem toggled_inPlace :
    EditsInPlace fun old => .ok { old with enabled := !old.enabled } where
  id ok := by cases ok; rfl
  order _ _ := rfl

theorem reconfigured_inPlace (changes : Value) : EditsInPlace (Action.reconfigured · changes) where
  id {s new} ok := by
    obtain ⟨config, -, rfl⟩ := Action.reconfigured_eq_ok ok
    rfl
  order s n := by
    cases changes with
    | object fields =>
      rw [Action.reconfigured_object, Action.reconfigured_object]
      dsimp only
      split <;> rfl
    | _ => rfl

end Section

/-! ## Parts of a state -/

/-- The template has no two sections with one id, if there is a template. -/
def State.Distinct (s : State) : Prop := ∀ t ∈ s.template, (t.sections.map (·.id)).Nodup

namespace Action

/-- What of a state an edit is about, if not the state as a whole. -/
inductive Part where
  | sections (id : String)
  | order
  | profile
  | theme

/-- The part that an edit is about. A template or a reset replaces more than one. -/
def part? : Action → Option Part
  | .toggleSection id | .updateSectionConfig id _ => some (.sections id)
  | .moveSection .. => some .order
  | .setProfile _ | .updateProfile _ => some .profile
  | .setPreviewTheme _ => some .theme
  | .setTemplate _ | .clearTemplate | .reset => none

/-- Two edits that are about different parts of a state. -/
def Independent (a b : Action) : Prop := ∃ p q, a.part? = some p ∧ b.part? = some q ∧ p ≠ q

/-- What an edit of a part makes of a template in which no id repeats. -/
def onTemplate : Action → Template → Template
  | .toggleSection id =>
    .mapSections (Section.editedAt id fun old => .ok { old with enabled := !old.enabled })
  | .updateSectionConfig id changes => .mapSections (Section.editedAt id (reconfigured · changes))
  | .moveSection id m => (·.moveSection id m)
  | _ => id

def onProfile : Action → Profile → Profile
  | .setProfile p => fun _ => p
  | .updateProfile changes => fun p =>
    match reread Profile.read p.write changes with
    | .ok p' => p'
    | .error _ => p
  | _ => id

def onTheme : Action → Value → Value
  | .setPreviewTheme theme => fun _ => theme
  | _ => id

variable {a b : Action} {p q : Part} {s : State}

theorem onTemplate_section {id : String} (h : a.part? = some (.sections id)) :
    ∃ edit, Section.EditsInPlace edit ∧
      a.onTemplate = Template.mapSections (Section.editedAt id edit) ∧
      ∀ initial s, a.apply initial s = onSection id edit s := by
  cases a with
  | toggleSection id => cases h; exact ⟨_, Section.toggled_inPlace, rfl, fun _ _ => rfl⟩
  | updateSectionConfig id changes =>
    cases h; exact ⟨_, Section.reconfigured_inPlace changes, rfl, fun _ _ => rfl⟩
  | _ => cases h

theorem onTemplate_order (h : a.part? = some .order) : ∃ id m, a = .moveSection id m := by
  cases a with
  | moveSection id m => exact ⟨id, m, rfl⟩
  | _ => cases h

theorem onTemplate_elsewhere (h : a.part? = some .profile ∨ a.part? = some .theme) :
    a.onTemplate = id := by
  cases a <;> simp [part?] at h <;> rfl

theorem onProfile_elsewhere (h : a.part? ≠ some .profile) : a.onProfile = id := by
  cases a <;> first | rfl | exact absurd rfl h

theorem onTheme_elsewhere (h : a.part? ≠ some .theme) : a.onTheme = id := by
  cases a <;> first | rfl | exact absurd rfl h

/-! ## Steps part by part -/

/-- Where no id repeats, an edit of the section with an id changes that section, or nothing. -/
theorem step_section {initial : Profile} {t : Template} {id : String}
    {edit : Section → Except Refusal Section} (about : a.apply initial s = onSection id edit s)
    (template : s.template = some t) (distinct : (t.sections.map (·.id)).Nodup) :
    step initial s a = { s with template := some (t.mapSections (Section.editedAt id edit)) } := by
  have unchanged (same : t.mapSections (Section.editedAt id edit) = t) :
      s = { s with template := some (t.mapSections (Section.editedAt id edit)) } := by
    rw [same, ← template]
  unfold step
  rw [about, onSection, template]
  dsimp only
  cases found : t.find? id with
  | none =>
    have nowhere : ∀ u ∈ t.sections, u.id ≠ id := by
      simpa using List.find?_eq_none.1 found
    exact unchanged (Template.mapSections_eq_self fun u hu =>
      Section.editedAt_of_ne (nowhere u hu))
  | some old =>
    have only : ∀ u ∈ t.sections, u.id = id → u = old := fun u hu here =>
      Option.some.inj (((Template.find?_eq_some_iff distinct).2 ⟨hu, here⟩).symm.trans found)
    dsimp only
    cases edited : edit old with
    | error refusal =>
      refine unchanged (Template.mapSections_eq_self fun u hu => ?_)
      by_cases here : u.id = id
      · rw [only u hu here, Section.editedAt_refused edited]
      · exact Section.editedAt_of_ne here
    | ok new =>
      have same : t.replaceSection id new = t.mapSections (Section.editedAt id edit) := by
        refine congrArg t.withSections (List.map_congr_left fun u hu => ?_)
        by_cases here : u.id = id
        · rw [if_pos here, only u hu here]
          exact (Section.editedAt_accepted (only u hu here ▸ here) edited).symm
        · rw [if_neg here, Section.editedAt_of_ne here]
      rw [← same]
      rfl

/-- An edit of a part changes that part and leaves the others. -/
theorem step_parts (initial : Profile) (about : a.part? = some p) (distinct : s.Distinct) :
    step initial s a = { s with
      template := s.template.map a.onTemplate
      profile := a.onProfile s.profile
      theme := a.onTheme s.theme } := by
  cases p with
  | sections id =>
    obtain ⟨edit, -, template, applies⟩ := onTemplate_section about
    rw [template, onProfile_elsewhere (by simp [about]), onTheme_elsewhere (by simp [about])]
    cases found : s.template with
    | none =>
      have kept : onSection id edit s = .ok s := by rw [onSection, found]
      rw [step, applies, kept, Option.map_none, ← found]
      rfl
    | some t => exact step_section (applies initial s) found (distinct t found)
  | order =>
    obtain ⟨id, m, rfl⟩ := onTemplate_order about
    rfl
  | profile =>
    rw [onTemplate_elsewhere (.inl about), onTheme_elsewhere (by simp [about]), Option.map_id]
    cases a with
    | setProfile p => rfl
    | updateProfile changes =>
      rw [step, apply_updateProfile, onProfile]
      dsimp only
      cases reread Profile.read s.profile.write changes <;> rfl
    | _ => cases about
  | theme =>
    rw [onTemplate_elsewhere (.inr about), onProfile_elsewhere (by simp [about]), Option.map_id]
    cases a with
    | setPreviewTheme theme => rfl
    | _ => cases about

/-- No edit of a part gives a section another id. -/
theorem onTemplate_ids (about : a.part? = some p) (t : Template) :
    ((a.onTemplate t).sections.map (·.id)).Perm (t.sections.map (·.id)) := by
  cases p with
  | sections id =>
    obtain ⟨edit, inPlace, template, -⟩ := onTemplate_section about
    rw [template, Template.mapSections_ids (inPlace.inPlace id).id]
  | order =>
    obtain ⟨id, m, rfl⟩ := onTemplate_order about
    exact t.moveSection_ids id m
  | profile => rw [onTemplate_elsewhere (.inl about), id_eq]
  | theme => rw [onTemplate_elsewhere (.inr about), id_eq]

theorem step_distinct (initial : Profile) (about : a.part? = some p) (distinct : s.Distinct) :
    (step initial s a).Distinct := by
  rw [step_parts initial about distinct]
  intro t' ht'
  obtain ⟨t, ht, rfl⟩ := Option.map_eq_some_iff.1 ht'
  exact (onTemplate_ids about t).nodup_iff.2 (distinct t ht)

/-! ## Edits of different parts -/

theorem onTemplate_comm (ha : a.part? = some p) (hb : b.part? = some q) (ne : p ≠ q) :
    Function.Commute a.onTemplate b.onTemplate := by
  have moved {a b : Action} {id : String} (ha : a.part? = some (.sections id))
      (hb : b.part? = some .order) : Function.Commute a.onTemplate b.onTemplate := by
    obtain ⟨edit, inPlace, template, -⟩ := onTemplate_section ha
    obtain ⟨id', m, rfl⟩ := onTemplate_order hb
    rw [template]
    exact fun t => (Template.moveSection_mapSections (inPlace.inPlace id) t id' m).symm
  cases p with
  | profile => rw [onTemplate_elsewhere (.inl ha)]; exact .id_left
  | theme => rw [onTemplate_elsewhere (.inr ha)]; exact .id_left
  | sections id =>
    cases q with
    | profile => rw [onTemplate_elsewhere (.inl hb)]; exact .id_right
    | theme => rw [onTemplate_elsewhere (.inr hb)]; exact .id_right
    | order => exact moved ha hb
    | sections id' =>
      obtain ⟨edit, inPlace, template, -⟩ := onTemplate_section ha
      obtain ⟨edit', inPlace', template', -⟩ := onTemplate_section hb
      have ne : id ≠ id' := fun same => ne (congrArg Part.sections same)
      rw [template, template']
      exact Template.mapSections_comm (inPlace.comm inPlace' ne)
  | order =>
    cases q with
    | profile => rw [onTemplate_elsewhere (.inl hb)]; exact .id_right
    | theme => rw [onTemplate_elsewhere (.inr hb)]; exact .id_right
    | sections id => exact (moved hb ha).symm
    | order => exact absurd rfl ne

theorem onProfile_comm (ha : a.part? = some p) (hb : b.part? = some q) (ne : p ≠ q) :
    Function.Commute a.onProfile b.onProfile := by
  by_cases about : p = .profile
  · rw [onProfile_elsewhere (a := b) (by simp [hb, ← about, ne.symm])]
    exact .id_right
  · rw [onProfile_elsewhere (a := a) (by simp [ha, about])]
    exact .id_left

theorem onTheme_comm (ha : a.part? = some p) (hb : b.part? = some q) (ne : p ≠ q) :
    Function.Commute a.onTheme b.onTheme := by
  by_cases about : p = .theme
  · rw [onTheme_elsewhere (a := b) (by simp [hb, ← about, ne.symm])]
    exact .id_right
  · rw [onTheme_elsewhere (a := a) (by simp [ha, about])]
    exact .id_left

/-- Edits of different parts lead to the same state in either order. -/
theorem step_comm (initial : Profile) (distinct : s.Distinct) (independent : Independent a b) :
    step initial (step initial s a) b = step initial (step initial s b) a := by
  obtain ⟨p, q, ha, hb, ne⟩ := independent
  rw [step_parts initial hb (step_distinct initial ha distinct), step_parts initial ha distinct,
    step_parts initial ha (step_distinct initial hb distinct), step_parts initial hb distinct]
  dsimp only
  rw [Option.map_map, Option.map_map, (onTemplate_comm ha hb ne).comp_eq,
    onProfile_comm ha hb ne, onTheme_comm ha hb ne]

/-! ## Rejected edits -/

/-- The section that an id leads to, but for its order. -/
def leadsTo (s : State) (id : String) : Option Section :=
  (s.template.bind (·.find? id)).map Section.unnumbered

/-- An edit of a part leaves what the edits of other parts look at. -/
theorem leadsTo_step {id : String} (initial : Profile) (about : a.part? = some p)
    (ne : p ≠ .sections id) (distinct : s.Distinct) :
    leadsTo (step initial s a) id = leadsTo s id := by
  rw [step_parts initial about distinct]
  unfold leadsTo
  cases template : s.template with
  | none => rfl
  | some t =>
    show ((a.onTemplate t).find? id).map _ = (t.find? id).map _
    cases p with
    | sections id' =>
      obtain ⟨edit, inPlace, edits, -⟩ := onTemplate_section about
      rw [edits, Template.find?_mapSections (inPlace.inPlace id').id]
      cases found : t.find? id with
      | none => rfl
      | some old =>
        have elsewhere : old.id ≠ id' := fun here =>
          ne (congrArg Part.sections (here.symm.trans (Template.find?_id found).2))
        rw [Option.map_some, Section.editedAt_of_ne elsewhere]
    | order =>
      obtain ⟨id', m, rfl⟩ := onTemplate_order about
      exact Template.find?_moveSection (distinct t template) id id' m
    | profile => rw [onTemplate_elsewhere (.inl about), id_eq]
    | theme => rw [onTemplate_elsewhere (.inr about), id_eq]

theorem profile_step (initial : Profile) (about : a.part? = some p) (ne : p ≠ .profile)
    (distinct : s.Distinct) : (step initial s a).profile = s.profile := by
  rw [step_parts initial about distinct, onProfile_elsewhere (by simp [about, ne])]
  rfl

/-- What an edit looks at is all that makes it rejected. -/
theorem Rejected.of_alike {s' : State} {issues : List Issue} (h : a.Rejected s issues)
    (found : ∀ id, a.part? = some (.sections id) → leadsTo s' id = leadsTo s id)
    (profile : a.part? = some .profile → s'.profile = s.profile) : a.Rejected s' issues := by
  cases h with
  | @config t id old changes issues template leads unread =>
    have same := found id rfl
    unfold leadsTo at same
    rw [template, Option.bind_some, leads, Option.map_some, Option.map_eq_some_iff] at same
    obtain ⟨old', leads', same⟩ := same
    obtain ⟨t', template', leads'⟩ := Option.bind_eq_some_iff.1 leads'
    refine .config template' leads' ?_
    -- the order of a section has no part in how its config reads
    show old'.unnumbered.kind.readConfig ((old'.unnumbered.kind.writeConfig
      old'.unnumbered.config).merge changes) = .bad issues
    rw [same]
    exact unread
  | profile unread => exact .profile (profile rfl ▸ unread)

/-- What a flush says of an edit. -/
def said (initial : Profile) (s : State) (a : Action) : List String :=
  match a.apply initial s with
  | .error (.invalid issues) => [a.rejection issues]
  | _ => []

theorem said_congr {initial : Profile} {s' : State} (object : a.LaysObject)
    (h : ∀ issues, a.Rejected s issues ↔ a.Rejected s' issues) :
    said initial s' a = said initial s a := by
  unfold said
  cases next : a.apply initial s with
  | error refusal =>
    cases refusal with
    | invalid issues =>
      rw [((h issues).1 (rejected_of_apply next)).apply_eq object]
    | notObject => exact absurd next (apply_object object initial s)
  | ok _ =>
    cases next' : a.apply initial s' with
    | error refusal =>
      cases refusal with
      | invalid issues =>
        rw [((h issues).2 (rejected_of_apply next')).apply_eq object] at next
        cases next
      | notObject => rfl
    | ok _ => rfl

/-- An edit makes no difference to whether one of another part is rejected, and for what. -/
theorem said_step (initial : Profile) (object : a.LaysObject) (ha : a.part? = some p)
    (hb : b.part? = some q) (ne : p ≠ q) (distinct : s.Distinct) :
    said initial (step initial s b) a = said initial s a := by
  have found (id : String) (about : a.part? = some (.sections id)) :
      leadsTo (step initial s b) id = leadsTo s id := by
    refine leadsTo_step initial hb (fun same => ne ?_) distinct
    rw [same, ← Option.some_inj, ← ha, about]
  have profile (about : a.part? = some .profile) : (step initial s b).profile = s.profile := by
    refine profile_step initial hb (fun same => ne ?_) distinct
    rw [same, ← Option.some_inj, ← ha, about]
  refine said_congr object fun issues => ⟨fun h => h.of_alike found profile, fun h => ?_⟩
  exact h.of_alike (fun id about => (found id about).symm) fun about => (profile about).symm

end Action

namespace Store

open ProfileReadme.Action

variable {initial : Profile} {s : Store} {a b : Action}

/-! ## Flushes -/

theorem applyAll_cons (object : a.LaysObject) (rest : List Action) (p : Applied) :
    applyAll initial (a :: rest) p =
      applyAll initial rest ⟨step initial p.state a, p.rejections ++ said initial p.state a⟩ := by
  rw [applyAll, step, said]
  cases next : a.apply initial p.state with
  | ok s' =>
    dsimp only
    rw [List.append_nil]
  | error refusal =>
    cases refusal with
    | invalid issues => rfl
    | notObject => exact absurd next (apply_object object initial p.state)

/-- Edits are left over for those that come after them too. -/
theorem applyAll_append (initial : Profile) : ∀ (as bs : List Action) (p : Applied),
    applyAll initial (as ++ bs) p =
      match applyAll initial as p with
      | (p', none) => applyAll initial bs p'
      | (p', some left) => (p', some (left ++ bs))
  | [], bs, p => rfl
  | a :: as, bs, p => by
    rw [List.cons_append, applyAll, applyAll]
    split
    · exact applyAll_append initial as bs _
    · exact applyAll_append initial as bs _
    · rfl

/-- Two ways to go through a queue that come to the same state, and say the same in some order. -/
inductive Alike : Applied × Option (List Action) → Applied × Option (List Action) → Prop
  | cut (p : Applied) (left left' : List Action) : Alike (p, some left) (p, some left')
  | through (state : State) {said said' : List String} (perm : said'.Perm said) :
      Alike (⟨state, said⟩, none) (⟨state, said'⟩, none)

theorem applyAll_comm {state : State} (distinct : state.Distinct) (ha : a.LaysObject)
    (hb : b.LaysObject) (independent : a.Independent b) (said : List String) :
    Alike (applyAll initial [a, b] ⟨state, said⟩) (applyAll initial [b, a] ⟨state, said⟩) := by
  have same := step_comm initial distinct independent
  obtain ⟨p, q, aboutA, aboutB, ne⟩ := independent
  rw [applyAll_cons ha, applyAll_cons hb, applyAll_cons hb, applyAll_cons ha]
  dsimp only
  rw [said_step initial ha aboutA aboutB ne distinct,
    said_step initial hb aboutB aboutA ne.symm distinct, same, List.append_assoc,
    List.append_assoc]
  exact .through _ (.append_left said List.perm_append_comm)

/-- Two flushes that end alike: with one result, and with one state but for the order in which the
rejected edits are named. -/
structure EndAlike (f f' : Flushed) : Prop where
  result : f'.result = f.result
  state : f'.store.state = { f.store.state with editErrors := f'.store.state.editErrors }
  editErrors : f'.store.state.editErrors.Perm f.store.state.editErrors

theorem flush_alike {queue queue' : List Action}
    (h : Alike (applyAll s.initial queue { state := s.state })
      (applyAll s.initial queue' { state := s.state })) :
    EndAlike { s with queue, renderDue := true }.flush
      { s with queue := queue', renderDue := true }.flush := by
  unfold flush
  dsimp only
  generalize applyAll s.initial queue { state := s.state } = gone at h
  generalize applyAll s.initial queue' { state := s.state } = gone' at h
  cases h with
  | cut p left left' => exact ⟨rfl, rfl, .refl _⟩
  | through state perm =>
    dsimp only
    rw [if_pos rfl, if_pos rfl]
    cases resultOf state with
    | bad issues => exact ⟨rfl, rfl, .refl _⟩
    | ok result =>
      refine ⟨rfl, ?_, ?_⟩
      · rw [tell_state, tell_state]
      · rw [tell_state, tell_state]
        exact perm

theorem act_part {p : Part} (about : a.part? = some p) (s : Store) :
    s.act a = { s with queue := s.queue ++ [a], renderDue := true } := by
  cases a with
  | reset => cases about
  | _ => rfl

/-- In a store whose queue leads to a template without repeated ids, two edits of different parts
come to the same in either order: a flush then gives the same result, or fails for the same reason,
and the same template, profile and colors; the same edits are rejected for the same issues. -/
theorem flush_comm (distinct : ∀ t ∈ (s.after s.queue).template, (t.sections.map (·.id)).Nodup)
    (ha : a.LaysObject) (hb : b.LaysObject) (independent : a.Independent b) :
    EndAlike ((s.act a).act b).flush ((s.act b).act a).flush := by
  have ⟨p, q, aboutA, aboutB, _⟩ := independent
  rw [act_part aboutA, act_part aboutB, act_part aboutA, act_part aboutB]
  refine flush_alike ?_
  dsimp only
  rw [List.append_assoc, List.append_assoc, applyAll_append, applyAll_append]
  have gets := applyAll_gets s.initial s.queue { state := s.state }
  generalize applyAll s.initial s.queue { state := s.state } = gone at gets
  cases gets with
  | upTo rejections split refused => exact .cut _ _ _
  | through rejections => exact applyAll_comm distinct ha hb independent rejections

/-- A spacer is given a height that is none, and another one goes past it. -/
theorem tiedTemplate_commutes :
    let s := (start {}).act (.setTemplate tiedTemplate)
    let stretch := Action.updateSectionConfig "a" (.obj [("height", .text "much")])
    let move := Action.moveSection "b" .up
    EndAlike ((s.act stretch).act move).flush ((s.act move).act stretch).flush ∧
      ((s.act move).act stretch).flush.store.state.editErrors =
        ["update_section_config: 1 validation error(s)"] := by
  intro s stretch move
  refine ⟨flush_comm ?_ ⟨_, rfl⟩ trivial ⟨.sections "a", .order, rfl, rfl, nofun⟩, by cbv⟩
  rintro t ⟨⟩
  decide

end Store

end ProfileReadme
