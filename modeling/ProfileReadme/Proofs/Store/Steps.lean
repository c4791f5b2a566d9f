/-
Edits as steps between states, all of which have a next state: a rejected edit stays where it is.
Nothing an edit does depends on the last render or on what was said of earlier edits.
-/
import ProfileReadme.Store.Basic

namespace ProfileReadme

open Store

/-! ## States without their render -/

namespace State

/-- A state but for its render, and for what is said of rejected edits. -/
def bare (s : State) : State := { s with result := none, editErrors := [] }

/-- The colors asked for exist. -/
def Themed (s : State) : Prop := ∃ c : ColorScheme, s.theme = Named.write c

end State

/-- In colors that exist a state has a result: the lenient render of its template, if it has one. -/
theorem Store.resultOf_themed {s : State} {c : ColorScheme} (h : s.theme = Named.write c) :
    resultOf s = .ok (s.template.map fun t =>
      Render.render .usual t s.profile (liveOptions (some c))) := by
  unfold resultOf
  cases s.template with
  | none => rfl
  | some t =>
    have read : Reader.optional Named.read s.theme = .ok (some c) := by
      rw [h]
      show some <$> Named.read (Named.write c) = _
      rw [Named.read_write]
      rfl
    unfold renderLive
    rw [read]
    rfl

/-! ## Steps -/

namespace Action

/-- What the types of the interface promise: changes are objects, and colors exist. -/
def Typed : Action → Prop
  | .updateSectionConfig _ changes => ∃ fields, changes = .object fields
  | .updateProfile changes => ∃ fields, changes = .object fields
  | .setPreviewTheme theme => ∃ c : ColorScheme, theme = Named.write c
  | _ => True

/-- The changes that an edit brings, if it brings any, are an object. -/
def LaysObject : Action → Prop
  | .updateSectionConfig _ changes => ∃ fields, changes = .object fields
  | .updateProfile changes => ∃ fields, changes = .object fields
  | _ => True

/-- The state after an edit. A rejected edit leaves the state as it was. -/
def step (initial : Profile) (s : State) (a : Action) : State :=
  match a.apply initial s with
  | .ok s' => s'
  | .error _ => s

theorem onSection_bare (id : String) (edit : Section → Except Refusal Section) (s : State) :
    onSection id edit s.bare = (onSection id edit s).map State.bare := by
  unfold onSection
  rw [show s.bare.template = s.template from rfl]
  cases s.template with
  | none => rfl
  | some t =>
    dsimp only
    cases t.find? id with
    | none => rfl
    | some old =>
      dsimp only
      cases edit old <;> rfl

theorem apply_updateProfile (initial : Profile) (changes : Value) (s : State) :
    apply initial (.updateProfile changes) s =
      (reread Profile.read s.profile.write changes).map fun p => { s with profile := p } := rfl

theorem apply_bare (initial : Profile) (a : Action) (s : State) :
    a.apply initial s.bare = (a.apply initial s).map State.bare := by
  cases a with
  | toggleSection id => exact onSection_bare id _ s
  | updateSectionConfig id changes => exact onSection_bare id _ s
  | updateProfile changes =>
    rw [apply_updateProfile, apply_updateProfile]
    show (reread Profile.read s.profile.write changes).map _ = _
    cases reread Profile.read s.profile.write changes <;> rfl
  | _ => rfl

theorem step_bare (initial : Profile) (s : State) (a : Action) :
    step initial s.bare a = (step initial s a).bare := by
  unfold step
  rw [apply_bare]
  cases a.apply initial s <;> rfl

/-! ## Edits of the right types -/

theorem reread_object (read : Reader α) (record : Value) (fields : List (Key × Value)) :
    reread read record (.object fields) ≠ .error .notObject := by
  unfold reread
  dsimp only
  split <;> intro h <;> cases h

theorem map_ne_notObject {x : Except Refusal α} (h : x ≠ .error .notObject) (f : α → β) :
    x.map f ≠ .error .notObject := by
  cases x with
  | ok a => intro hn; cases hn
  | error e => intro hn; cases hn; exact h rfl

theorem onSection_ne {id : String} {edit : Section → Except Refusal Section}
    (h : ∀ old, edit old ≠ .error .notObject) (s : State) :
    onSection id edit s ≠ .error .notObject := by
  unfold onSection
  split
  · intro h; cases h
  · split
    · intro h; cases h
    · exact map_ne_notObject (h _) _

/-- An edit whose changes are an object is applied or rejected, and does not end the queue. -/
theorem apply_object {a : Action} (h : a.LaysObject) (initial : Profile) (s : State) :
    a.apply initial s ≠ .error .notObject := by
  cases a with
  | toggleSection id => exact onSection_ne (fun old h => by cases h) s
  | updateSectionConfig id changes =>
    obtain ⟨fields, rfl⟩ := h
    exact onSection_ne (fun old => reread_object _ _ _) s
  | updateProfile changes =>
    obtain ⟨fields, rfl⟩ := h
    rw [apply_updateProfile]
    exact map_ne_notObject (reread_object _ _ _) _
  | _ => intro h; cases h

theorem Typed.laysObject {a : Action} (h : a.Typed) : a.LaysObject := by
  cases a with
  | updateSectionConfig | updateProfile => exact h
  | _ => trivial

theorem apply_typed {a : Action} (h : a.Typed) (initial : Profile) (s : State) :
    a.apply initial s ≠ .error .notObject :=
  apply_object h.laysObject initial s

theorem onSection_theme {id : String} {edit : Section → Except Refusal Section} {s s' : State}
    (h : onSection id edit s = .ok s') : s'.theme = s.theme := by
  unfold onSection at h
  split at h
  · cases h; rfl
  · split at h
    · cases h; rfl
    · rename_i old _
      cases he : edit old with
      | error e => rw [he] at h; cases h
      | ok new => rw [he] at h; cases h; rfl

/-- A step leads from colors that exist to colors that exist. -/
theorem step_themed {a : Action} (h : a.Typed) (initial : Profile) {s : State} (hs : s.Themed) :
    (step initial s a).Themed := by
  unfold step
  cases ha : a.apply initial s with
  | error e => exact hs
  | ok s' =>
    have keep : s'.theme = s.theme → s'.Themed := fun same =>
      hs.imp fun c hc => same.trans hc
    cases a with
    | setTemplate t => cases ha; exact ⟨t.styles.defaultTheme, rfl⟩
    | setPreviewTheme theme => cases ha; exact h
    | reset => cases ha; exact ⟨.system, rfl⟩
    | toggleSection id => exact keep (onSection_theme ha)
    | updateSectionConfig id changes => exact keep (onSection_theme ha)
    | updateProfile changes =>
      rw [apply_updateProfile] at ha
      cases hr : reread Profile.read s.profile.write changes with
      | error e => rw [hr] at ha; cases ha
      | ok p => rw [hr] at ha; cases ha; exact hs
    | clearTemplate => cases ha; exact hs
    | moveSection id m => cases ha; exact hs
    | setProfile p => cases ha; exact hs

theorem steps_themed (initial : Profile) : ∀ {as : List Action} {s : State},
    (∀ a ∈ as, a.Typed) → s.Themed → (as.foldl (step initial) s).Themed
  | [], _, _, hs => hs
  | a :: as, s, h, hs => by
    obtain ⟨ha, has⟩ := List.forall_mem_cons.1 h
    rw [List.foldl_cons]
    exact steps_themed initial has (step_themed ha initial hs)

end Action

end ProfileReadme
