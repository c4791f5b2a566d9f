/-
Edits that are rejected. A flush applies what waits from first to last. An edit whose outcome does
not read is passed over: the state stays as it was, the edits after it apply all the same, and one
entry says how many issues there are. A render puts its entries in the place of those of the render
before; a flush without a render leaves these standing.
-/
import ProfileReadme.Proofs.Store.Framing
import ProfileReadme.Proofs.Store.Serving

namespace ProfileReadme

namespace Action

/-- With the changes of an edit laid over it, the record that the edit is about does not read. -/
inductive Rejected (s : State) : Action → List Issue → Prop
  | config {t : Template} {id : String} {old : Section} {changes : Value} {issues : List Issue}
      (template : s.template = some t) (found : t.find? id = some old)
      (unread : old.kind.readConfig ((old.kind.writeConfig old.config).merge changes) =
        .bad issues) :
      Rejected s (.updateSectionConfig id changes) issues
  | profile {changes : Value} {issues : List Issue}
      (unread : Profile.read (s.profile.write.merge changes) = .bad issues) :
      Rejected s (.updateProfile changes) issues

variable {initial : Profile} {s : State} {a : Action} {issues : List Issue}

theorem Rejected.apply_eq (h : a.Rejected s issues) (object : a.LaysObject) :
    a.apply initial s = .error (.invalid issues) := by
  cases h with
  | config template found unread =>
    obtain ⟨fields, rfl⟩ := object
    show onSection _ _ s = _
    rw [onSection, template]
    dsimp only
    rw [found]
    dsimp only
    rw [reconfigured_object, unread]
    rfl
  | profile unread =>
    obtain ⟨fields, rfl⟩ := object
    rw [apply_updateProfile, reread, unread]
    rfl

theorem onSection_eq_error {id : String} {edit : Section → Except Refusal Section}
    {refusal : Refusal} (h : onSection id edit s = .error refusal) :
    ∃ t old, s.template = some t ∧ t.find? id = some old ∧ edit old = .error refusal := by
  unfold onSection at h
  split at h
  · cases h
  next t template =>
    split at h
    · cases h
    next old found =>
      refine ⟨t, old, template, found, ?_⟩
      cases edited : edit old with
      | ok new => rw [edited] at h; cases h
      | error refusal' => rw [edited] at h; cases h; rfl

/-- Only an edit that brings changes is rejected, for what is wrong with its outcome. -/
theorem rejected_of_apply (h : a.apply initial s = .error (.invalid issues)) :
    a.Rejected s issues := by
  cases a with
  | toggleSection id =>
    obtain ⟨t, old, -, -, toggled⟩ := onSection_eq_error h
    cases toggled
  | updateSectionConfig id changes =>
    obtain ⟨t, old, template, found, refused⟩ := onSection_eq_error h
    refine .config template found ?_
    cases changes with
    | object fields =>
      rw [reconfigured_object] at refused
      split at refused
      · cases refused
      next unread => cases refused; exact unread
    | _ => cases refused
  | updateProfile changes =>
    refine .profile ?_
    rw [apply_updateProfile] at h
    cases changes with
    | object fields =>
      rw [reread] at h
      split at h
      · cases h
      next unread => cases h; exact unread
    | _ => cases h
  | _ => cases h

end Action

namespace Store

/-- Edits one after the other, each made to the state that those before it lead to, with an entry
for each one that is rejected. -/
inductive Folds (initial : Profile) : State → List Action → State → List String → Prop
  | done (s : State) : Folds initial s [] s []
  | applied {s s' s'' : State} {a : Action} {as : List Action} {entries : List String}
      (next : a.apply initial s = .ok s') (accepted : ∀ issues, ¬a.Rejected s issues)
      (rest : Folds initial s' as s'' entries) : Folds initial s (a :: as) s'' entries
  | rejected {s s' : State} {a : Action} {as : List Action} {issues : List Issue}
      {entries : List String} (rejected : a.Rejected s issues)
      (rest : Folds initial s as s' entries) :
      Folds initial s (a :: as) s' (a.rejection issues :: entries)

/-- All edits of a queue are gone through, and the rejected ones are named in order. -/
theorem applyAll_folds (initial : Profile) : ∀ {queue : List Action} (p : Applied),
    (∀ a ∈ queue, a.LaysObject) → ∃ s entries, Folds initial p.state queue s entries ∧
      applyAll initial queue p = (⟨s, p.rejections ++ entries⟩, none)
  | [], p, _ => ⟨p.state, [], .done _, by rw [List.append_nil]; rfl⟩
  | a :: rest, p, objects => by
    obtain ⟨object, objects⟩ := List.forall_mem_cons.1 objects
    unfold applyAll
    cases next : a.apply initial p.state with
    | ok s' =>
      have accepted (issues : List Issue) (rejected : a.Rejected p.state issues) : False := by
        rw [rejected.apply_eq object] at next
        cases next
      obtain ⟨s, entries, folds, gone⟩ := applyAll_folds initial { p with state := s' } objects
      exact ⟨s, entries, .applied next accepted folds, gone⟩
    | error refusal =>
      cases refusal with
      | notObject => exact absurd next (Action.apply_object object initial p.state)
      | invalid issues =>
        obtain ⟨s, entries, folds, gone⟩ := applyAll_folds initial
          { p with rejections := p.rejections ++ [a.rejection issues] } objects
        refine ⟨s, a.rejection issues :: entries,
          .rejected (Action.rejected_of_apply next) folds, gone.trans ?_⟩
        rw [List.append_assoc]
        rfl

/-- What a flush makes of edits that fold to a state with entries: it takes all of them from the
queue and comes to that state. If a render is due then the entries are what is said of rejected
edits from then on; without one nothing was waiting, and all is left as it was. A flush fails for
colors that do not exist only. -/
structure FoldsTo (s : Store) (f : Flushed) (state : State) (entries : List String) : Prop where
  reaches : f.store.state.bare = state.bare
  empties : f.store.queue = Action.survivors (answers f.store.state f.told)
  reports : s.renderDue = true → ∀ r, f.result = .ok r → f.store.state.editErrors = entries
  idle : s.renderDue = false → s.queue = [] ∧ f = ⟨s, .ok s.state.result, []⟩
  returns : state.Themed ∨ state.template = none → ∃ r, f.result = .ok r

/-- However edits that are rejected and others alternate in a queue, and whoever listens: a flush
makes each edit in order to the state that those before it lead to, and says of all rejected ones,
and of no others, what is wrong with them. -/
theorem flush_folds {s : Store} (attentive : s.Attentive)
    (objects : ∀ a ∈ s.queue, a.LaysObject) :
    ∃ state entries, Folds s.initial s.state s.queue state entries ∧
      s.FoldsTo s.flush state entries := by
  obtain ⟨state, entries, folds, gone⟩ :=
    applyAll_folds s.initial { state := s.state } objects
  refine ⟨state, entries, folds, ?_⟩
  unfold flush
  rw [gone]
  dsimp only
  split
  next due =>
    have notIdle : s.renderDue ≠ false := by simp [due]
    cases shown : resultOf state with
    | bad issues =>
      obtain ⟨template, colorless⟩ := resultOf_bad shown
      refine ⟨rfl, rfl, fun _ r returned => (by cases returned),
        fun idle => absurd idle notIdle, ?_⟩
      rintro (themed | none)
      · exact absurd themed colorless
      · simp [none] at template
    | ok result =>
      refine ⟨?_, ?_, fun _ r _ => ?_, fun idle => absurd idle notIdle, fun _ => ⟨result, rfl⟩⟩
      · rw [tell_state]
        rfl
      · have nothing : Action.survivors [] = [] := rfl
        refine (tell_queue _ nothing.symm).trans ?_
        rw [tell_state]
        rfl
      · rw [tell_state]
        rfl
  next notDue =>
    have notDue : s.renderDue = false := Bool.eq_false_iff.2 notDue
    have empty : s.queue = [] := attentive.resolve_left (by simp [notDue])
    have same : state = s.state := by
      rw [empty] at folds
      cases folds
      rfl
    subst same
    refine ⟨rfl, rfl, fun due => ?_, fun _ => ⟨empty, ?_⟩, fun _ => ⟨_, rfl⟩⟩
    · simp [notDue] at due
    · rw [← empty]

/-- Edits of a draft and of a profile, of which three have outcomes that do not read. -/
def mixedQueue : List Action :=
  [.setTemplate draft, .updateSectionConfig "about" (.obj [("show_emoji", .text "often")]),
    .toggleSection "about", .updateProfile (.obj [("github_username", .text "me")]),
    .updateProfile (.obj [("github_username", .null), ("personal", .int 5)]),
    .moveSection "nobody" .up, .updateProfile (.obj [("personal", .obj [("bio", .int 1)])])]

theorem mixedQueue_folds : ∃ state,
    Folds {} {} mixedQueue state ["update_section_config: 1 validation error(s)",
      "update_profile: 2 validation error(s)", "update_profile: 1 validation error(s)"] ∧
    state.profile.githubUsername = "me" := by
  have objects : ∀ a ∈ (mixedQueue.foldl act (start {})).queue, a.LaysObject := by
    simp [mixedQueue, start, act, Action.LaysObject, Value.obj]
  obtain ⟨state, entries, folds, foldsTo⟩ := flush_folds (.inl rfl) objects
  have themed : state.Themed :=
    ⟨.system, (congrArg State.theme foldsTo.reaches).symm.trans rfl⟩
  obtain ⟨r, returned⟩ := foldsTo.returns (.inl themed)
  have reported := foldsTo.reports rfl r returned
  have said : entries = ["update_section_config: 1 validation error(s)",
      "update_profile: 2 validation error(s)", "update_profile: 1 validation error(s)"] :=
    reported.symm.trans rfl
  subst said
  exact ⟨state, folds, (congrArg (·.profile.githubUsername) foldsTo.reaches).symm.trans rfl⟩

/-- What is said of a rejected edit is said still after a flush that nothing was waiting for. -/
theorem rejection_outlives_flush : ∃ s : Store,
    s = ((start {}).act (.updateProfile (.obj [("github_username", .int 5)]))).flush.store ∧
    s.queue = [] ∧ s.flush.result = .ok none ∧
    Folds s.initial s.state s.queue s.flush.store.state [] ∧
    s.flush.store.state.editErrors = ["update_profile: 1 validation error(s)"] :=
  ⟨_, rfl, rfl, rfl, .done _, rfl⟩

end Store

end ProfileReadme
