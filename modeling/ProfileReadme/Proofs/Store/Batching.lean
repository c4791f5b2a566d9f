/-
Batching is invisible: when the flushes come makes no difference to where a session ends, as long as
the last call is a flush. A queue that waits is as good as one that has been applied, since a flush
goes to the state that the queue leads to.
-/
import ProfileReadme.Proofs.Store.Ends

namespace ProfileReadme

/-! ## Sessions -/

/-- A listener that asks for nothing when it is told. -/
def Listener.Silent (l : Listener) : Prop := ∀ state, l.asks state = []

/-- What a caller does with a store. -/
inductive Call where
  | ask (r : Request)
  | flush

namespace Call

/-- The edit that a call asks for. -/
def action? : Call → Option Action
  | .ask (.act a) => some a
  | _ => none

/-- Edits have the right types, and listeners stay silent. -/
def Plain : Call → Prop
  | .ask (.act a) => a.Typed
  | .ask (.subscribe l) => l.Silent
  | _ => True

end Call

namespace Store

/-- A new session that begins with a profile. -/
def start (initial : Profile) : Store := { initial }

def call (s : Store) : Call → Store
  | .ask r => s.ask r
  | .flush => s.flush.store

def run (s : Store) (calls : List Call) : Store := calls.foldl call s

/-- The state that the queue leads to, without a render. -/
def destination (s : Store) : State := (s.queue.foldl (Action.step s.initial) s.state).bare

/-- What holds between the calls of a session: colors exist, what waits has the right types,
listeners are silent, and without a due render nothing waits and the result is up to date. -/
structure Sound (s : Store) : Prop where
  themed : s.state.Themed
  typed : ∀ a ∈ s.queue, a.Typed
  silent : ∀ l ∈ s.listeners, l.Silent
  settled : s.renderDue = false → s.queue = [] ∧ resultOf s.state = .ok s.state.result

theorem start_sound (initial : Profile) : (start initial).Sound :=
  ⟨⟨.system, rfl⟩, fun a ha => (by cases ha), fun l hl => (by cases hl), fun _ => ⟨rfl, rfl⟩⟩

/-! ## Flushes -/

theorem asks_silent (state : State) : ∀ {ls : List Listener}, (∀ l ∈ ls, l.Silent) →
    ∀ s : Store, ls.foldl (fun s l => (l.asks state).foldl ask s) s = s
  | [], _, _ => rfl
  | l :: ls, h, s => by
    obtain ⟨hl, hls⟩ := List.forall_mem_cons.1 h
    rw [List.foldl_cons, hl state]
    exact asks_silent state hls s

theorem tell_silent {ls : List Listener} (h : ∀ l ∈ ls, l.Silent) (s : Store) : s.tell ls = s :=
  asks_silent s.state h s

/-- What a flush of a sound store gives: it returns, with the result of the state that the queue
led to. -/
structure FlushedTo (s : Store) (f : Flushed) : Prop where
  sound : f.store.Sound
  initial : f.store.initial = s.initial
  emptied : f.store.queue = []
  state : f.store.state.bare = s.destination
  returned : f.result = .ok f.store.state.result
  shown : resultOf f.store.state = .ok f.store.state.result

theorem flush_sound {s : Store} (h : s.Sound) : s.FlushedTo s.flush := by
  obtain ⟨c, hc⟩ : (s.after s.queue).Themed := Action.steps_themed s.initial h.typed h.themed
  have shown := resultOf_themed hc
  have ends := s.flush_ends
  generalize s.flush = f at ends ⊢
  cases ends with
  | @cut taken left a split refused =>
    have typed : a.Typed := h.typed a (by simp [split])
    exact absurd refused (Action.apply_typed typed _ _)
  | idle notDue =>
    -- without a due render nothing waits, so the queue leads nowhere
    obtain ⟨empty, same⟩ := h.settled notDue
    have stays : s.after s.queue = s.state := by rw [after, empty]; rfl
    rw [stays]
    exact ⟨⟨h.themed, fun a ha => (by cases ha), h.silent, fun _ => ⟨rfl, same⟩⟩, rfl, rfl,
      congrArg State.bare stays.symm, rfl, same⟩
  | colorless due failed =>
    rw [shown] at failed
    cases failed
  | rendered editErrors due shown' =>
    rw [shown] at shown'
    cases shown'
    rw [tell_silent h.silent]
    exact ⟨⟨⟨c, hc⟩, fun a ha => (by cases ha), h.silent, fun _ => ⟨rfl, shown⟩⟩, rfl, rfl, rfl,
      rfl, shown⟩

/-! Renders are counted by flushes alone -/

theorem ask_renders (s : Store) (r : Request) : (s.ask r).renders = s.renders := by
  cases r with
  | act a => cases a <;> rfl
  | subscribe l => rfl
  | unsubscribe name => rfl

theorem tell_renders (ls : List Listener) (s : Store) : (s.tell ls).renders = s.renders :=
  tell_induction (p := fun s' => s'.renders = s.renders)
    (fun s' r h => (ask_renders s' r).trans h) ls rfl

/-- A flush renders at most once, whatever was queued and whatever the listeners ask for. -/
theorem flush_renders (s : Store) : s.flush.store.renders ≤ s.renders + 1 := by
  have ends := s.flush_ends
  generalize s.flush = f at ends ⊢
  cases ends with
  | cut | idle | colorless => exact Nat.le_succ _
  | rendered editErrors due shown =>
    rw [tell_renders]
    dsimp only
    split
    · exact Nat.le_refl _
    · exact Nat.le_succ _

/-! ## Calls -/

/-- The edits that calls ask for, in order. -/
def actions (calls : List Call) : List Action := calls.filterMap Call.action?

theorem act_sound {s : Store} (h : s.Sound) {a : Action} (ha : a.Typed) : (s.act a).Sound := by
  cases a with
  | reset =>
    exact ⟨h.themed, List.forall_mem_singleton.2 trivial, h.silent, fun due => by cases due⟩
  | _ =>
    exact ⟨h.themed, List.forall_mem_append.2 ⟨h.typed, List.forall_mem_singleton.2 ha⟩, h.silent,
      fun due => by cases due⟩

/-- An edit that is queued leads on from where the queue led; a reset does so from anywhere. -/
theorem act_destination (s : Store) (a : Action) :
    (s.act a).destination = Action.step s.initial s.destination a := by
  unfold destination
  rw [Action.step_bare]
  cases a with
  | reset => rfl
  | _ =>
    show (List.foldl _ s.state (s.queue ++ [_])).bare = _
    rw [List.foldl_append]
    rfl

theorem call_sound {s : Store} (h : s.Sound) {c : Call} (hc : c.Plain) : (s.call c).Sound := by
  cases c with
  | flush => exact (flush_sound h).sound
  | ask r =>
    cases r with
    | act a => exact act_sound h hc
    | subscribe l =>
      exact ⟨h.themed, h.typed, List.forall_mem_append.2 ⟨h.silent, List.forall_mem_singleton.2 hc⟩,
        h.settled⟩
    | unsubscribe name =>
      exact ⟨h.themed, h.typed, fun l hl => h.silent l (List.mem_filter.1 hl).1, h.settled⟩

theorem call_initial {s : Store} (h : s.Sound) (c : Call) : (s.call c).initial = s.initial := by
  cases c with
  | flush => exact (flush_sound h).initial
  | ask r =>
    cases r with
    | act a => cases a <;> rfl
    | subscribe l => rfl
    | unsubscribe name => rfl

/-- A call leads on by the edit that it asks for. -/
theorem call_destination {s : Store} (h : s.Sound) (c : Call) :
    (s.call c).destination = c.action?.toList.foldl (Action.step s.initial) s.destination := by
  cases c with
  | flush =>
    have flushed := flush_sound h
    show (s.flush.store.queue.foldl _ s.flush.store.state).bare = s.destination
    rw [flushed.emptied]
    exact flushed.state
  | ask r =>
    cases r with
    | act a => exact act_destination s a
    | subscribe l => rfl
    | unsubscribe name => rfl

/-- A run stays sound, and leads on by the edits that were asked for, wherever the flushes are. -/
theorem run_spec : ∀ {calls : List Call} {s : Store}, s.Sound → (∀ c ∈ calls, c.Plain) →
    (s.run calls).Sound ∧
      (s.run calls).destination = (actions calls).foldl (Action.step s.initial) s.destination
  | [], s, h, _ => ⟨h, rfl⟩
  | c :: calls, s, h, plain => by
    obtain ⟨hc, hcalls⟩ := List.forall_mem_cons.1 plain
    obtain ⟨sound, destination⟩ := run_spec (call_sound h hc) hcalls
    refine ⟨sound, ?_⟩
    show ((s.call c).run calls).destination = _
    rw [destination, call_initial h, call_destination h, ← List.foldl_append]
    unfold actions
    -- a call that is no edit adds nothing on either side
    cases ha : c.action? with
    | none => rw [List.filterMap_cons_none ha]; rfl
    | some a => rw [List.filterMap_cons_some ha]; rfl

/-! ## Any schedule of flushes -/

/-- A flush returns, and leaves a state with the lenient render of its template for its profile in
its colors. -/
structure EndsAt (f : Flushed) (t? : Option Template) (p : Profile) (c : ColorScheme) : Prop where
  template : f.store.state.template = t?
  profile : f.store.state.profile = p
  theme : f.store.state.theme = Named.write c
  result : f.store.state.result =
    t?.map fun t => Render.render .usual t p (liveOptions (some c))
  returned : f.result = .ok f.store.state.result

theorem flush_endsAt {s : Store} (h : s.Sound) {c : ColorScheme}
    (hc : s.destination.theme = Named.write c) :
    EndsAt s.flush s.destination.template s.destination.profile c := by
  have flushed := flush_sound h
  have template : s.flush.store.state.template = s.destination.template :=
    by rw [← flushed.state]; rfl
  have profile : s.flush.store.state.profile = s.destination.profile :=
    by rw [← flushed.state]; rfl
  have theme : s.flush.store.state.theme = Named.write c :=
    (congrArg State.theme flushed.state).trans hc
  refine ⟨template, profile, theme, ?_, flushed.returned⟩
  have shown := flushed.shown
  rw [resultOf_themed theme, template, profile] at shown
  exact (Checked.ok.inj shown).symm

/-- Two sessions with the same edits that end with a flush end alike, wherever else they flush and
whoever listens in silence: with the same template, profile and colors, and the lenient render of
these, which the last flush returns. And no flush renders more than once. -/
theorem flush_schedule_invisible (initial : Profile) {calls calls' : List Call}
    (plain : ∀ c ∈ calls, c.Plain) (plain' : ∀ c ∈ calls', c.Plain)
    (same : actions calls = actions calls') :
    ∃ (template : Option Template) (profile : Profile) (theme : ColorScheme),
      EndsAt ((start initial).run calls).flush template profile theme ∧
      EndsAt ((start initial).run calls').flush template profile theme ∧
      ∀ s : Store, s.flush.store.renders ≤ s.renders + 1 := by
  obtain ⟨sound, destination⟩ := run_spec (start_sound initial) plain
  obtain ⟨sound', destination'⟩ := run_spec (start_sound initial) plain'
  have alike :
      ((start initial).run calls').destination = ((start initial).run calls).destination := by
    rw [destination, destination', same]
  obtain ⟨c, hc⟩ := (flush_sound sound).sound.themed
  have hc : ((start initial).run calls).destination.theme = Named.write c :=
    (congrArg State.theme (flush_sound sound).state).symm.trans hc
  refine ⟨_, _, c, flush_endsAt sound hc, ?_, flush_renders⟩
  have ends := flush_endsAt sound' (alike ▸ hc)
  rwa [alike] at ends

def draft : Template :=
  { metadata := { id := "t", name := "T" },
    sections := [{ id := "about", kind := .about, data := { content := "Hi" }, config := {} }] }

/-- Edits of a draft that are flushed at the end only. -/
def patientCalls : List Call :=
  [.ask (.act (.setTemplate draft)), .ask (.act (.toggleSection "about")),
    .ask (.act (.setPreviewTheme (Named.write ColorScheme.dark))),
    .ask (.act (.toggleSection "about"))]

/-- The same edits, flushed in between while someone listens. -/
def hastyCalls : List Call :=
  [.ask (.subscribe (.mk "log" fun _ => [])), .ask (.act (.setTemplate draft)), .flush,
    .ask (.act (.toggleSection "about")), .flush, .flush,
    .ask (.act (.setPreviewTheme (Named.write ColorScheme.dark))),
    .ask (.act (.toggleSection "about"))]

theorem draft_flushed_alike :
    ((start {}).run patientCalls).flush.store.state.result =
        ((start {}).run hastyCalls).flush.store.state.result ∧
      ((start {}).run patientCalls).flush.store.state.template =
        ((start {}).run hastyCalls).flush.store.state.template := by
  have dark : ∃ c : ColorScheme, Named.write ColorScheme.dark = Named.write c := ⟨.dark, rfl⟩
  have plain : ∀ c ∈ patientCalls, c.Plain := by
    simp [patientCalls, Call.Plain, Action.Typed, dark]
  have plain' : ∀ c ∈ hastyCalls, c.Plain := by
    simp [hastyCalls, Call.Plain, Action.Typed, Listener.Silent, Listener.asks, dark]
  obtain ⟨t, p, c, ends, ends', -⟩ := flush_schedule_invisible {} plain plain' rfl
  exact ⟨ends.result.trans ends'.result.symm, ends.template.trans ends'.template.symm⟩

end Store

end ProfileReadme
