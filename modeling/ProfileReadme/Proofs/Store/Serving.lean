/-
Listeners that ask for something while they are told. What they ask for waits: it is applied by the
next flush, with what is asked for in between, each edit once and in order, but for edits that a
later reset drops. The flush that is telling them leaves its state alone and tells all of them.
-/
import ProfileReadme.Proofs.Store.Outdated

namespace ProfileReadme

/-- An edit that drops all edits waiting before it. -/
def Action.isReset : Action → Bool
  | .reset => true
  | _ => false

/-- The edits that no later reset drops. -/
def Action.survivors : List Action → List Action
  | [] => []
  | a :: as => if as.any Action.isReset then survivors as else a :: survivors as

def Request.edit? : Request → Option Action
  | .act a => some a
  | _ => none

namespace Action

variable {as : List Action}

theorem survivors_concat (as : List Action) (a : Action) :
    survivors (as ++ [a]) = if a.isReset then [a] else survivors as ++ [a] := by
  induction as with
  | nil =>
    show [a] = _
    rw [show survivors [] = [] from rfl, List.nil_append, ite_self]
  | cons b as ih =>
    rw [List.cons_append, survivors, survivors, ih, List.any_append]
    cases ha : a.isReset with
    | true => simp [ha]
    | false =>
      simp only [List.any_cons, List.any_nil, ha, Bool.or_false, Bool.false_eq_true, if_false]
      split <;> rfl

theorem survivors_self (h : ∀ a ∈ as, a.isReset = false) : survivors as = as := by
  induction as with
  | nil => rfl
  | cons a as ih =>
    rw [List.forall_mem_cons] at h
    have none : as.any isReset = false := List.any_eq_false.2 fun b hb => by simp [h.2 b hb]
    rw [survivors, none, ih h.2]
    rfl

theorem mem_of_survives {a : Action} (h : a ∈ survivors as) : a ∈ as := by
  induction as with
  | nil => exact h
  | cons b as ih =>
    unfold survivors at h
    split at h
    · exact List.mem_cons_of_mem b (ih h)
    · exact (List.mem_cons.1 h).elim (fun same => same ▸ List.mem_cons_self ..)
        fun later => List.mem_cons_of_mem b (ih later)

/-- Only the first of the survivors can be a reset. -/
theorem not_reset_tail_survivors (as : List Action) :
    ∀ a ∈ (survivors as).tail, a.isReset = false := by
  induction as with
  | nil => exact fun a ha => absurd ha List.not_mem_nil
  | cons b as ih =>
    unfold survivors
    split
    · exact ih
    next none =>
      intro a ha
      have later := mem_of_survives ha
      simpa using fun reset => none (List.any_eq_true.2 ⟨a, later, reset⟩)

end Action

namespace Store

variable {s : Store} {as : List Action}

/-! ## Requests -/

/-- The edits among what is asked for. -/
def edits (rs : List Request) : List Action := rs.filterMap Request.edit?

theorem queue_unasked (h : s.queue = Action.survivors as) :
    s.queue = Action.survivors (as ++ []) := by
  rwa [List.append_nil]

theorem ask_queue (h : s.queue = Action.survivors as) (r : Request) :
    (s.ask r).queue = Action.survivors (as ++ edits [r]) := by
  cases r with
  | act a =>
    show (s.act a).queue = Action.survivors (as ++ [a])
    rw [Action.survivors_concat, ← h]
    cases a <;> rfl
  | subscribe l | unsubscribe name => exact queue_unasked h

theorem asks_queue (rs : List Request) (h : s.queue = Action.survivors as) :
    (rs.foldl ask s).queue = Action.survivors (as ++ edits rs) := by
  induction rs generalizing s as with
  | nil => exact queue_unasked h
  | cons r rs ih =>
    rw [List.foldl_cons, ih (ask_queue h r), List.append_assoc]
    unfold edits
    rw [← List.filterMap_append]
    rfl

theorem ask_initial (s : Store) (r : Request) : (s.ask r).initial = s.initial := by
  cases r with
  | act a => cases a <;> rfl
  | subscribe l | unsubscribe name => rfl

theorem asks_attentive (rs : List Request) (h : s.Attentive) : (rs.foldl ask s).Attentive :=
  asks_induction (p := Attentive) (fun _ r hs => ask_attentive hs r) rs h

theorem tell_initial (ls : List Listener) (s : Store) : (s.tell ls).initial = s.initial :=
  tell_induction (p := fun s' => s'.initial = s.initial)
    (fun s' r hs => (ask_initial s' r).trans hs) ls rfl

/-! ## Notifications -/

theorem tell_cons (s : Store) (l : Listener) (ls : List Listener) :
    s.tell (l :: ls) = ((l.asks s.state).foldl ask s).tell ls := by
  unfold tell
  rw [List.foldl_cons, asks_state]

/-- The edits that listeners ask for when they are told of a state. -/
def answers (state : State) (ls : List Listener) : List Action :=
  ls.flatMap fun l => edits (l.asks state)

theorem tell_queue (ls : List Listener) (h : s.queue = Action.survivors as) :
    (s.tell ls).queue = Action.survivors (as ++ answers s.state ls) := by
  induction ls generalizing s as with
  | nil => exact queue_unasked h
  | cons l ls ih =>
    rw [tell_cons, ih (asks_queue _ h), asks_state, List.append_assoc]
    rfl

/-- Tells listeners one after the other, and takes up what they ask for. With each listener stands
the store as it is when the listener is told. -/
def notify (s : Store) : List Listener → Store × List (Listener × Store)
  | [] => (s, [])
  | l :: ls =>
    let (s', told) := ((l.asks s.state).foldl ask s).notify ls
    (s', (l, s) :: told)

/-- All are told, in order and once for each place on the list, and what they ask for does not
change the state that the next ones are told of. -/
theorem notify_spec (ls : List Listener) (h : s.Attentive) :
    (s.notify ls).1 = s.tell ls ∧ (s.notify ls).2.map Prod.fst = ls ∧
      ∀ told ∈ (s.notify ls).2, told.2.state = (s.tell ls).state ∧ told.2.Attentive := by
  induction ls generalizing s with
  | nil => exact ⟨rfl, rfl, fun told htold => absurd htold List.not_mem_nil⟩
  | cons l ls ih =>
    obtain ⟨store, listeners, same⟩ := ih (asks_attentive (l.asks s.state) h)
    rw [tell_cons]
    refine ⟨store, congrArg (l :: ·) listeners, List.forall_mem_cons.2 ⟨⟨?_, h⟩, same⟩⟩
    rw [tell_state, asks_state]

/-! ## Flushes -/

/-- What a flush makes of a store. Without a due render nothing waits, and all stays as it is. With
one, the queue is applied in order, each edit once, and if the render returns then all listeners
are told of the new state. A flush fails for nothing else than changes that are no object, and
colors that do not exist; then nobody is told. -/
structure Serves (s : Store) (f : Flushed) : Prop where
  idle : s.renderDue = false → f = ⟨s, .ok s.state.result, []⟩
  applied : f.result ≠ .error .notObject → f.store.state.bare = (s.after s.queue).bare
  cut : f.result = .error .notObject → ∃ taken a left, s.queue = taken ++ a :: left ∧
    ¬a.Typed ∧ f = ⟨{ s with state := s.after taken, queue := left }, .error .notObject, []⟩
  colorless : ∀ issues, f.result = .error (.theme issues) →
    f.store.state.template.isSome ∧ ¬f.store.state.Themed ∧ f.store.queue = [] ∧ f.told = []
  told : s.renderDue = true → ∀ r, f.result = .ok r → f.told = s.listeners ∧
    ∃ s' : Store, s'.listeners = s.listeners ∧ s'.queue = [] ∧ s'.renderDue = false ∧
      (s'.notify s.listeners).1 = f.store ∧ (s'.notify s.listeners).2.map Prod.fst = s.listeners ∧
      ∀ told ∈ (s'.notify s.listeners).2, told.2.state = f.store.state ∧ told.2.Attentive

theorem resultOf_bad {state : State} {issues : List Issue} (h : resultOf state = .bad issues) :
    state.template.isSome ∧ ¬state.Themed := by
  constructor
  · unfold resultOf at h
    split at h
    · cases h
    next template => rw [template]; rfl
  · rintro ⟨c, hc⟩
    rw [resultOf_themed hc] at h
    cases h

theorem flush_serves (h : s.Attentive) : s.Serves s.flush := by
  have ends := s.flush_ends
  generalize s.flush = f at ends ⊢
  cases ends with
  | @cut taken left a split refused =>
    have due : s.renderDue = true := h.resolve_right (by simp [split])
    refine ⟨fun idle => ?_, fun ne => absurd rfl ne, fun _ => ?_, fun _ other => (by cases other),
      fun _ _ other => (by cases other)⟩
    · rw [due] at idle
      cases idle
    · exact ⟨taken, a, left, split, fun typed => Action.apply_typed typed _ _ refused, rfl⟩
  | idle notDue =>
    have empty : s.queue = [] := h.resolve_left (by simp [notDue])
    have same : s.after s.queue = s.state := by rw [after, empty]; rfl
    refine ⟨fun _ => ?_, fun _ => rfl, fun other => (by cases other),
      fun _ other => (by cases other), fun due => ?_⟩
    · rw [same, ← empty]
    · rw [notDue] at due
      cases due
  | colorless due failed =>
    refine ⟨fun idle => ?_, fun _ => rfl, fun other => (by cases other), fun _ _ => ?_,
      fun _ _ other => (by cases other)⟩
    · rw [due] at idle
      cases idle
    · obtain ⟨template, colors⟩ := resultOf_bad failed
      exact ⟨template, colors, rfl, rfl⟩
  | rendered editErrors due shown =>
    refine ⟨fun idle => ?_, fun _ => ?_, fun other => (by cases other),
      fun _ other => (by cases other), fun _ _ _ => ⟨rfl, ?_⟩⟩
    · rw [due] at idle
      cases idle
    · rw [tell_state]
      rfl
    · refine ⟨_, ?_, ?_, ?_, notify_spec s.listeners (.inr ?_)⟩ <;> rfl

/-! ## Sessions -/

/-- The edits that wait after a flush: those it did not come to, and those that the listeners asked
for when they were told. -/
def waiting (f : Flushed) : List Action :=
  (match f.result with
    | .error .notObject => f.store.queue
    | _ => []) ++ answers f.store.state f.told

/-- What happens between flushes. -/
inductive Aside where
  | ask (r : Request)
  /-- The listeners change their minds; the one at each place asks for other things from now on. -/
  | turn (asks : Nat → State → List Request)

def Aside.edit? : Aside → Option Action
  | .ask r => r.edit?
  | .turn _ => none

def aside (s : Store) : Aside → Store
  | .ask r => s.ask r
  | .turn asks => { s with listeners := s.listeners.mapIdx fun i l => .mk l.name (asks i) }

/-- How the last flush of a session ends; each flush comes after a round of other things. Before
the first one nobody has been told of anything. -/
def session (initial : Profile) (rounds : List (List Aside)) : Flushed :=
  rounds.foldl (fun f round => (round.foldl aside f.store).flush) ⟨start initial, .ok none, []⟩

/-- What holds at any time between flushes: the state is the one that the last flush left, edits
wait only while a render is due, and those that wait are the ones asked for since the last flush
began that no reset has dropped. -/
structure Keeps (initial : Profile) (state : State) (asked : List Action) (s : Store) : Prop where
  initial : s.initial = initial
  state : s.state = state
  attentive : s.Attentive
  queue : s.queue = Action.survivors asked

variable {initial : Profile} {state : State} {asked : List Action}

theorem aside_keeps (h : Keeps initial state asked s) (a : Aside) :
    Keeps initial state (asked ++ a.edit?.toList) (s.aside a) := by
  cases a with
  | ask r =>
    refine ⟨(ask_initial s r).trans h.initial, (ask_state s r).trans h.state,
      ask_attentive h.attentive r, (ask_queue h.queue r).trans ?_⟩
    cases r <;> rfl
  | turn asks => exact ⟨h.initial, h.state, h.attentive, queue_unasked h.queue⟩

theorem round_keeps (round : List Aside) (h : Keeps initial state asked s) :
    Keeps initial state (asked ++ round.filterMap Aside.edit?) (round.foldl aside s) := by
  induction round generalizing s asked with
  | nil => simpa using h
  | cons a round ih =>
    have rest := ih (aside_keeps h a)
    rw [List.append_assoc] at rest
    cases ha : a.edit? <;> simpa [ha] using rest

/-- What a queue that is cut short leaves has no reset in it. -/
theorem survivors_left {taken left : List Action} {a : Action}
    (split : Action.survivors asked = taken ++ a :: left) : Action.survivors left = left := by
  refine Action.survivors_self fun b hb => Action.not_reset_tail_survivors asked b ?_
  rw [split]
  cases taken <;> simp [hb]

theorem flush_keeps (h : Keeps initial state asked s) :
    Keeps initial s.flush.store.state (waiting s.flush) s.flush.store := by
  have ends := s.flush_ends
  generalize s.flush = f at ends ⊢
  cases ends with
  | @cut taken left a split refused =>
    have due : s.renderDue = true := h.attentive.resolve_right (by simp [split])
    have kept := survivors_left (h.queue.symm.trans split)
    have queue : left = Action.survivors (left ++ []) := by rw [List.append_nil, kept]
    exact ⟨h.initial, rfl, .inl due, queue⟩
  | idle notDue => exact ⟨h.initial, rfl, .inr rfl, rfl⟩
  | colorless due failed => exact ⟨h.initial, rfl, .inr rfl, rfl⟩
  | rendered editErrors due shown =>
    have empty : Action.survivors [] = [] := rfl
    refine ⟨(tell_initial _ _).trans h.initial, rfl, tell_attentive (.inr rfl) _,
      (tell_queue _ empty.symm).trans ?_⟩
    rw [waiting, tell_state]

theorem session_keeps (initial : Profile) (rounds : List (List Aside)) :
    let last := session initial rounds
    Keeps initial last.store.state (waiting last) last.store := by
  induction rounds using List.reverseRecOn with
  | nil => exact ⟨rfl, rfl, .inr rfl, rfl⟩
  | append_singleton rounds round ih =>
    unfold session
    rw [List.foldl_append]
    exact flush_keeps (round_keeps round ih)

/-- At any time of any session, whatever its listeners ask for when they are told: the state is as
the last flush left it, and the edits that wait are those asked for since that flush began, by its
listeners or later, but for edits that a later reset drops. While any wait a render is due. The next
flush applies them, and tells the listeners. -/
theorem session_serves (initial : Profile) (rounds : List (List Aside)) (round : List Aside) :
    let last := session initial rounds
    let s := round.foldl aside last.store
    s.initial = initial ∧ s.state = last.store.state ∧
      s.queue = Action.survivors (waiting last ++ round.filterMap Aside.edit?) ∧
      (s.queue ≠ [] → s.renderDue = true) ∧ s.Serves s.flush := by
  intro last s
  have keeps := round_keeps round (session_keeps initial rounds)
  exact ⟨keeps.initial, keeps.state, keeps.queue, keeps.attentive.resolve_right,
    flush_serves keeps.attentive⟩

/-- A listener that leaves when it is told, and another one that asks for a reset. -/
def fickleRound : List Aside :=
  [.ask (.subscribe (.mk "shy" fun _ => [.act .clearTemplate, .unsubscribe "shy"])),
    .ask (.subscribe (.mk "log" fun _ => [.act .reset, .act (.toggleSection "about")])),
    .ask (.act (.setTemplate draft))]

example : (session {} [fickleRound]).told.map Listener.name = ["shy", "log"] ∧
    waiting (session {} [fickleRound]) = [.clearTemplate, .reset, .toggleSection "about"] ∧
    (session {} [fickleRound]).store.queue = [.reset, .toggleSection "about"] ∧
    (session {} [fickleRound]).store.state.template.isSome ∧
    (session {} [fickleRound, []]).told.map Listener.name = ["log"] :=
  ⟨rfl, rfl, rfl, rfl, rfl⟩

/-- Someone listens, and a draft is to be rendered in colors that do not exist. -/
def neonRound : List Aside :=
  [.ask (.subscribe (.mk "log" fun _ => [])), .ask (.act (.setTemplate draft)),
    .ask (.act (.setPreviewTheme (.text "neon")))]

/-- Someone listens, and changes that are no object wait before another edit. -/
def textRound : List Aside :=
  [.ask (.subscribe (.mk "log" fun _ => [])), .ask (.act (.updateProfile (.text "x"))),
    .ask (.act (.setPreviewTheme (Named.write ColorScheme.dark)))]

/-- A flush that fails tells nobody though a render was due, and if it is for changes that are no
object then it does not apply the edits after these. -/
theorem failed_flushes_serve_nobody : ∃ s s' : Store,
    s = neonRound.foldl aside (session {} []).store ∧
    (s.renderDue = true ∧ s.listeners.map Listener.name = ["log"] ∧ s.flush.told = [] ∧
      s.flush.result = .error (.theme [⟨[.field "theme"], .notListed⟩])) ∧
    s' = textRound.foldl aside (session {} []).store ∧
    (s'.renderDue = true ∧ s'.listeners.map Listener.name = ["log"] ∧ s'.flush.told = [] ∧
      s'.flush.result = .error .notObject ∧
      s'.flush.store.state.theme = Named.write ColorScheme.system ∧
      s'.flush.store.flush.store.state.theme = Named.write ColorScheme.dark) :=
  ⟨_, _, rfl, ⟨rfl, rfl, rfl, rfl⟩, rfl, rfl, rfl, rfl, rfl, rfl, rfl⟩

end Store

end ProfileReadme
