/-
How a flush ends, in full: which edits it takes from the queue, which state they lead to, and who is
told of it. And what requests keep, told listeners keep.
-/
import ProfileReadme.Proofs.Store.Steps

namespace ProfileReadme.Store

/-- How far edits come: to the end, or up to one whose changes are no object. -/
inductive Gets (initial : Profile) (s : State) (queue : List Action) :
    Applied × Option (List Action) → Prop
  | through (rejections : List String) :
      Gets initial s queue (⟨queue.foldl (Action.step initial) s, rejections⟩, none)
  | upTo {taken left : List Action} {a : Action} (rejections : List String)
      (split : queue = taken ++ a :: left)
      (refused : a.apply initial (taken.foldl (Action.step initial) s) = .error .notObject) :
      Gets initial s queue (⟨taken.foldl (Action.step initial) s, rejections⟩, some left)

theorem Gets.cons {initial : Profile} {s : State} {a : Action} {queue : List Action}
    {end? : Applied × Option (List Action)}
    (h : Gets initial (Action.step initial s a) queue end?) : Gets initial s (a :: queue) end? := by
  cases h with
  | through rejections => exact .through rejections
  | @upTo taken left b rejections split refused =>
    have longer : a :: queue = (a :: taken) ++ b :: left := congrArg (a :: ·) split
    exact .upTo rejections longer refused

theorem applyAll_gets (initial : Profile) : ∀ (queue : List Action) (p : Applied),
    Gets initial p.state queue (applyAll initial queue p)
  | [], p => .through p.rejections
  | a :: rest, p => by
    unfold applyAll
    cases happly : a.apply initial p.state with
    | ok s' =>
      have rest := applyAll_gets initial rest { p with state := s' }
      refine Gets.cons ?_
      rwa [Action.step, happly]
    | error refusal =>
      cases refusal with
      | invalid issues =>
        have rest := applyAll_gets initial rest
          { p with rejections := p.rejections ++ [a.rejection issues] }
        refine Gets.cons ?_
        rwa [Action.step, happly]
      | notObject =>
        have split : a :: rest = [] ++ a :: rest := rfl
        exact .upTo p.rejections split happly

/-- The state after some edits. -/
def after (s : Store) (as : List Action) : State := as.foldl (Action.step s.initial) s.state

/-- The four ends of a flush. -/
inductive Ends (s : Store) : Flushed → Prop
  /-- The changes of an edit are no object; the edits after it are left. -/
  | cut {taken left : List Action} {a : Action} (split : s.queue = taken ++ a :: left)
      (refused : a.apply s.initial (s.after taken) = .error .notObject) :
      Ends s ⟨{ s with state := s.after taken, queue := left }, .error .notObject, []⟩
  /-- No render is due. -/
  | idle (notDue : s.renderDue = false) :
      Ends s ⟨{ s with state := s.after s.queue, queue := [] },
        .ok (s.after s.queue).result, []⟩
  /-- There are no such colors. -/
  | colorless {issues : List Issue} (due : s.renderDue = true)
      (failed : resultOf (s.after s.queue) = .bad issues) :
      Ends s ⟨{ s with state := s.after s.queue, queue := [], renderDue := false },
        .error (.theme issues), []⟩
  /-- The state is rendered, and the listeners are told. -/
  | rendered {result : Option Render.Result} (editErrors : List String)
      (due : s.renderDue = true) (shown : resultOf (s.after s.queue) = .ok result) :
      Ends s ⟨{ s with
          state := { s.after s.queue with result, editErrors }
          queue := [], renderDue := false,
          renders := if (s.after s.queue).template.isSome then s.renders + 1 else s.renders
        }.tell s.listeners, .ok result, s.listeners⟩

theorem flush_ends (s : Store) : s.Ends s.flush := by
  have gets := applyAll_gets s.initial s.queue { state := s.state }
  unfold flush
  generalize applyAll s.initial s.queue { state := s.state } = applied at gets
  cases gets with
  | upTo rejections split refused => exact .cut split refused
  | through rejections =>
    dsimp only
    split
    next due =>
      cases shown : resultOf (s.after s.queue) with
      | bad issues =>
        unfold after at shown
        rw [shown]
        exact .colorless due shown
      | ok result =>
        unfold after at shown
        rw [shown]
        exact .rendered rejections due shown
    next notDue => exact .idle (Bool.eq_false_iff.2 notDue)

/-! ## Requests -/

section

variable {p : Store → Prop} (step : ∀ s r, p s → p (s.ask r)) {s : Store}

include step

theorem asks_induction (rs : List Request) (h : p s) : p (rs.foldl ask s) := by
  induction rs generalizing s with
  | nil => exact h
  | cons r rs ih => exact ih (step s r h)

/-- What every request keeps, telling keeps. -/
theorem tell_induction (ls : List Listener) (h : p s) : p (s.tell ls) := by
  unfold tell
  generalize s.state = state
  induction ls generalizing s with
  | nil => exact h
  | cons l ls ih => exact ih (asks_induction step _ h)

end

/-- No request touches the state. -/
theorem ask_state (s : Store) (r : Request) : (s.ask r).state = s.state := by
  cases r with
  | act a => cases a <;> rfl
  | subscribe l => rfl
  | unsubscribe name => rfl

theorem asks_state (rs : List Request) (s : Store) : (rs.foldl ask s).state = s.state :=
  asks_induction (p := fun s' => s'.state = s.state)
    (fun s' r h => (ask_state s' r).trans h) rs rfl

theorem tell_state (s : Store) (ls : List Listener) : (s.tell ls).state = s.state :=
  tell_induction (p := fun s' => s'.state = s.state)
    (fun s' r h => (ask_state s' r).trans h) ls rfl

end ProfileReadme.Store
