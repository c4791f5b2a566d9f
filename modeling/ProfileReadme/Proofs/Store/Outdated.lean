/-
What a flush returns after one that failed. A flush takes back the mark of a due render before it
looks at the colors; if there are no such colors, the old result stays in a state that has moved on,
and flushes return it until something is asked for again. In all other cases a flush that returns
leaves a result that is up to date.
-/
import ProfileReadme.Proofs.Store.Batching
import Mathlib.Data.List.Induction

namespace ProfileReadme

open Store

/-- There is no template and no result, or the result is the lenient render of the template for the
profile in the colors of the state. -/
def State.Current (s : State) : Prop :=
  (s.template = none ∧ s.result = none) ∨
    ∃ t r, s.template = some t ∧ renderLive s t = .ok r ∧ s.result = some r

theorem State.current_iff (s : State) : s.Current ↔ resultOf s = .ok s.result := by
  unfold State.Current resultOf
  cases s.template with
  | none => simp [eq_comm]
  | some t =>
    show _ ↔ some <$> renderLive s t = _
    cases h : renderLive s t with
    | bad issues => exact iff_of_false (by simp [h]) (fun current => by cases current)
    | ok r => simp [h, eq_comm]

namespace Store

/-! ## What waits -/

/-- Edits wait only while a render is due. -/
def Attentive (s : Store) : Prop := s.renderDue = true ∨ s.queue = []

theorem ask_attentive {s : Store} (h : s.Attentive) (r : Request) : (s.ask r).Attentive := by
  cases r with
  | act a => exact .inl (by cases a <;> rfl)
  | subscribe l => exact h
  | unsubscribe name => exact h

theorem tell_attentive {s : Store} (h : s.Attentive) (ls : List Listener) :
    (s.tell ls).Attentive :=
  tell_induction (p := Attentive) (fun _ r hs => ask_attentive hs r) ls h

/-! ## How a flush ends -/

/-- The four ends of a flush: an edit cuts the queue short, no render is due, there are no such
colors, or the state is rendered and the listeners are told. -/
theorem flush_cases (s : Store) :
    (∃ state rest, s.queue ≠ [] ∧
      s.flush = ⟨{ s with state, queue := rest }, .error .notObject, []⟩) ∨
    (∃ state, s.renderDue = false ∧ (s.queue = [] → state = s.state) ∧
      s.flush = ⟨{ s with state, queue := [] }, .ok state.result, []⟩) ∨
    (∃ state issues, s.renderDue = true ∧ resultOf state = .bad issues ∧
      s.flush =
        ⟨{ s with state, queue := [], renderDue := false }, .error (.theme issues), []⟩) ∨
    (∃ state renders, s.renderDue = true ∧ resultOf state = .ok state.result ∧
      s.flush =
        ⟨{ s with state, renders, queue := [], renderDue := false }.tell s.listeners,
          .ok state.result, s.listeners⟩) := by
  have ends := s.flush_ends
  generalize s.flush = f at ends ⊢
  cases ends with
  | cut split refused => exact .inl ⟨_, _, fun empty => by simp [empty] at split, rfl⟩
  | idle notDue => exact .inr (.inl ⟨_, notDue, fun empty => by rw [after, empty]; rfl, rfl⟩)
  | colorless due failed => exact .inr (.inr (.inl ⟨_, _, due, failed, rfl⟩))
  | rendered editErrors due shown =>
    exact .inr (.inr (.inr ⟨{ s.after s.queue with result := _, editErrors }, _, due, shown, rfl⟩))

/-! ## Sessions with a flush that failed -/

/-- A flush found no such colors, and no edit has been asked for since. -/
def Abandoned (initial : Profile) (calls : List Call) : Prop :=
  ∃ before after issues, calls = before ++ .flush :: after ∧
    ((start initial).run before).flush.result = .error (.theme issues) ∧
    ∀ c ∈ after, c.action? = none

variable {initial : Profile} {calls : List Call}

theorem not_abandoned_nil : ¬ Abandoned initial [] := by
  rintro ⟨before, after, issues, split, -, -⟩
  simp at split

theorem abandoned_append (c : Call) : Abandoned initial (calls ++ [c]) ↔
    (c = .flush ∧ ∃ issues, ((start initial).run calls).flush.result = .error (.theme issues)) ∨
      (Abandoned initial calls ∧ c.action? = none) := by
  constructor
  · rintro ⟨before, after, issues, split, failed, quiet⟩
    -- the last call is the flush that failed, or one of the calls since
    rcases List.eq_nil_or_concat after with rfl | ⟨after, c', rfl⟩
    · obtain ⟨rfl, last⟩ := List.append_inj' split rfl
      cases last
      exact .inl ⟨rfl, issues, failed⟩
    · rw [List.concat_eq_append] at split quiet
      rw [← List.cons_append, ← List.append_assoc] at split
      obtain ⟨rfl, last⟩ := List.append_inj' split rfl
      cases last
      exact .inr ⟨⟨before, after, issues, rfl, failed,
        fun c hc => quiet c (List.mem_append_left _ hc)⟩, quiet c (by simp)⟩
  · rintro (⟨rfl, issues, failed⟩ | ⟨⟨before, after, issues, rfl, failed, quiet⟩, hc⟩)
    · exact ⟨calls, [], issues, rfl, failed, fun c hc => by cases hc⟩
    · refine ⟨before, after ++ [c], issues, by simp, failed, ?_⟩
      exact List.forall_mem_append.2 ⟨quiet, List.forall_mem_singleton.2 hc⟩

/-- What holds after the calls of any session: without a due render nothing waits, and the result
is up to date unless a failed flush has been left at that. -/
structure Accounted (initial : Profile) (calls : List Call) (s : Store) : Prop where
  attentive : s.Attentive
  idle : Abandoned initial calls → s.renderDue = false
  colorless : Abandoned initial calls → ∃ issues, resultOf s.state = .bad issues
  current : s.renderDue = false → (s.state.Current ↔ ¬ Abandoned initial calls)

theorem start_accounted (initial : Profile) : Accounted initial [] (start initial) :=
  ⟨.inr rfl, fun _ => rfl, fun abandoned => absurd abandoned not_abandoned_nil,
    fun _ => iff_of_true (.inl ⟨rfl, rfl⟩) not_abandoned_nil⟩

/-- While a render is due no failed flush has been left at that. -/
theorem Accounted.not_abandoned {s : Store} (h : Accounted initial calls s)
    (due : s.renderDue = true) : ¬ Abandoned initial calls := by
  intro abandoned
  rw [h.idle abandoned] at due
  cases due

theorem ask_accounted {s : Store} (h : Accounted initial calls s) (r : Request) :
    Accounted initial (calls ++ [.ask r]) (s.ask r) := by
  have none_iff : Abandoned initial (calls ++ [.ask r]) ↔
      Abandoned initial calls ∧ (Call.ask r).action? = none := by
    rw [abandoned_append]
    simp
  cases r with
  | act a =>
    -- an edit makes a render due, and a failed flush is no longer left at that
    have due : (s.act a).renderDue = true := by cases a <;> rfl
    refine ⟨.inl due, fun abandoned => ?_, fun abandoned => ?_, fun idle => ?_⟩
    · cases (none_iff.1 abandoned).2
    · cases (none_iff.1 abandoned).2
    · rw [show (s.ask (.act a)).renderDue = _ from due] at idle
      cases idle
  | subscribe l | unsubscribe name =>
    have same := none_iff.trans (and_iff_left rfl)
    exact ⟨h.attentive, fun abandoned => h.idle (same.1 abandoned),
      fun abandoned => h.colorless (same.1 abandoned),
      fun idle => (h.current idle).trans (not_congr same).symm⟩

theorem flush_accounted (h : Accounted initial calls ((start initial).run calls)) :
    Accounted initial (calls ++ [.flush]) ((start initial).run calls).flush.store := by
  have abandoned_iff : Abandoned initial (calls ++ [.flush]) ↔ _ := abandoned_append .flush
  revert h abandoned_iff
  generalize (start initial).run calls = s
  intro h abandoned_iff
  rcases s.flush_cases with ⟨state, rest, waits, ends⟩ | ⟨state, idle, same, ends⟩ |
    ⟨state, issues, due, shown, ends⟩ | ⟨state, renders, due, shown, ends⟩ <;>
    rw [ends] at abandoned_iff ⊢
  · -- the queue was cut short: the render that was due still is
    have due : s.renderDue = true := h.attentive.resolve_right waits
    have settled : ¬ Abandoned initial (calls ++ [.flush]) := by
      simp [abandoned_iff, h.not_abandoned due]
    refine ⟨.inl due, fun abandoned => absurd abandoned settled,
      fun abandoned => absurd abandoned settled, fun idle => ?_⟩
    rw [show s.renderDue = false from idle] at due
    cases due
  · have empty : s.queue = [] := h.attentive.resolve_left (by simp [idle])
    have abandoned_iff : Abandoned initial (calls ++ [.flush]) ↔ Abandoned initial calls := by
      simpa [Call.action?] using abandoned_iff
    rw [same empty]
    exact ⟨.inr rfl, fun _ => idle, fun abandoned => h.colorless (abandoned_iff.1 abandoned),
      fun _ => (h.current idle).trans (not_congr abandoned_iff).symm⟩
  · refine ⟨.inr rfl, fun _ => rfl, fun _ => ⟨issues, shown⟩, fun _ => iff_of_false ?_ ?_⟩
    · rw [State.current_iff, shown]
      simp
    · exact not_not.2 (abandoned_iff.2 (.inl ⟨rfl, issues, rfl⟩))
  · have settled : ¬ Abandoned initial (calls ++ [.flush]) := by
      simp [abandoned_iff, h.not_abandoned due]
    refine ⟨?_, fun abandoned => absurd abandoned settled,
      fun abandoned => absurd abandoned settled, fun _ => iff_of_true ?_ settled⟩
    · exact tell_attentive (.inr rfl) _
    · rw [tell_state, State.current_iff]
      exact shown

/-- The account of a session, call by call. -/
theorem run_accounted (initial : Profile) (calls : List Call) :
    Accounted initial calls ((start initial).run calls) := by
  induction calls using List.reverseRecOn with
  | nil => exact start_accounted initial
  | append_singleton calls c ih =>
    have last : (start initial).run (calls ++ [c]) = ((start initial).run calls).call c :=
      List.foldl_append ..
    rw [last]
    cases c with
    | ask r => exact ask_accounted ih r
    | flush => exact flush_accounted ih

/-- A flush that returns, in any session and whatever its edits and listeners ask for, returns the
result of the state it leaves. That result is up to date exactly if no failed flush has been left
at that: none found that there are no such colors while no edit has been asked for since. -/
theorem flush_current_iff {r : Option Render.Result}
    (returned : ((start initial).run calls).flush.result = .ok r) :
    ((start initial).run calls).flush.store.state.result = r ∧
      (((start initial).run calls).flush.store.state.Current ↔ ¬ Abandoned initial calls) := by
  have h := run_accounted initial calls
  revert h returned
  generalize (start initial).run calls = s
  intro returned h
  rcases s.flush_cases with ⟨state, rest, waits, ends⟩ | ⟨state, idle, same, ends⟩ |
    ⟨state, issues, due, shown, ends⟩ | ⟨state, renders, due, shown, ends⟩ <;>
    rw [ends] at returned ⊢
  · cases returned
  · cases returned
    have empty : s.queue = [] := h.attentive.resolve_left (by simp [idle])
    rw [same empty]
    exact ⟨rfl, h.current idle⟩
  · cases returned
  · cases returned
    rw [tell_state]
    exact ⟨rfl, iff_of_true ((State.current_iff _).2 shown) (h.not_abandoned due)⟩

/-- A draft is rendered; then the profile changes, and a flush finds no colors of the name that is
asked for. -/
def neonCalls : List Call :=
  [.ask (.act (.setTemplate draft)), .flush,
    .ask (.act (.setProfile { githubUsername := "octo" })),
    .ask (.act (.setPreviewTheme (.text "neon"))), .flush]

theorem neon_abandoned :
    ((start {}).run neonCalls).flush.result =
        .ok (some (Render.render .usual draft {} (liveOptions (some .system)))) ∧
      (((start {}).run neonCalls).flush.store.state.Current ↔ ¬ Abandoned {} neonCalls) :=
  ⟨rfl, (flush_current_iff rfl).2⟩

/-- After a flush that failed, the next one returns the render for the profile before. -/
theorem flush_returns_old_render :
    ((start {}).run neonCalls).flush.result =
        .ok (some (Render.render .usual draft {} (liveOptions (some .system)))) ∧
      ((start {}).run neonCalls).flush.store.state.profile = { githubUsername := "octo" } ∧
      ¬ ((start {}).run neonCalls).flush.store.state.Current := by
  refine ⟨rfl, rfl, fun current => ?_⟩
  have shown := (State.current_iff _).1 current
  have failed : resultOf ((start {}).run neonCalls).flush.store.state =
      .bad [⟨[.field "theme"], .notListed⟩] := rfl
  rw [failed] at shown
  cases shown

end Store

end ProfileReadme
