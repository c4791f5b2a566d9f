/-
What a drawing returns, whatever was tracked before it, and whether it returns at all: rules that
follow a drawing step by step. A drawing that fails returns nothing, so nothing has to be shown of
what it returns.
-/
import ProfileReadme.Preview.Block
import Mathlib.Data.List.Forall2

namespace ProfileReadme.Preview.Drawing

/-- All that a drawing can return satisfies `p`. -/
def Returns (x : Drawing α) (p : α → Prop) : Prop := ∀ t a t', x.run t = (.ok a, t') → p a

variable {x : Drawing α} {p p' : α → Prop} {q : β → Prop}

theorem Returns.mono (h : x.Returns p) (imp : ∀ a, p a → p' a) : x.Returns p' :=
  fun t a t' hrun => imp a (h t a t' hrun)

theorem Returns.and (h : x.Returns p) (h' : x.Returns p') : x.Returns fun a => p a ∧ p' a :=
  fun t a t' hrun => ⟨h t a t' hrun, h' t a t' hrun⟩

theorem Returns.of_run (h : x.Returns p) {t t' : Tracker} {a : α} (hrun : x.run t = (.ok a, t')) :
    p a := h t a t' hrun

theorem returns_pure {a : α} (h : p a) : (pure a : Drawing α).Returns p := by
  rintro t b t' hrun
  cases hrun
  exact h

theorem returns_throw (fault : Fault) : (throw fault : Drawing α).Returns p := by
  rintro t b t' hrun
  cases hrun

theorem run_bind (f : α → Drawing β) (t : Tracker) :
    (x >>= f).run t = match x.run t with
      | (.ok a, s) => (f a).run s
      | (.error fault, s) => (.error fault, s) := by
  show ExceptT.bindCont f (x.run t).1 (x.run t).2 = _
  rcases x.run t with ⟨a | fault, s⟩ <;> rfl

theorem bind_run_ok {f : α → Drawing β} {t t' : Tracker} {b : β}
    (h : (x >>= f).run t = (.ok b, t')) :
    ∃ a s, x.run t = (.ok a, s) ∧ (f a).run s = (.ok b, t') := by
  rw [run_bind] at h
  rcases hx : x.run t with ⟨fault | a, s⟩ <;> rw [hx] at h
  · cases h
  · exact ⟨a, s, rfl, h⟩

theorem Returns.bind {f : α → Drawing β} (hx : x.Returns p) (hf : ∀ a, p a → (f a).Returns q) :
    (x >>= f).Returns q := by
  intro t b t' hrun
  obtain ⟨a, s, ha, hb⟩ := bind_run_ok hrun
  exact hf a (hx.of_run ha) s b t' hb

theorem Returns.map {f : α → β} (hx : x.Returns p) (hf : ∀ a, p a → q (f a)) :
    (f <$> x).Returns q :=
  hx.bind fun a ha => returns_pure (hf a ha)

/-- A step whose value does not matter. -/
theorem Returns.after {f : α → Drawing β} (hf : ∀ a, (f a).Returns q) : (x >>= f).Returns q := by
  intro t b t' hrun
  obtain ⟨a, s, _, hb⟩ := bind_run_ok hrun
  exact hf a s b t' hb

theorem Returns.mapM {f : γ → Drawing α} {p : γ → α → Prop} {l : List γ}
    (h : ∀ c ∈ l, (f c).Returns (p c)) : (l.mapM f).Returns (List.Forall₂ p l) := by
  induction l with
  | nil => exact returns_pure .nil
  | cons c l ih =>
    rw [List.mapM_cons]
    refine (h c (List.mem_cons_self ..)).bind fun a ha => ?_
    refine (ih fun c' hc' => h c' (List.mem_cons_of_mem _ hc')).bind fun as has => ?_
    exact returns_pure (.cons ha has)

/-! ## Whether a drawing returns -/

/-- The drawing returns exactly if `P`. -/
def ReturnsIff (x : Drawing α) (P : Prop) : Prop := ∀ t, (∃ a t', x.run t = (.ok a, t')) ↔ P

variable {P Q : Prop}

theorem ReturnsIff.congr (h : x.ReturnsIff P) (same : P ↔ Q) : x.ReturnsIff Q :=
  fun t => (h t).trans same

theorem returnsIff_pure (a : α) : (pure a : Drawing α).ReturnsIff True :=
  fun t => iff_of_true ⟨a, t, rfl⟩ trivial

theorem returnsIff_throw (fault : Fault) : (throw fault : Drawing α).ReturnsIff False := by
  intro t
  refine iff_of_false ?_ id
  rintro ⟨a, t', hrun⟩
  cases hrun

theorem returnsIff_modifyGet (f : Tracker → α × Tracker) :
    (modifyGet f : Drawing α).ReturnsIff True :=
  fun t => iff_of_true ⟨(f t).1, (f t).2, rfl⟩ trivial

theorem returnsIff_ofExcept (fault : ε → Fault) (r : Except ε α) :
    (ofExcept fault r).ReturnsIff (∃ a, r = .ok a) := by
  cases r with
  | ok a => exact (returnsIff_pure a).congr (iff_of_true trivial ⟨a, rfl⟩)
  | error e =>
    refine (returnsIff_throw (fault e)).congr (iff_of_false id ?_)
    rintro ⟨a, h⟩
    cases h

/-- Both steps return, where the second does so whatever the first returns. -/
theorem ReturnsIff.bind {f : α → Drawing β} (hx : x.ReturnsIff P)
    (hf : ∀ a, (f a).ReturnsIff Q) : (x >>= f).ReturnsIff (P ∧ Q) := by
  intro t
  constructor
  · rintro ⟨b, t', hrun⟩
    obtain ⟨a, s, ha, hb⟩ := bind_run_ok hrun
    exact ⟨(hx t).1 ⟨a, s, ha⟩, (hf a s).1 ⟨b, t', hb⟩⟩
  · rintro ⟨hp, hq⟩
    obtain ⟨a, s, ha⟩ := (hx t).2 hp
    obtain ⟨b, t', hb⟩ := (hf a s).2 hq
    refine ⟨b, t', ?_⟩
    rw [run_bind, ha]
    exact hb

/-- What comes after the step returns in any case. -/
theorem ReturnsIff.before {f : α → Drawing β} (hx : x.ReturnsIff P)
    (hf : ∀ a, (f a).ReturnsIff True) : (x >>= f).ReturnsIff P :=
  (hx.bind hf).congr (and_iff_left trivial)

theorem ReturnsIff.map (f : α → β) (hx : x.ReturnsIff P) : (f <$> x).ReturnsIff P :=
  hx.before fun a => returnsIff_pure (f a)

theorem returnsIff_mapM {f : γ → Drawing α} {p : γ → Prop} (h : ∀ c, (f c).ReturnsIff (p c)) :
    ∀ l : List γ, (l.mapM f).ReturnsIff (∀ c ∈ l, p c)
  | [] => (returnsIff_pure []).congr (by simp)
  | c :: l => by
    rw [List.mapM_cons]
    refine ((h c).bind fun a => (returnsIff_mapM h l).before fun as => returnsIff_pure _).congr ?_
    exact (List.forall_mem_cons ..).symm

end ProfileReadme.Preview.Drawing
