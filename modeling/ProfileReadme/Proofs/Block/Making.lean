/-
What a computation of numbered blocks makes, whatever was numbered before it, and whether it fails:
rules that follow it step by step. One that fails makes nothing.
-/
import ProfileReadme.Block.Numbered

namespace ProfileReadme.Making

/-- All that a computation can make satisfies `p`. -/
def Makes (x : Making ε α) (p : α → Prop) : Prop := ∀ n a n', x.run n = .ok (a, n') → p a

variable {ε α β γ : Type} {x : Making ε α} {p p' : α → Prop} {q : β → Prop} {fault : Option ε}

theorem makes_pure {a : α} (h : p a) : (pure a : Making ε α).Makes p := by
  rintro n b n' hrun
  cases hrun
  exact h

theorem Makes.imp (hx : x.Makes p) (h : ∀ a, p a → p' a) : x.Makes p' := fun n a n' hrun =>
  h a (hx n a n' hrun)

theorem bind_run_ok {f : α → Making ε β} {n n' : Numbering} {b : β}
    (h : (x >>= f).run n = .ok (b, n')) :
    ∃ a m, x.run n = .ok (a, m) ∧ (f a).run m = .ok (b, n') := by
  rw [StateT.run_bind] at h
  rcases hx : x.run n with e | ⟨a, m⟩ <;> rw [hx] at h
  · cases h
  · exact ⟨a, m, rfl, h⟩

theorem Makes.bind {f : α → Making ε β} (hx : x.Makes p) (hf : ∀ a, p a → (f a).Makes q) :
    (x >>= f).Makes q := by
  intro n b n' hrun
  obtain ⟨a, m, ha, hb⟩ := bind_run_ok hrun
  exact hf a (hx n a m ha) m b n' hb

/-- A step whose value does not matter. -/
theorem Makes.after {f : α → Making ε β} (hf : ∀ a, (f a).Makes q) : (x >>= f).Makes q :=
  Makes.bind (p := fun _ => True) (fun _ _ _ _ => trivial) fun a _ => hf a

/-- What is made of all items of a list, one after the other. -/
theorem Makes.mapM {f : γ → Making ε α} {l : List γ} (h : ∀ c ∈ l, (f c).Makes p) :
    (l.mapM f).Makes fun as => ∀ a ∈ as, p a := by
  induction l with
  | nil => exact makes_pure fun a ha => by cases ha
  | cons c l ih =>
    rw [List.mapM_cons]
    refine (h c (List.mem_cons_self ..)).bind fun a ha => ?_
    refine (ih fun c' hc' => h c' (List.mem_cons_of_mem _ hc')).bind fun as has => ?_
    exact makes_pure (List.forall_mem_cons.2 ⟨ha, has⟩)

/-! ## Whether a computation fails -/

/-- How a computation ends, whatever was numbered before it: with a fault, or with something made if
there is none. -/
def Ends (x : Making ε α) : Option ε → Prop
  | none => ∀ n, ∃ a n', x.run n = .ok (a, n')
  | some e => ∀ n, x.run n = .error e

theorem ends_pure (a : α) : (pure a : Making ε α).Ends none := fun n => ⟨a, n, rfl⟩

theorem ends_throw (e : ε) : (throw e : Making ε α).Ends (some e) := fun _ => rfl

theorem ends_nextId (k : BlockKind) : (nextId k : Making ε String).Ends none := fun _ => ⟨_, _, rfl⟩

/-- What comes after a step that makes something decides the end. -/
theorem Ends.bind {f : α → Making ε β} (hx : x.Ends none) (hf : ∀ a, (f a).Ends fault) :
    (x >>= f).Ends fault := by
  cases fault with
  | none =>
    intro n
    obtain ⟨a, m, hrun⟩ := hx n
    obtain ⟨b, n', hrun'⟩ := hf a m
    refine ⟨b, n', ?_⟩
    rw [StateT.run_bind, hrun]
    exact hrun'
  | some e =>
    intro n
    obtain ⟨a, m, hrun⟩ := hx n
    rw [StateT.run_bind, hrun]
    exact hf a m

/-- A step decides the end if nothing after it fails. -/
theorem Ends.before {f : α → Making ε β} (hx : x.Ends fault) (hf : ∀ a, (f a).Ends none) :
    (x >>= f).Ends fault := by
  cases fault with
  | none => exact hx.bind hf
  | some e =>
    intro n
    rw [StateT.run_bind, hx n]
    rfl

theorem ends_mapM {f : γ → Making ε α} (h : ∀ c, (f c).Ends none) :
    ∀ l : List γ, (l.mapM f).Ends none
  | [] => ends_pure []
  | c :: l => by
    rw [List.mapM_cons]
    exact (h c).bind fun a => (ends_mapM h l).bind fun as => ends_pure (a :: as)

theorem ends_member (k : BlockKind) (content : α) :
    (member k content : Making ε (Placed α)).Ends none :=
  (ends_nextId k).bind fun _ => ends_pure _

theorem ends_element (content : Element) : (element content : Making ε Block).Ends none :=
  (ends_nextId content.kind).bind fun _ => ends_pure _

theorem ends_stack (layout : Layout) (children : List Block) :
    (stack layout children : Making ε Block).Ends none :=
  (ends_nextId layout.kind).bind fun _ => ends_pure _

theorem ends_list (marker : ListMarker) (items : List Item) :
    (list marker items : Making ε Block).Ends none :=
  (ends_nextId .list).bind fun _ => ends_pure _

end ProfileReadme.Making
