/-
What can go wrong while a YAML text is cut into tokens: it is malformed, or an escape names no
character. Failure is followed through the scanner by rules for its steps: one for each way to put
steps together, and then one lemma for each function, in the order in which they call each other.
-/
import ProfileReadme.Yaml.Layout

namespace ProfileReadme.Yaml

/-! ## Rules -/

/-- A computation that fails, if it does, with a fault of some kind. -/
def Fails (p : Fault → Prop) (x : Except Fault α) : Prop := ∀ f, x = .error f → p f

section Rules

variable {p : Fault → Prop}

theorem fails_ok (a : α) : Fails p (.ok a : Except Fault α) := nofun

theorem fails_error {f : Fault} (h : p f) : Fails p (.error f : Except Fault α) := by
  rintro _ ⟨⟩
  exact h

theorem Fails.bind {x : Except Fault α} {g : α → Except Fault β} (hx : Fails p x)
    (hg : ∀ a, Fails p (g a)) : Fails p (x >>= g) := by
  cases x with
  | error f => rintro _ ⟨⟩; exact hx f rfl
  | ok a => exact hg a

theorem Fails.map {x : Except Fault α} (hx : Fails p x) (g : α → β) : Fails p (x.map g) := by
  cases x with
  | error f => rintro _ ⟨⟩; exact hx f rfl
  | ok a => exact fails_ok _

theorem Fails.ite {c : Prop} [Decidable c] {x y : Except Fault α} (hx : Fails p x)
    (hy : Fails p y) : Fails p (if c then x else y) := by
  split
  · exact hx
  · exact hy

end Rules

/-! ## Names, tags and directives -/

namespace Layout

end Layout

end ProfileReadme.Yaml
