/-
Steps that may fail, one after the other: a result comes of results of all of them.
-/
import Mathlib.Logic.Function.Basic

namespace ProfileReadme

theorem bind_eq_ok {x : Except ε α} {f : α → Except ε β} {b : β} (h : x >>= f = .ok b) :
    ∃ a, x = .ok a ∧ f a = .ok b := by
  cases x with
  | error fault => cases h
  | ok a => exact ⟨a, rfl, h⟩

theorem map_eq_ok {x : Except ε α} {f : α → β} {b : β} (h : x.map f = .ok b) :
    ∃ a, x = .ok a ∧ f a = b := by
  cases x with
  | error fault => cases h
  | ok a => exact ⟨a, rfl, Except.ok.inj h⟩

theorem ok_of_toOption {x : Except ε α} {a : α} (h : x.toOption = some a) : x = .ok a := by
  cases x with
  | error e => cases h
  | ok b => exact congrArg _ (Option.some.inj h)

theorem exists_bind_ok {x : Except ε α} {f : α → Except ε β} :
    (∃ b, (x >>= f) = .ok b) ↔ ∃ a, x = .ok a ∧ ∃ b, f a = .ok b := by
  constructor
  · rintro ⟨b, h⟩
    obtain ⟨a, hx, hb⟩ := bind_eq_ok h
    exact ⟨a, hx, b, hb⟩
  · rintro ⟨a, rfl, more⟩
    exact more

/-- Two steps come to a pair of results exactly if each comes to its own. -/
theorem both_ok_iff {x : Except ε α} {y : Except ε β} {f : α → β → γ} (inj : Function.Injective2 f)
    {a : α} {b : β} : (do let a ← x; let b ← y; return f a b) = Except.ok (f a b) ↔
      x = .ok a ∧ y = .ok b := by
  cases x with
  | error fault => exact iff_of_false nofun nofun
  | ok a' =>
    cases y with
    | error fault => exact iff_of_false nofun nofun
    | ok b' =>
      constructor
      · intro h
        obtain ⟨rfl, rfl⟩ := inj (Except.ok.inj h)
        exact ⟨rfl, rfl⟩
      · rintro ⟨⟨⟩, ⟨⟩⟩
        rfl

theorem map_ok_iff {x : Except ε α} {f : α → β} (inj : Function.Injective f) {a : α} :
    f <$> x = .ok (f a) ↔ x = .ok a := by
  cases x with
  | error fault => exact iff_of_false nofun nofun
  | ok a' => exact ⟨fun h => congrArg _ (inj (Except.ok.inj h)), fun h => by cases h; rfl⟩

theorem mapM_cons_ok {f : α → Except ε β} {a : α} {as : List α} {b : β} {bs : List β} :
    (a :: as).mapM f = .ok (b :: bs) ↔ f a = .ok b ∧ as.mapM f = .ok bs := by
  rw [List.mapM_cons]
  exact both_ok_iff fun _ _ _ _ => List.cons.inj

end ProfileReadme
