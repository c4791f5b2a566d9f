/-
Plain values, which JSON text has a form for: no dates and no numbers with a fraction, and objects
whose keys are names that do not repeat.
-/
import ProfileReadme.Value.Basic

namespace ProfileReadme

/-- A value that JSON text has a form for, nested at most `room` levels deep. -/
def Value.Plain : Nat → Value → Prop
  | _, .null | _, .bool _ | _, .int _ | _, .text _ => True
  | room + 1, .list items => ∀ v ∈ items, Plain room v
  | room + 1, .object fields =>
    (∃ names : List String, names.Nodup ∧ fields.map Prod.fst = names.map Key.name) ∧
      ∀ f ∈ fields, Plain room f.2
  | _, _ => False

namespace Value

/-! ## What is plain -/

@[simp] theorem plain_null (room : Nat) : Value.null.Plain room := by cases room <;> trivial

@[simp] theorem plain_bool (room : Nat) (b : Bool) : (Value.bool b).Plain room := by
  cases room <;> trivial

@[simp] theorem plain_int (room : Nat) (n : Int) : (Value.int n).Plain room := by
  cases room <;> trivial

@[simp] theorem plain_text (room : Nat) (s : String) : (Value.text s).Plain room := by
  cases room <;> trivial

@[simp] theorem plain_optional {room : Nat} {write : α → Value} {o : Option α}
    (h : ∀ a, (write a).Plain room) : (Value.optional write o).Plain room := by
  cases o with
  | none => exact plain_null room
  | some a => exact h a

@[simp] theorem plain_list {room : Nat} {vs : List Value} :
    (Value.list vs).Plain (room + 1) ↔ ∀ v ∈ vs, v.Plain room := Iff.rfl

@[simp] theorem plain_texts (room : Nat) (ss : List String) :
    (Value.texts ss).Plain (room + 1) := by
  simp [texts]

@[simp] theorem plain_obj {room : Nat} {ps : List (String × Value)} :
    (obj ps).Plain (room + 1) ↔ (ps.map Prod.fst).Nodup ∧ ∀ p ∈ ps, p.2.Plain room := by
  have keys : (ps.map fun p => (Key.name p.1, p.2)).map Prod.fst =
      (ps.map Prod.fst).map Key.name := by simp
  constructor
  · rintro ⟨⟨names, distinct, same⟩, inside⟩
    rw [keys] at same
    rw [(List.map_inj_right fun _ _ => Key.name.inj).1 same]
    exact ⟨distinct, fun p hp => inside _ (List.mem_map_of_mem hp)⟩
  · rintro ⟨distinct, inside⟩
    refine ⟨⟨_, distinct, keys⟩, fun f hf => ?_⟩
    obtain ⟨p, hp, rfl⟩ := List.mem_map.1 hf
    exact inside p hp

end Value

/-! ## Objects whose keys do not repeat -/

namespace Fields

theorem put_new (value : Value) {k : Key} : ∀ {fs : Fields}, k ∉ fs.map Prod.fst →
    put k value fs = fs ++ [(k, value)]
  | [], _ => rfl
  | (k', v) :: rest, h => by
    rw [List.map_cons, List.mem_cons, not_or] at h
    show (if k' = k then _ else _) = _
    rw [if_neg (fun same => h.1 same.symm)]
    exact congrArg _ (put_new value h.2)

theorem ofPairs_nodup {pairs : List (Key × Value)} (h : (pairs.map Prod.fst).Nodup) :
    ofPairs pairs = pairs := by
  have grow : ∀ (rest done : List (Key × Value)), ((done ++ rest).map Prod.fst).Nodup →
      rest.foldl (fun fs p => put p.1 p.2 fs) done = done ++ rest := by
    intro rest
    induction rest with
    | nil => intro done _; exact (List.append_nil done).symm
    | cons p rest ih =>
      intro done nodup
      have new : p.1 ∉ done.map Prod.fst := by
        rw [List.map_append, List.map_cons] at nodup
        exact fun mem => (List.nodup_append.1 nodup).2.2 _ mem _ (List.mem_cons_self ..) rfl
      have last : put p.1 p.2 done = done ++ [p] := put_new p.2 new
      show rest.foldl _ (put p.1 p.2 done) = _
      rw [last, ih _ (by simpa using nodup), List.append_assoc]
      rfl
  exact grow pairs [] h

end Fields

end ProfileReadme
