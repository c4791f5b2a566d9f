/-
Moving a section. A move takes the first displayed section with an id past the one beside it, or
leaves it at its end, and then numbers all sections as they are displayed. So after a move each
section stands where it is displayed, and two moves there and back show the sections as before.
-/
import ProfileReadme.Proofs.Template.Order
import ProfileReadme.Store.Action
import Mathlib.Data.List.Nodup

namespace ProfileReadme

/-- A section but for its order. -/
def Section.unnumbered (s : Section) : Section := { s with order := 0 }

namespace Template

/-! ## One place up or down -/

theorem swapped_perm (xs : List α) (i j : Nat) : (swapped xs i j).Perm xs := by
  unfold swapped
  split
  next a b ha hb =>
    obtain ⟨hi, rfl⟩ := List.getElem?_eq_some_iff.1 ha
    obtain ⟨hj, rfl⟩ := List.getElem?_eq_some_iff.1 hb
    exact List.set_set_perm hi hj
  · exact .refl xs

theorem Move.apply_perm (m : Move) (i : Nat) (xs : List α) : (m.apply i xs).Perm xs := by
  cases m with
  | up =>
    show (if i = 0 then xs else _).Perm xs
    split
    · exact .refl xs
    · exact swapped_perm xs i (i - 1)
  | down => exact swapped_perm xs i (i + 1)

theorem swapped_map (f : α → β) (xs : List α) (i j : Nat) :
    swapped (xs.map f) i j = (swapped xs i j).map f := by
  unfold swapped
  rw [List.getElem?_map, List.getElem?_map]
  cases xs[i]? <;> cases xs[j]? <;> simp [List.map_set]

theorem Move.apply_map (m : Move) (i : Nat) (f : α → β) (xs : List α) :
    m.apply i (xs.map f) = (m.apply i xs).map f := by
  cases m with
  | up =>
    show (if i = 0 then xs.map f else _) = (if i = 0 then xs else _).map f
    split
    · rfl
    · exact swapped_map f xs i (i - 1)
  | down => exact swapped_map f xs i (i + 1)

/-- An item between others goes one place up or down; at an end it stays. -/
inductive Move.Takes (x : α) : Move → List α → List α → List α → Prop
  | top (after : List α) : Takes x .up [] after (x :: after)
  | up (before : List α) (y : α) (after : List α) :
      Takes x .up (before ++ [y]) after (before ++ x :: y :: after)
  | bottom (before : List α) : Takes x .down before [] (before ++ [x])
  | down (before : List α) (y : α) (after : List α) :
      Takes x .down before (y :: after) (before ++ y :: x :: after)

/-- The items that a move takes an item past, if there are any. -/
def Move.ahead (m : Move) (before after : List α) : List α :=
  match m with
  | .up => before
  | .down => after

/-- The move that goes the other way. -/
def Move.back : Move → Move
  | .up => .down
  | .down => .up

variable {x : α} {before after shown : List α} {m : Move}

theorem Move.exists_takes (m : Move) (x : α) (before after : List α) :
    ∃ shown, m.Takes x before after shown := by
  cases m with
  | up =>
    rcases List.eq_nil_or_concat' before with rfl | ⟨before, y, rfl⟩
    · exact ⟨_, .top after⟩
    · exact ⟨_, .up before y after⟩
  | down =>
    cases after with
    | nil => exact ⟨_, .bottom before⟩
    | cons y after => exact ⟨_, .down before y after⟩

theorem Move.Takes.apply_eq (h : m.Takes x before after shown) :
    m.apply before.length (before ++ x :: after) = shown := by
  cases h <;> simp [Move.apply, swapped]

theorem Move.Takes.perm (h : m.Takes x before after shown) :
    shown.Perm (before ++ x :: after) := by
  rw [← h.apply_eq]
  exact m.apply_perm _ _

/-- What a move takes past another item, the other move takes back. -/
theorem Move.Takes.returns (h : m.Takes x before after shown) (room : m.ahead before after ≠ []) :
    ∃ before' after', shown = before' ++ x :: after' ∧
      m.back.Takes x before' after' (before ++ x :: after) := by
  cases h with
  | top | bottom => exact absurd rfl room
  | up before y after =>
    refine ⟨before, y :: after, rfl, ?_⟩
    rw [List.append_assoc]
    exact .down before y after
  | down before y after =>
    refine ⟨before ++ [y], after, by rw [List.append_assoc]; rfl, ?_⟩
    exact .up before y after

/-! ## Numbering -/

/-- What is read off numbered sections, but for their order, is what is read off the sections. -/
theorem numbered_map {f : Section → α}
    (h : ∀ (s : Section) (n : Int), f { s with order := n } = f s)
    (ss : List Section) : (numbered ss).map f = ss.map f := by
  unfold numbered
  refine List.ext_getElem (by simp) fun i hi hi' => ?_
  rw [List.getElem_map, List.getElem_map, List.getElem_mapIdx]
  exact h _ _

theorem numbered_orders (ss : List Section) :
    (numbered ss).map (·.order) = (List.range ss.length).map Int.ofNat := by
  unfold numbered
  refine List.ext_getElem (by simp) fun i hi hi' => ?_
  rw [List.getElem_map, List.getElem_map, List.getElem_mapIdx, List.getElem_range]
  rfl

/-- Sections are numbered by their places, whatever their orders are. -/
theorem numbered_congr {ss ss' : List Section}
    (h : ss'.map Section.unnumbered = ss.map Section.unnumbered) : numbered ss' = numbered ss := by
  have anew (ss : List Section) : numbered (ss.map Section.unnumbered) = numbered ss := by
    unfold numbered
    refine List.ext_getElem (by simp) fun i hi hi' => ?_
    rw [List.getElem_mapIdx, List.getElem_mapIdx, List.getElem_map]
    rfl
  rw [← anew ss', h, anew]

/-- Numbered sections are displayed as they stand. -/
theorem displayed_numbered (t : Template) (ss : List Section) :
    (t.withSections (numbered ss)).displayed = numbered ss := by
  refine List.mergeSort_of_pairwise ?_
  show (numbered ss).Pairwise _
  refine List.pairwise_iff_getElem.2 fun i j hi hj lt => ?_
  simp only [numbered, List.getElem_mapIdx, decide_eq_true_eq]
  omega

/-- A template in which sections of another one stand and are displayed in new places, numbered from
zero on; the template around them and all else of the sections is kept. -/
structure Arranged (t t' : Template) (shown : List Section) : Prop where
  around : t'.withSections t.sections = t
  same : t'.sections.map Section.unnumbered = shown.map Section.unnumbered
  orders : t'.sections.map (·.order) = (List.range shown.length).map Int.ofNat
  displayed : t'.displayed = t'.sections

theorem arranged_numbered (t : Template) (ss : List Section) :
    t.Arranged (t.withSections (numbered ss)) ss :=
  ⟨rfl, numbered_map (fun _ _ => rfl) ss, numbered_orders ss, t.displayed_numbered ss⟩

/-! ## Moves -/

variable {t : Template} {id : String}

theorem moveSection_unknown (unknown : ∀ s ∈ t.sections, s.id ≠ id) (m : Move) :
    t.moveSection id m = t := by
  have none : t.displayed.findIdx? (·.id == id) = none := by
    rw [List.findIdx?_eq_none_iff]
    intro s hs
    simpa using unknown s (t.mem_displayed.1 hs)
  unfold moveSection
  rw [none]

theorem findIdx?_first {before after : List Section} {s : Section} (here : s.id = id)
    (first : ∀ b ∈ before, b.id ≠ id) :
    (before ++ s :: after).findIdx? (·.id == id) = some before.length := by
  have none : before.findIdx? (·.id == id) = none := by
    rw [List.findIdx?_eq_none_iff]
    simpa using first
  rw [List.findIdx?_append, none, List.findIdx?_cons, if_pos (by simpa using here)]
  simp

/-- Only the ids of the sections say which one is moved. -/
theorem findIdx?_numbered (ss : List Section) :
    (numbered ss).findIdx? (·.id == id) = ss.findIdx? (·.id == id) := by
  have byIds (ss : List Section) :
      ss.findIdx? (·.id == id) = (ss.map (·.id)).findIdx? (· == id) := by
    rw [List.findIdx?_map]
    rfl
  rw [byIds, byIds, numbered_map fun _ _ => rfl]

theorem ne_of_distinct {before after : List Section} {s : Section}
    (distinct : ((before ++ s :: after).map (·.id)).Nodup) (here : s.id = id) :
    ∀ b ∈ before, b.id ≠ id := by
  intro b hb same
  rw [List.map_append, List.nodup_append] at distinct
  exact distinct.2.2 _ (List.mem_map_of_mem hb) _ (List.mem_cons_self ..) (same.trans here.symm)

theorem moveSection_first {before after shown : List Section} {s : Section}
    (split : t.displayed = before ++ s :: after) (here : s.id = id)
    (first : ∀ b ∈ before, b.id ≠ id) (takes : m.Takes s before after shown) :
    t.moveSection id m = t.withSections (numbered shown) := by
  unfold moveSection
  rw [split, findIdx?_first here first]
  dsimp only
  rw [takes.apply_eq]

/-- A section that has been taken past another one is taken back. -/
theorem moveSection_back {before after : List Section} {s : Section}
    (distinct : (t.sections.map (·.id)).Nodup) (split : t.displayed = before ++ s :: after)
    (here : s.id = id) (room : m.ahead before after ≠ []) :
    (t.moveSection id m).moveSection id m.back = t.withSections (numbered t.displayed) := by
  obtain ⟨shown, takes⟩ := m.exists_takes s before after
  obtain ⟨before', after', there, returns⟩ := takes.returns room
  have ids : ((before ++ s :: after).map (·.id)).Nodup := by
    rw [← split]
    exact (t.displayed_perm.map _).nodup_iff.2 distinct
  have first := ne_of_distinct ids here
  have ids' : ((before' ++ s :: after').map (·.id)).Nodup := by
    rw [← there]
    exact (takes.perm.map _).nodup_iff.2 ids
  have first' := ne_of_distinct ids' here
  rw [moveSection_first split here first takes]
  unfold moveSection
  rw [displayed_numbered, findIdx?_numbered, there, findIdx?_first here first']
  show t.withSections (numbered _) = _
  refine congrArg t.withSections (numbered_congr ?_)
  -- the way back does not ask for orders
  rw [← Move.apply_map, numbered_map fun _ _ => rfl, Move.apply_map, returns.apply_eq, split]

end Template

/-- Whatever the orders of its sections are, a template without a section of an id is left by a move
of that id as it is. Otherwise the first displayed section with the id goes past the one beside it,
or stays at its end, and the sections stand as they are displayed, numbered from zero on. Where no
id repeats, a section that has gone past another one goes back by the other move, and all are
displayed as before. Nothing else of the template, of a section or of the state is changed. -/
theorem Template.moveSection_arranged (t : Template) (id : String) (m : Move) :
    (∀ (initial : Profile) (st : State), st.template = some t →
      Action.apply initial (.moveSection id m) st =
        .ok { st with template := some (t.moveSection id m) }) ∧
    ((∀ s ∈ t.sections, s.id ≠ id) → t.moveSection id m = t) ∧
    ((∃ s ∈ t.sections, s.id = id) → ∃ before s after shown,
      t.displayed = before ++ s :: after ∧ s.id = id ∧ (∀ b ∈ before, b.id ≠ id) ∧
        m.Takes s before after shown ∧ t.Arranged (t.moveSection id m) shown) ∧
    ((t.sections.map (·.id)).Nodup → ∀ before s after, t.displayed = before ++ s :: after →
      s.id = id → m.ahead before after ≠ [] →
        t.Arranged ((t.moveSection id m).moveSection id m.back) t.displayed) := by
  refine ⟨fun initial st h => ?_, fun unknown => moveSection_unknown unknown m, ?_, ?_⟩
  · show Except.ok { st with template := st.template.map _ } = _
    rw [h]
    rfl
  · rintro ⟨s, hs, here⟩
    have found : (t.displayed.find? (·.id == id)).isSome := by
      rw [List.find?_isSome]
      exact ⟨s, t.mem_displayed.2 hs, by simpa using here⟩
    obtain ⟨first, hfirst⟩ := Option.isSome_iff_exists.1 found
    obtain ⟨at_id, before, after, split, earlier⟩ := List.find?_eq_some_iff_append.1 hfirst
    have at_id : first.id = id := by simpa using at_id
    have earlier : ∀ b ∈ before, b.id ≠ id := fun b hb => by simpa using earlier b hb
    obtain ⟨shown, takes⟩ := m.exists_takes first before after
    refine ⟨before, first, after, shown, split, at_id, earlier, takes, ?_⟩
    rw [moveSection_first split at_id earlier takes]
    exact t.arranged_numbered shown
  · intro distinct before s after split here room
    rw [moveSection_back distinct split here room]
    exact t.arranged_numbered t.displayed

/-- Spacers, two of one order and one that is displayed before them. -/
def tiedTemplate : Template :=
  { metadata := { id := "t", name := "T" },
    sections := [{ id := "a", order := 5, kind := .spacer, data := {}, config := {} },
      { id := "b", order := 5, kind := .spacer, data := {}, config := {} },
      { id := "c", order := -1, kind := .spacer, data := {}, config := {} }] }

example : (tiedTemplate.moveSection "b" .up).sections.map (fun s => (s.id, s.order)) =
    [("c", 0), ("b", 1), ("a", 2)] := by cbv

end ProfileReadme
