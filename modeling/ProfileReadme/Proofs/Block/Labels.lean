/-
Which ids the blocks of a computation have. A computation gives out numbers in the order in which it
makes its blocks, and the trace of the kinds it makes tells all ids; where the blocks end up in the
tree only changes their order. So the rules below follow a computation step by step, with the labels
of what it was given before and of what it holds in the end.
-/
import ProfileReadme.Proofs.Block.Making
import Mathlib.Data.List.Forall2

namespace ProfileReadme

/-! ## Labels -/

/-- The kind of a block and its id. -/
abbrev Label := BlockKind × String

namespace Block

theorem walkAll_eq_flatMap (bs : List Block) : walkAll bs = bs.flatMap walk := by
  induction bs with
  | nil => rfl
  | cons b bs ih => rw [walkAll, ih, List.flatMap_cons]

def label (b : Block) : Label := (b.kind, b.id)

/-- The labels of a block and of all that is nested in it. -/
def labels (b : Block) : List Label := b.walk.map label

def labelsAll (bs : List Block) : List Label := (walkAll bs).map label

@[simp] theorem labelsAll_nil : labelsAll [] = [] := rfl

@[simp] theorem labelsAll_cons (b : Block) (bs : List Block) :
    labelsAll (b :: bs) = b.labels ++ labelsAll bs := List.map_append

theorem labelsAll_eq_flatMap (bs : List Block) : labelsAll bs = bs.flatMap labels := by
  rw [labelsAll, walkAll_eq_flatMap, List.map_flatMap]
  rfl

@[simp] theorem labelsAll_append (as bs : List Block) :
    labelsAll (as ++ bs) = labelsAll as ++ labelsAll bs := by
  rw [labelsAll_eq_flatMap, List.flatMap_append, ← labelsAll_eq_flatMap, ← labelsAll_eq_flatMap]

theorem labelsAll_flatten (groups : List (List Block)) :
    labelsAll groups.flatten = groups.flatMap labelsAll := by
  induction groups with
  | nil => rfl
  | cons group groups ih => rw [List.flatten_cons, labelsAll_append, ih, List.flatMap_cons]

end Block

theorem Item.walkAll_texts (ss : List String) (icon : Option String) :
    Item.walkAll (ss.map fun s => .text s icon []) = [] := by
  induction ss with
  | nil => rfl
  | cons s ss ih =>
    rw [List.map_cons, Item.walkAll, ih]
    rfl

namespace Numbering

/-- The id of the block of a kind that takes a number. -/
def idOf (scope : String) (k : BlockKind) (i : Nat) : String :=
  scope ++ "-" ++ Named.name k ++ "-" ++ toString i

/-- What is left to number after some blocks have been. -/
def advance (n : Numbering) (taken : Nat) : Numbering := { n with count := n.count + taken }

/-- The labels of blocks of some kinds that take numbers one after the other. -/
def labels (n : Numbering) (ks : List BlockKind) : List Label :=
  ks.mapIdx fun i k => (k, idOf n.scope k (n.count + i + 1))

variable (n : Numbering)

theorem labels_append (ks ks' : List BlockKind) :
    n.labels (ks ++ ks') = n.labels ks ++ (n.advance ks.length).labels ks' := by
  unfold labels advance
  rw [List.mapIdx_append]
  simp only [Nat.add_assoc, Nat.add_comm, Nat.add_left_comm]

theorem advance_advance (i j : Nat) : (n.advance i).advance j = n.advance (i + j) := by
  unfold advance
  rw [Nat.add_assoc]

theorem mem_labels {ks : List BlockKind} {l : Label} :
    l ∈ n.labels ks ↔ ∃ i, ks[i]? = some l.1 ∧ l.2 = idOf n.scope l.1 (n.count + i + 1) := by
  unfold labels
  rw [List.mem_mapIdx]
  constructor
  · rintro ⟨i, bound, rfl⟩
    exact ⟨i, List.getElem?_eq_getElem bound, rfl⟩
  · rintro ⟨i, at_, id⟩
    obtain ⟨bound, kind⟩ := List.getElem?_eq_some_iff.1 at_
    exact ⟨i, bound, Prod.ext kind (by rw [kind, id])⟩

end Numbering

/-! ## Rules -/

namespace Making

variable {ε α β γ : Type}

/-- A computation makes blocks of some kinds, one after the other: what it holds in the end has the
labels that were there before, and those of the blocks that it makes. -/
def Adds (x : Making ε α) (before : List Label) (held : α → List Label)
    (p : List BlockKind → Prop) : Prop :=
  ∀ n a n', x.run n = .ok (a, n') →
    ∃ ks, p ks ∧ n' = n.advance ks.length ∧ (held a).Perm (before ++ n.labels ks)

variable {before : List Label} {p q r : List BlockKind → Prop}

theorem Adds.weaken {x : Making ε α} {held : α → List Label} (h : x.Adds before held p)
    (imp : ∀ ks, p ks → q ks) : x.Adds before held q := by
  intro n a n' hrun
  obtain ⟨ks, hks, hn, perm⟩ := h n a n' hrun
  exact ⟨ks, imp ks hks, hn, perm⟩

theorem adds_pure {a : α} {held : α → List Label} (none : p []) (perm : (held a).Perm before) :
    (pure a : Making ε α).Adds before held p := by
  intro n b n' hrun
  cases hrun
  refine ⟨[], none, rfl, ?_⟩
  rwa [show n.labels [] = [] from rfl, List.append_nil]

theorem adds_throw {e : ε} {held : α → List Label} : (throw e : Making ε α).Adds before held p := by
  intro n a n' hrun
  cases hrun

/-- A step that uses some of what was there before, and what follows it. -/
theorem Adds.bind {x : Making ε α} {f : α → Making ε β} {heldX : α → List Label}
    {held : β → List Label} {used kept : List Label} (hx : x.Adds used heldX p)
    (hf : ∀ a, (f a).Adds (kept ++ heldX a) held q) (join : ∀ ks ks', p ks → q ks' → r (ks ++ ks')) :
    (x >>= f).Adds (kept ++ used) held r := by
  intro n b n'' hrun
  obtain ⟨a, n', ha, hb⟩ := bind_run_ok hrun
  obtain ⟨ks, hks, rfl, perm⟩ := hx n a n' ha
  obtain ⟨ks', hks', rfl, perm'⟩ := hf a _ b n'' hb
  -- the second step numbers on where the first one stopped
  refine ⟨ks ++ ks', join ks ks' hks hks', ?_, ?_⟩
  · rw [Numbering.advance_advance, List.length_append]
  · refine perm'.trans ?_
    rw [Numbering.labels_append, List.append_assoc, List.append_assoc, ← List.append_assoc used]
    exact (perm.append_right _).append_left kept

/-- A step that uses nothing of what was there before, and what follows it. -/
theorem Adds.next {x : Making ε α} {f : α → Making ε β} {heldX : α → List Label}
    {held : β → List Label} (hx : x.Adds [] heldX p)
    (hf : ∀ a, (f a).Adds (before ++ heldX a) held q)
    (join : ∀ ks ks', p ks → q ks' → r (ks ++ ks')) : (x >>= f).Adds before held r := by
  rw [← List.append_nil before]
  exact hx.bind hf join

/-- A step that makes a block, and puts it together with what was there before. -/
theorem adds_nextId {k : BlockKind} {f : String → α} {held : α → List Label}
    (perm : ∀ id, (held (f id)).Perm (before ++ [(k, id)])) :
    (do return f (← nextId k) : Making ε α).Adds before held (· = [k]) := by
  intro n a n' hrun
  cases hrun
  exact ⟨[k], rfl, rfl, perm _⟩

/-! ### One block -/

theorem adds_member (k : BlockKind) (content : α) :
    (member k content : Making ε (Placed α)).Adds [] (fun m => [(k, m.id)]) (· = [k]) :=
  adds_nextId fun _ => .refl _

theorem adds_element (e : Element) :
    (element e : Making ε Block).Adds (e.members.map Block.label) Block.labels (· = [e.kind]) :=
  adds_nextId fun _ => (List.perm_append_singleton _ _).symm

theorem adds_stack (layout : Layout) (children : List Block) :
    (stack layout children : Making ε Block).Adds (Block.labelsAll children) Block.labels
      (· = [layout.kind]) :=
  adds_nextId fun _ => (List.perm_append_singleton _ _).symm

/-- A list of texts holds no other blocks. -/
theorem adds_texts (marker : ListMarker) (ss : List String) (icon : Option String) :
    (list marker (ss.map fun s => .text s icon []) : Making ε Block).Adds [] Block.labels
      (· = [.list]) := by
  refine adds_nextId fun id => ?_
  rw [Block.labels, Block.walk, Item.walkAll_texts]
  exact .refl _

/-! ### Several blocks -/

theorem adds_mapM {f : γ → Making ε α} {held : α → List Label} {p : γ → List BlockKind → Prop}
    (h : ∀ c, (f c).Adds [] held (p c)) (l : List γ) :
    (l.mapM f).Adds [] (·.flatMap held) fun ks => ∃ kss, List.Forall₂ p l kss ∧ ks = kss.flatten := by
  induction l with
  | nil => exact adds_pure ⟨[], .nil, rfl⟩ (.refl _)
  | cons c l ih =>
    have step (a : α) : (do return a :: (← l.mapM f) : Making ε (List α)).Adds (held a)
        (·.flatMap held) fun ks => ∃ kss, List.Forall₂ p l kss ∧ ks = kss.flatten := by
      refine ih.next (fun as => adds_pure (p := (· = [])) rfl (.refl _)) ?_
      rintro ks _ hks rfl
      rwa [List.append_nil]
    rw [List.mapM_cons]
    refine (h c).next (fun a => step a) ?_
    rintro ks _ hks ⟨kss, hkss, rfl⟩
    exact ⟨ks :: kss, .cons hks hkss, rfl⟩

/-! ### Traces in full -/

section Exact

variable {x : Making ε α} {f : α → Making ε β} {held : α → List Label} {held' : β → List Label}
  {ks ks' : List BlockKind}

theorem Adds.after (hx : x.Adds [] held (· = ks))
    (hf : ∀ a, (f a).Adds (before ++ held a) held' (· = ks')) :
    (x >>= f).Adds before held' (· = ks ++ ks') :=
  hx.next hf fun _ _ same same' => congrArg₂ _ same same'

/-- The last blocks, after which all are only put together. -/
theorem Adds.last {x : Making ε (List Block)} {f : List Block → Making ε β}
    (hx : x.Adds [] Block.labelsAll (· = ks))
    (hf : ∀ bs, (f bs).Adds (before ++ Block.labelsAll bs) held' (· = [])) :
    (x >>= f).Adds before held' (· = ks) := by
  refine hx.next hf ?_
  rintro _ _ same rfl
  rwa [List.append_nil]

theorem adds_flatMap {f : γ → Making ε α} (trace : γ → List BlockKind)
    (h : ∀ c, (f c).Adds [] held (· = trace c)) (l : List γ) :
    (l.mapM f).Adds [] (·.flatMap held) (· = l.flatMap trace) := by
  refine (adds_mapM h l).weaken ?_
  rintro _ ⟨kss, each, rfl⟩
  induction each with
  | nil => rfl
  | cons first _ ih => rw [List.flatten_cons, ih, first, List.flatMap_cons]

/-- Blocks of one kind, one for each item. -/
theorem adds_each {f : γ → Making ε α} {k : BlockKind} (h : ∀ c, (f c).Adds [] held (· = [k]))
    (l : List γ) : (l.mapM f).Adds [] (·.flatMap held) (· = l.map fun _ => k) := by
  rw [List.map_eq_flatMap]
  exact adds_flatMap _ h l

theorem adds_members (k : BlockKind) (f : γ → α) (l : List γ) :
    (l.mapM fun c => member k (f c) : Making ε (List (Placed α))).Adds []
      (·.map fun m => (k, m.id)) (· = l.map fun _ => k) := by
  have made := adds_each (ε := ε) (fun c => adds_member k (f c)) l
  simpa only [← List.map_eq_flatMap] using made

end Exact

theorem adds_single {x : Making ε Block} (h : x.Adds before Block.labels p) :
    (do return [← x]).Adds before Block.labelsAll p := by
  rw [← List.nil_append before]
  refine Adds.bind (q := (· = [])) h (fun b => adds_pure rfl ?_) ?_
  · rw [Block.labelsAll_cons, Block.labelsAll_nil, List.append_nil, List.nil_append]
  · rintro ks _ hks rfl
    rwa [List.append_nil]

/-! ### Blocks of certain kinds -/

/-- A computation makes blocks of certain kinds only. -/
def AddsOf (kinds : List BlockKind) (x : Making ε α) (before : List Label)
    (held : α → List Label) : Prop :=
  x.Adds before held (∀ k ∈ ·, k ∈ kinds)

variable {kinds : List BlockKind} {x : Making ε α} {held : α → List Label}

theorem Adds.of {ks : List BlockKind} (h : x.Adds before held (· = ks))
    (listed : ∀ k ∈ ks, k ∈ kinds) : AddsOf kinds x before held :=
  h.weaken fun _ same => same ▸ listed

theorem addsOf_pure {a : α} (perm : (held a).Perm before) :
    AddsOf kinds (pure a : Making ε α) before held :=
  adds_pure (fun _ none => absurd none List.not_mem_nil) perm

theorem AddsOf.next {f : α → Making ε β} {held' : β → List Label} (hx : AddsOf kinds x [] held)
    (hf : ∀ a, AddsOf kinds (f a) (before ++ held a) held') :
    AddsOf kinds (x >>= f) before held' :=
  Adds.next hx hf fun _ _ h h' => List.forall_mem_append.2 ⟨h, h'⟩

theorem AddsOf.bind {f : α → Making ε β} {held' : β → List Label} {used kept : List Label}
    (hx : AddsOf kinds x used held) (hf : ∀ a, AddsOf kinds (f a) (kept ++ held a) held') :
    AddsOf kinds (x >>= f) (kept ++ used) held' :=
  Adds.bind hx hf fun _ _ h h' => List.forall_mem_append.2 ⟨h, h'⟩

theorem addsOf_mapM {f : γ → Making ε α} (h : ∀ c, AddsOf kinds (f c) [] held) (l : List γ) :
    AddsOf kinds (l.mapM f) [] (·.flatMap held) := by
  refine (adds_mapM h l).weaken ?_
  rintro _ ⟨kss, each, rfl⟩ k hk
  obtain ⟨ks, hks, hk⟩ := List.mem_flatten.1 hk
  obtain ⟨i, bound, rfl⟩ := List.getElem_of_mem hks
  exact (List.forall₂_iff_get.1 each).2 i (each.length_eq ▸ bound) bound k hk

theorem addsOf_groups {f : γ → Making ε (List Block)}
    (h : ∀ c, AddsOf kinds (f c) [] Block.labelsAll) (l : List γ) :
    AddsOf kinds (l.mapM f) [] (·.flatMap Block.labelsAll) := addsOf_mapM h l

theorem addsOf_blocks {f : γ → Making ε Block} (h : ∀ c, AddsOf kinds (f c) [] Block.labels)
    (l : List γ) : AddsOf kinds (l.mapM f) [] Block.labelsAll := by
  rw [show Block.labelsAll = (·.flatMap Block.labels) from funext Block.labelsAll_eq_flatMap]
  exact addsOf_mapM h l

theorem addsOf_single {x : Making ε Block} (h : AddsOf kinds x before Block.labels) :
    AddsOf kinds (do return [← x]) before Block.labelsAll := adds_single h

theorem addsOf_none : AddsOf kinds (pure [] : Making ε (List Block)) [] Block.labelsAll :=
  addsOf_pure (.refl _)

end Making

end ProfileReadme
