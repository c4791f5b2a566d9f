/-
The order of a walk. A block stands at the end of a route, which has a step for each block on the
way: the number of a part or, in a list, the numbers that lead from item to nested item. The walk
finds the block of each route once: a block before all that is in it, and the content of an item
with all that is in it before what is nested in the item, which comes before the next item. This is
the lexicographic order of the routes, in which their lists are put together.
-/
import ProfileReadme.Block.Traversal
import ProfileReadme.Proofs.Block.Exported
import ProfileReadme.Proofs.Block.Labels

namespace ProfileReadme

/-! ## Values in the order of their keys -/

section InOrder

variable {α κ : Type}

theorem keys_filled {f : List κ → Option α} {entries : List (List κ × α)}
    (mem_iff : ∀ ks a, (ks, a) ∈ entries ↔ f ks = some a) (none : f [] = none) :
    ∀ e ∈ entries, ∃ k ks, e.1 = k :: ks := by
  refine fun e he => List.exists_cons_of_ne_nil fun empty => ?_
  have found := (mem_iff e.1 e.2).1 he
  rw [empty, none] at found
  cases found

theorem mem_below {k : κ} {entries : List (List κ × α)} {ks : List κ} {a : α} :
    (ks, a) ∈ entries.map (fun e => (k :: e.1, e.2)) ↔
      ∃ more, ks = k :: more ∧ (more, a) ∈ entries := by
  rw [List.mem_map]
  constructor
  · rintro ⟨⟨more, a⟩, mem, eq⟩
    cases eq
    exact ⟨more, rfl, mem⟩
  · rintro ⟨more, rfl, mem⟩
    exact ⟨(more, a), mem, rfl⟩

variable [LT κ]

/-- A function has these values and no others, each for one key and in the order of the keys. -/
def InOrder (f : κ → Option α) (as : List α) : Prop :=
  ∃ entries : List (κ × α), entries.Pairwise (·.1 < ·.1) ∧
    (∀ k a, (k, a) ∈ entries ↔ f k = some a) ∧ entries.map Prod.snd = as

theorem InOrder.nil {f : κ → Option α} (none : ∀ k, f k = none) : InOrder f [] :=
  ⟨[], .nil, by simp [none], rfl⟩

/-- The empty key comes first. -/
theorem InOrder.front {f g : List κ → Option α} {as : List α} (h : InOrder f as)
    (none : f [] = none) (later : ∀ k ks, g (k :: ks) = f (k :: ks)) :
    InOrder g ((g []).toList ++ as) := by
  obtain ⟨entries, sorted, mem_iff, rfl⟩ := h
  have filled := keys_filled mem_iff none
  refine ⟨(g []).toList.map (fun a => ([], a)) ++ entries, ?_, fun ks a => ?_,
    by simp [Function.comp_def]⟩
  · refine List.pairwise_append.2 ⟨?_, sorted, fun e he e' he' => ?_⟩
    · cases g [] <;> simp
    · obtain ⟨a, -, rfl⟩ := List.mem_map.1 he
      obtain ⟨k, ks, eq⟩ := filled e' he'
      rw [eq]
      exact List.nil_lt_cons k ks
  · cases ks with
    | nil =>
      have no : ([], a) ∉ entries := fun mem => by simpa using filled _ mem
      simp [no, eq_comm]
    | cons k ks =>
      rw [later, ← mem_iff]
      simp

/-- Of two keys, the first one ends where the other goes on, or has less where they part. -/
theorem lt_cases : ∀ {ps qs : List κ}, ps < qs → (∃ q more, qs = ps ++ q :: more) ∨
    ∃ front p q ps' qs', p < q ∧ ps = front ++ p :: ps' ∧ qs = front ++ q :: qs'
  | _, [], h => absurd h (List.not_lt_nil _)
  | [], q :: qs, _ => .inl ⟨q, qs, rfl⟩
  | p :: ps, q :: qs, h => by
    rcases List.cons_lt_cons_iff.1 h with less | ⟨rfl, later⟩
    · exact .inr ⟨[], p, q, ps, qs, less, rfl, rfl⟩
    · rcases lt_cases later with ⟨q, more, rfl⟩ | ⟨front, p', q', ps', qs', less, rfl, rfl⟩
      · exact .inl ⟨q, more, rfl⟩
      · exact .inr ⟨p :: front, p', q', ps', qs', less, rfl, rfl⟩

/-- Entries that go on behind other ones, in the order of those. -/
theorem exists_entries_within {β : Type} {inner : α → List κ → Option β} {out : α → List β} :
    ∀ {firsts : List (κ × α)}, firsts.Pairwise (·.1 < ·.1) →
      (∀ e ∈ firsts, InOrder (inner e.2) (out e.2)) →
      ∃ entries : List (List κ × β), entries.Pairwise (·.1 < ·.1) ∧
        (∀ ks b, (ks, b) ∈ entries ↔
          ∃ e ∈ firsts, ∃ more, ks = e.1 :: more ∧ inner e.2 more = some b) ∧
        entries.map Prod.snd = firsts.flatMap fun e => out e.2
  | [], _, _ => ⟨[], .nil, by simp, rfl⟩
  | first :: firsts, sorted, inside => by
    obtain ⟨before, sorted⟩ := List.pairwise_cons.1 sorted
    obtain ⟨insideFirst, inside⟩ := List.forall_mem_cons.1 inside
    obtain ⟨here, hereSorted, inHere, outHere⟩ := insideFirst
    obtain ⟨later, laterSorted, inLater, outLater⟩ := exists_entries_within sorted inside
    refine ⟨here.map (fun e => (first.1 :: e.1, e.2)) ++ later, ?_, fun ks b => ?_, ?_⟩
    · refine List.pairwise_append.2 ⟨List.pairwise_map.2 ?_, laterSorted, ?_⟩
      · exact hereSorted.imp fun less => List.cons_lt_cons_iff.2 (.inr ⟨rfl, less⟩)
      · rintro ⟨_, _⟩ mem ⟨ks, b⟩ mem'
        obtain ⟨more, rfl, -⟩ := mem_below.1 mem
        obtain ⟨e', he', more', rfl, -⟩ := (inLater ks b).1 mem'
        exact List.cons_lt_cons_iff.2 (.inl (before e' he'))
    · rw [List.mem_append, inLater, List.exists_mem_cons_iff, mem_below]
      simp only [inHere]
    · rw [List.map_append, outLater, List.flatMap_cons, ← outHere, List.map_map]
      rfl

/-- Behind each key the longer keys go on as those of its value. -/
theorem InOrder.within {β : Type} {f : κ → Option α} {g : List κ → Option β} {as : List α}
    {inner : α → List κ → Option β} {out : α → List β} (h : InOrder f as)
    (inside : ∀ a ∈ as, InOrder (inner a) (out a)) (started : g [] = none)
    (later : ∀ k ks, g (k :: ks) = (f k).bind (inner · ks)) : InOrder g (as.flatMap out) := by
  obtain ⟨firsts, sorted, mem_iff, rfl⟩ := h
  rw [List.forall_mem_map] at inside
  obtain ⟨entries, entriesSorted, inEntries, outs⟩ := exists_entries_within sorted inside
  refine ⟨entries, entriesSorted, fun ks b => ?_, by rw [outs, List.flatMap_map]⟩
  rw [inEntries]
  cases ks with
  | nil => simp [started]
  | cons k ks =>
    rw [later, Option.bind_eq_some_iff]
    constructor
    · rintro ⟨⟨k, a⟩, mem, more, eq, found⟩
      cases eq
      exact ⟨a, (mem_iff k a).1 mem, found⟩
    · rintro ⟨a, hk, found⟩
      exact ⟨(k, a), (mem_iff k a).2 hk, ks, rfl, found⟩

end InOrder

/-- Numbers with the first of them raised by one. -/
def raised : List Nat → List Nat
  | [] => []
  | n :: ns => (n + 1) :: ns

theorem raised_lt_raised : ∀ {ms ns : List Nat}, ms < ns → raised ms < raised ns
  | _, [], h => absurd h (List.not_lt_nil _)
  | [], n :: ns, _ => List.nil_lt_cons (n + 1) ns
  | m :: ms, n :: ns, h => by
    rw [List.cons_lt_cons_iff] at h
    exact List.cons_lt_cons_iff.2 (h.imp Nat.succ_lt_succ (And.imp_left (congrArg Nat.succ)))

theorem mem_raised {α : Type} {entries : List (List Nat × α)}
    (filled : ∀ e ∈ entries, ∃ n ns, e.1 = n :: ns) {ks : List Nat} {a : α} :
    (ks, a) ∈ entries.map (fun e => (raised e.1, e.2)) ↔
      ∃ n ns, ks = (n + 1) :: ns ∧ (n :: ns, a) ∈ entries := by
  rw [List.mem_map]
  constructor
  · rintro ⟨⟨ks, a⟩, mem, eq⟩
    obtain ⟨n, ns, rfl⟩ := filled _ mem
    cases eq
    exact ⟨n, ns, rfl, mem⟩
  · rintro ⟨n, ns, rfl, mem⟩
    exact ⟨(n :: ns, a), mem, rfl⟩

/-- The keys that begin with zero go on as those of a first part, the others are the raised keys of
a second part. -/
theorem InOrder.behind {α : Type} {f g h : List Nat → Option α} {as bs : List α}
    (first : InOrder f as) (second : InOrder g bs) (started : h [] = none ∧ g [] = none)
    (zero : ∀ ns, h (0 :: ns) = f ns) (succ : ∀ n ns, h ((n + 1) :: ns) = g (n :: ns)) :
    InOrder h (as ++ bs) := by
  obtain ⟨front, frontSorted, inFront, rfl⟩ := first
  obtain ⟨back, backSorted, inBack, rfl⟩ := second
  have filled := keys_filled inBack started.2
  refine ⟨front.map (fun e => (0 :: e.1, e.2)) ++ back.map (fun e => (raised e.1, e.2)), ?_,
    fun ks a => ?_, by simp [Function.comp_def]⟩
  · refine List.pairwise_append.2 ⟨List.pairwise_map.2 ?_, List.pairwise_map.2 ?_, ?_⟩
    · exact frontSorted.imp fun before => List.cons_lt_cons_iff.2 (.inr ⟨rfl, before⟩)
    · exact backSorted.imp raised_lt_raised
    · simp only [List.forall_mem_map]
      intro e _ e' he'
      obtain ⟨n, ns, eq⟩ := filled e' he'
      rw [eq]
      exact List.cons_lt_cons_iff.2 (.inl n.succ_pos)
  · rw [List.mem_append, mem_below, mem_raised filled]
    rcases ks with _ | ⟨_ | n, ns⟩
    · simp [started.1]
    · simp [zero, inFront]
    · simp [succ, inBack]

/-! ## Routes -/

/-- The item that numbers lead to, the second among the items nested in the first, and so on. -/
def Item.at? : List Item → List Nat → Option Item
  | _, [] => none
  | items, [i] => items[i]?
  | items, i :: j :: numbers => items[i]?.bind fun item => Item.at? item.nested (j :: numbers)

/-- The block that an item shows, unless the item is a text. -/
def Item.block? : Item → Option Block
  | .text .. => none
  | .block content .. => some content

namespace Block

/-- A way from blocks to one that is nested in them. -/
abbrev Route := List (List Nat)

/-- Which of two routes comes first. -/
inductive Route.Precedes : Route → Route → Prop
  /-- A block comes before what is in it. -/
  | inside (route : Route) (step : List Nat) (more : Route) :
    Precedes route (route ++ step :: more)
  /-- The content of an item comes, with all that is in it, before what is nested in the item. -/
  | nested (route : Route) (item : List Nat) (more : Route) (n : Nat) (below : List Nat)
    (more' : Route) : Precedes (route ++ item :: more) (route ++ (item ++ n :: below) :: more')
  /-- A part comes with all that is in it before the next part, and an item with all that is in it
  and in the items nested in it before the next item. -/
  | next (route : Route) (around : List Nat) {m n : Nat} (less : m < n) (below : List Nat)
    (more : Route) (below' : List Nat) (more' : Route) :
    Precedes (route ++ (around ++ m :: below) :: more) (route ++ (around ++ n :: below') :: more')

theorem Route.precedes_of_lt {r s : Route} (h : r < s) : r.Precedes s := by
  rcases lt_cases h with ⟨step, more, rfl⟩ | ⟨route, step, step', more, more', less, rfl, rfl⟩
  · exact .inside r step more
  · rcases lt_cases less with ⟨n, below, rfl⟩ | ⟨around, m, n, below, below', fewer, rfl, rfl⟩
    · exact .nested route step more n below more'
    · exact .next route around fewer below more below' more'

/-- The block with a number. -/
def numbered? (bs : List Block) : List Nat → Option Block
  | [i] => bs[i]?
  | _ => none

/-- What a step leads to from a block: to one of its parts, or to the content of an item. -/
def step? : Block → List Nat → Option Block
  | .element _ _ content, numbers => numbered? content.members numbers
  | .stack _ _ _ children, numbers => numbered? children numbers
  | .list _ _ _ items, numbers => (Item.at? items numbers).bind Item.block?

/-- What a route leads to from a block, which the route without a step stays at. -/
def at? : Block → Route → Option Block
  | b, [] => some b
  | b, step :: route => (b.step? step).bind (·.at? route)

/-- What a route leads to if its first step leads to what a function says. -/
def follow? (f : List Nat → Option Block) : Route → Option Block
  | [] => none
  | step :: route => (f step).bind (·.at? route)

/-- What a route leads to among blocks. -/
def among? (bs : List Block) : Route → Option Block := follow? (numbered? bs)

end Block

/-! ## The order of the parts -/

namespace Item

theorem contents_append (is js : List Item) : contents (is ++ js) = contents is ++ contents js := by
  fun_induction contents is with
  | case1 => rfl
  | case2 _ _ nested pending ih => rw [List.cons_append, contents, ← List.append_assoc, ih]
  | case3 content _ nested pending ih =>
    rw [List.cons_append, contents, ← List.append_assoc, ih, List.cons_append]

theorem contents_cons (i : Item) (is : List Item) :
    contents (i :: is) = i.block?.toList ++ contents i.nested ++ contents is := by
  cases i with
  | text _ _ nested => rw [contents, contents_append]; rfl
  | block content _ nested => rw [contents, contents_append]; rfl

/-- The contents come in the order of the numbers that lead to their items. -/
theorem contents_inOrder : ∀ items : List Item,
    InOrder (fun numbers => (at? items numbers).bind block?) (contents items)
  | [] => by
    rw [contents]
    refine InOrder.nil fun numbers => ?_
    rcases numbers with _ | ⟨i, _ | ⟨j, numbers⟩⟩ <;> rfl
  | i :: is => by
    have below : InOrder (fun numbers => (at? (i :: is) (0 :: numbers)).bind block?)
        (i.block?.toList ++ contents i.nested) :=
      (contents_inOrder i.nested).front rfl fun _ _ => rfl
    rw [contents_cons]
    refine below.behind (contents_inOrder is) ⟨rfl, rfl⟩ (fun _ => rfl) fun n numbers => ?_
    cases numbers <;> rfl
decreasing_by
  · cases i <;> (simp [nested]; omega)
  · rw [List.cons.sizeOf_spec]
    omega

end Item

namespace Block

theorem numbered_inOrder (bs : List Block) : InOrder (numbered? bs) bs := by
  induction bs with
  | nil =>
    refine InOrder.nil fun numbers => ?_
    rcases numbers with _ | ⟨i, _ | ⟨j, numbers⟩⟩ <;> rfl
  | cons b bs ih =>
    have alone : InOrder (fun numbers => numbered? (b :: bs) (0 :: numbers)) [b] :=
      (InOrder.nil (f := fun _ => none) fun _ => rfl).front rfl fun _ _ => rfl
    refine alone.behind ih ⟨rfl, rfl⟩ (fun _ => rfl) fun n numbers => ?_
    cases numbers <;> rfl

theorem step_inOrder (b : Block) : InOrder b.step? b.children := by
  cases b with
  | element id visible content => exact numbered_inOrder content.members
  | stack id visible layout children => exact numbered_inOrder children
  | list id visible marker items => exact Item.contents_inOrder items

theorem length_walk_le {b : Block} {bs : List Block} (mem : b ∈ bs) :
    b.walk.length ≤ (walkAll bs).length := by
  rw [walkAll_eq_flatMap, List.flatMap]
  exact (List.sublist_flatten_of_mem (List.mem_map_of_mem mem)).length_le

/-- The block itself comes first, by the route without a step. -/
theorem walk_inOrder (b : Block) : InOrder b.at? b.walk := by
  have inside : ∀ c ∈ b.children, InOrder c.at? c.walk := fun c _ => walk_inOrder c
  have nested : InOrder (follow? b.step?) (b.children.flatMap walk) :=
    b.step_inOrder.within inside rfl fun _ _ => rfl
  rw [walk_eq, walkAll_eq_flatMap]
  exact nested.front rfl fun _ _ => rfl
termination_by b.walk.length
decreasing_by
  rename_i mem
  have := length_walk_le mem
  rw [walk_eq b, List.length_cons]
  omega

/-- The walk with a queue ends, with the same blocks as the walk by recursion: it finds the block of
each route among the given ones, once for each route and in the order of the routes. -/
theorem traverse_inOrder (bs : List Block) : traverse bs = walkAll bs ∧
    ∃ entries : List (Route × Block), entries.map Prod.snd = traverse bs ∧
      (∀ route b, (route, b) ∈ entries ↔ among? bs route = some b) ∧
      (entries.map Prod.fst).Nodup ∧ entries.Pairwise fun e e' => e.1.Precedes e'.1 := by
  have order : InOrder (among? bs) (bs.flatMap walk) :=
    (numbered_inOrder bs).within (fun b _ => b.walk_inOrder) rfl fun _ _ => rfl
  obtain ⟨entries, sorted, mem_iff, walked⟩ := order
  rw [traverse_eq_walkAll, walkAll_eq_flatMap]
  have distinct : entries.Pairwise fun e e' => e.1 ≠ e'.1 := by
    refine sorted.imp fun {e e'} less same => ?_
    rw [same] at less
    exact List.lt_irrefl e'.1 less
  exact ⟨rfl, entries, walked, mem_iff, List.pairwise_map.2 distinct,
    sorted.imp Route.precedes_of_lt⟩

end Block

end ProfileReadme
