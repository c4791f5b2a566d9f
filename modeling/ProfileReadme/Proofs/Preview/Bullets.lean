/-
A list as markdown and as a preview. Both show the same entries in the same order at the same
depth: the items that have something to say, numbered in each list from one on, and of an item
that has nothing to say neither the item nor what is nested in it. The one writes them as lines, one
after the other, with the depth as an indentation; in the other they are `li` elements, nested
in lists as their items are.
-/
import ProfileReadme.Proofs.Block.Exported
import ProfileReadme.Proofs.Preview.Drawing

namespace ProfileReadme

open Preview Preview.Drawing

/-! ## Items -/

namespace Item

def icon : Item → Option String
  | .text _ icon _ | .block _ icon _ => icon

/-- What an item says, as markdown. -/
def said : Item → String
  | .text s _ _ => s
  | .block b _ _ => b.markdown

/-- Whether an item says anything. -/
def speaks (i : Item) : Bool := !i.said.isEmpty

/-- An item with a text or a text block, as are all that are nested in it. -/
inductive IsPlain : Item → Prop
  | text {s icon nested} (below : ∀ i ∈ nested, IsPlain i) : IsPlain (.text s icon nested)
  | phrase {id visible p icon nested} (below : ∀ i ∈ nested, IsPlain i) :
    IsPlain (.block (.element id visible (.text p)) icon nested)

theorem IsPlain.nested {i : Item} (h : i.IsPlain) : ∀ j ∈ i.nested, j.IsPlain := by
  cases h with
  | text below => exact below
  | phrase below => exact below

/-- Lists of items are taken apart into a first item, what is nested in it, and the others. -/
@[elab_as_elim]
theorem forestRec {p : List Item → Prop} (nil : p [])
    (cons : ∀ i rest, p i.nested → p rest → p (i :: rest)) (items : List Item) : p items := by
  cases items with
  | nil => exact nil
  | cons i rest =>
    refine cons i rest ?_ (forestRec nil cons rest)
    cases i with
    | text s icon nested => exact forestRec nil cons nested
    | block b icon nested => exact forestRec nil cons nested

end Item

/-! ## Entries -/

/-- An item that is shown: its number in its list, and the numbers of the entries around that list,
the innermost first. -/
structure Entry where
  number : Nat
  around : List Nat
  item : Item

mutual

/-- The entry of an item and those below it. -/
def Item.entries (around : List Nat) (number : Nat) : Item → List Entry
  | .text s icon nested =>
    ⟨number, around, .text s icon nested⟩ :: Item.entriesAll (number :: around) 1 nested
  | .block b icon nested =>
    ⟨number, around, .block b icon nested⟩ :: Item.entriesAll (number :: around) 1 nested

/-- The entries of a list in order, counted from a number on, each before those below it. -/
def Item.entriesAll (around : List Nat) (number : Nat) : List Item → List Entry
  | [] => []
  | i :: rest =>
    if i.speaks then i.entries around number ++ Item.entriesAll around (number + 1) rest
    else Item.entriesAll around number rest

end

namespace Entry

def depth (e : Entry) : Nat := e.around.length

/-- The line of an entry. -/
def line (marker : ListMarker) (e : Entry) : String :=
  Markdown.listLine marker e.depth e.number e.item.icon e.item.said

end Entry

namespace Item

theorem entries_eq (around : List Nat) (number : Nat) (i : Item) :
    i.entries around number =
      ⟨number, around, i⟩ :: entriesAll (number :: around) 1 i.nested := by
  cases i <;> rfl

/-- The entries of a list are the items that say anything, counted one by one, and below each of
them those of its own list. -/
theorem entriesAll_eq (around : List Nat) : ∀ (items : List Item) (number : Nat),
    entriesAll around number items =
      ((items.filter speaks).zipIdx number).flatMap fun (i, n) => i.entries around n
  | [], _ => rfl
  | i :: rest, number => by
    rw [entriesAll, List.filter_cons]
    cases i.speaks with
    | true => rw [if_pos rfl, if_pos rfl, List.zipIdx_cons, List.flatMap_cons, entriesAll_eq]
    | false => exact entriesAll_eq around rest number

theorem linesAll_cons (marker : ListMarker) (depth number : Nat) (i : Item) (rest : List Item) :
    linesAll marker depth number (i :: rest) =
      if i.speaks then
        Markdown.listLine marker depth number i.icon i.said
          :: linesAll marker (depth + 1) 1 i.nested
          ++ linesAll marker depth (number + 1) rest
      else linesAll marker depth number rest := by
  cases i <;> rw [linesAll] <;> simp [speaks, said, icon, nested]

/-- The lines of a list are those of its entries. -/
theorem linesAll_eq (marker : ListMarker) (items : List Item) : ∀ around number,
    linesAll marker around.length number items =
      (entriesAll around number items).map (Entry.line marker) := by
  induction items using forestRec with
  | nil =>
    intro around number
    rfl
  | cons i rest below others =>
    intro around number
    rw [linesAll_cons, entriesAll]
    split
    · rw [List.map_append, entries_eq, List.map_cons, ← below, ← others]
      rfl
    · exact others around number

end Item

/-! ## Numbers -/

/-- The numbers of the entries that are right below a place. -/
def numbersAt (place : List Nat) (entries : List Entry) : List Nat :=
  (entries.filter (·.around = place)).map (·.number)

section

variable {around place : List Nat} {number : Nat} {entries entries' : List Entry}

theorem numbersAt_append :
    numbersAt place (entries ++ entries') =
      numbersAt place entries ++ numbersAt place entries' := by
  simp [numbersAt]

theorem numbersAt_eq_nil (h : ∀ e ∈ entries, e.around ≠ place) :
    numbersAt place entries = [] := by
  simpa [numbersAt] using h

/-- All entries of a list are below its place, at one of its numbers. -/
theorem Item.mem_entriesAll (items : List Item) : ∀ {around number} {e : Entry},
    e ∈ Item.entriesAll around number items →
      ∃ n, number ≤ n ∧ n :: around <:+ e.number :: e.around := by
  induction items using Item.forestRec with
  | nil =>
    intro around number e h
    cases h
  | cons i rest below others =>
    intro around number e h
    rw [Item.entriesAll] at h
    split at h
    · rw [Item.entries_eq] at h
      rcases List.mem_append.1 h with h | h
      · rcases List.mem_cons.1 h with rfl | h
        · exact ⟨number, le_rfl, List.suffix_rfl⟩
        · obtain ⟨n, -, within⟩ := below h
          exact ⟨number, le_rfl, (List.suffix_cons n _).trans within⟩
      · obtain ⟨n, le, within⟩ := others h
        exact ⟨n, by omega, within⟩
    · exact others h

/-- An entry that is not of a list itself is below an entry of it. -/
theorem Item.suffix_of_elsewhere {items : List Item} {e : Entry}
    (he : e ∈ Item.entriesAll around number items) (elsewhere : e.around ≠ around) :
    ∃ n, number ≤ n ∧ n :: around <:+ e.around := by
  obtain ⟨n, le, within⟩ := Item.mem_entriesAll items he
  rcases List.suffix_cons_iff.1 within with same | within
  · exact absurd (List.tail_eq_of_cons_eq same).symm elsewhere
  · exact ⟨n, le, within⟩

theorem Item.suffix_of_nested {i : Item} {e : Entry} (he : e ∈ i.entries around number)
    (elsewhere : e.around ≠ around) : number :: around <:+ e.around := by
  rw [Item.entries_eq] at he
  rcases List.mem_cons.1 he with rfl | he
  · exact absurd rfl elsewhere
  obtain ⟨n, -, within⟩ := Item.mem_entriesAll i.nested he
  rcases List.suffix_cons_iff.1 within with same | within
  · exact List.tail_eq_of_cons_eq same ▸ List.suffix_rfl
  · exact (List.suffix_cons n _).trans within

/-- The entries of a list itself are counted from its first number on. -/
theorem Item.numbersAt_here : ∀ (items : List Item) (around : List Nat) (number : Nat),
    numbersAt around (Item.entriesAll around number items) =
      List.range' number (items.filter Item.speaks).length
  | [], _, _ => rfl
  | i :: rest, around, number => by
    have below : numbersAt around (Item.entriesAll (number :: around) 1 i.nested) = [] := by
      refine numbersAt_eq_nil fun e he same => ?_
      obtain ⟨n, -, within⟩ := Item.mem_entriesAll i.nested he
      have longer := within.length_le
      rw [same, List.length_cons, List.length_cons, List.length_cons] at longer
      omega
    have first : numbersAt around (i.entries around number) = [number] := by
      rw [Item.entries_eq, ← List.singleton_append, numbersAt_append, below]
      simp [numbersAt]
    rw [Item.entriesAll, List.filter_cons]
    split
    · rw [numbersAt_append, first, Item.numbersAt_here rest]
      rfl
    · exact Item.numbersAt_here rest around number

/-- In each list that is nested at any place the entries are counted from one on. -/
theorem Item.numbersAt_elsewhere (items : List Item) : ∀ {around number}, place ≠ around →
    ∃ k, numbersAt place (Item.entriesAll around number items) = List.range' 1 k := by
  induction items using Item.forestRec with
  | nil => exact fun _ => ⟨0, rfl⟩
  | cons i rest below others =>
    intro around number elsewhere
    rw [Item.entriesAll]
    split
    · rw [numbersAt_append]
      by_cases here : number :: around <:+ place
      · -- what is below this entry is not below a later one
        have none : numbersAt place (Item.entriesAll around (number + 1) rest) = [] := by
          refine numbersAt_eq_nil fun e he same => ?_
          obtain ⟨n, later, within⟩ := Item.suffix_of_elsewhere he (same ▸ elsewhere)
          rw [same] at within
          have one := (List.suffix_of_suffix_length_le here within (by simp)).eq_of_length (by simp)
          have := List.head_eq_of_cons_eq one
          omega
        have first : numbersAt place [⟨number, around, i⟩] = [] :=
          numbersAt_eq_nil (by simpa using Ne.symm elsewhere)
        rw [none, List.append_nil, Item.entries_eq, ← List.singleton_append, numbersAt_append,
          first, List.nil_append]
        by_cases right : place = number :: around
        · subst right
          exact ⟨_, Item.numbersAt_here i.nested (number :: around) 1⟩
        · exact below right
      · have none : numbersAt place (i.entries around number) = [] :=
          numbersAt_eq_nil fun e he same =>
            here (same ▸ Item.suffix_of_nested he (same ▸ elsewhere))
        rw [none, List.nil_append]
        exact others elsewhere
    · exact others elsewhere

/-- The numbers of the entries of each list have no gaps. -/
theorem Item.numbersAt_eq (items : List Item) (place : List Nat) :
    ∃ k, numbersAt place (Item.entriesAll [] 1 items) = List.range' 1 k := by
  by_cases here : place = []
  · subst here
    exact ⟨_, Item.numbersAt_here items [] 1⟩
  · exact Item.numbersAt_elsewhere items here

end

/-! ## Elements -/

namespace Preview

mutual

/-- The items of lists in a tree, in order, each before what it holds; with the number of lists
around each. -/
def Node.bullets (depth : Nat) : Node → List (Nat × Node)
  | .mk tag attrs children raw =>
    if tag = "li" then (depth, .mk tag attrs children raw) :: Child.bulletsAll depth children
    else Child.bulletsAll (if tag = "ul" ∨ tag = "ol" then depth + 1 else depth) children

def Child.bulletsAll (depth : Nat) : List Child → List (Nat × Node)
  | [] => []
  | .text _ :: rest => Child.bulletsAll depth rest
  | .node n :: rest => n.bullets depth ++ Child.bulletsAll depth rest

end

/-- The items of lists that a page shows. -/
def bulletsOf (node : Option Node) : List (Nat × Node) := node.toList.flatMap (Node.bullets 0)

variable {depth : Nat}

theorem bulletsAll_append : ∀ cs cs' : List Child,
    Child.bulletsAll depth (cs ++ cs') = Child.bulletsAll depth cs ++ Child.bulletsAll depth cs'
  | [], _ => rfl
  | .text _ :: cs, cs' => bulletsAll_append cs cs'
  | .node n :: cs, cs' => by
    rw [List.cons_append, Child.bulletsAll, bulletsAll_append cs cs', Child.bulletsAll,
      List.append_assoc]

theorem bulletsAll_nodes : ∀ ns : List Node,
    Child.bulletsAll depth (ns.map Child.node) = ns.flatMap (Node.bullets depth)
  | [] => rfl
  | n :: ns => by
    rw [List.map_cons, Child.bulletsAll, bulletsAll_nodes ns, List.flatMap_cons]

theorem bullets_listOf (marker : ListMarker) (ns : List Node) :
    (listOf marker ns).toList.flatMap (Node.bullets depth) =
      ns.flatMap (Node.bullets (depth + 1)) := by
  have inList (tag : String) (attrs : List (String × Option String))
      (hl : tag = "ul" ∨ tag = "ol") : (container tag attrs ns).toList.flatMap (Node.bullets depth)
        = ns.flatMap (Node.bullets (depth + 1)) := by
    unfold container
    split
    next none =>
      obtain rfl := List.isEmpty_iff.1 none
      rfl
    · have other : tag ≠ "li" := by rcases hl with rfl | rfl <;> decide
      have parts : (ns.map inside).filterMap id = ns.map Child.node := by
        rw [List.filterMap_map]
        exact congrFun (List.filterMap_eq_map (f := Child.node)) ns
      rw [Option.toList_some, List.flatMap_singleton, element, Node.bullets, if_neg other,
        if_pos hl, parts, bulletsAll_nodes]
  cases marker <;> exact inList _ _ (by decide)

/-- The element of an item, and the items in the list below it. -/
theorem bullets_entry {content : Child} (bare : Child.bulletsAll depth [content] = [])
    (icon : Option String) (below : Option Node) (raw : Bool) :
    (entry icon content below raw).bullets depth =
      (depth, entry icon content below raw) :: below.toList.flatMap (Node.bullets depth) := by
  have inside : Child.bulletsAll depth
      ([part? icon (classed "span" "list-icon"), some content, below.map .node].filterMap id) =
        below.toList.flatMap (Node.bullets depth) := by
    have parts : [part? icon (classed "span" "list-icon"), some content,
        below.map .node].filterMap id = (part? icon (classed "span" "list-icon")).toList ++
          ([content] ++ (below.toList.map Child.node)) := by
      cases part? icon (classed "span" "list-icon") <;> cases below <;> rfl
    have noIcon : Child.bulletsAll depth (part? icon (classed "span" "list-icon")).toList = [] := by
      unfold part?
      cases Text.filled? icon <;> rfl
    rw [parts, bulletsAll_append, bulletsAll_append, noIcon, bare, bulletsAll_nodes]
    rfl
  rw [← inside, entry, element, Node.bullets, if_pos rfl]

end Preview

/-! ## Drawings of plain items -/

/-- An element for an item: its icon, what it says, and the list below it. -/
inductive Item.IsShownAs : Item → Node → Prop
  | text {s icon nested below} :
    IsShownAs (.text s icon nested) (entry icon (.text (Inline.html s)) below true)
  | phrase {id visible p icon nested n below} (drawn : Element.Phrase.draw p = some n) :
    IsShownAs (.block (.element id visible (.text p)) icon nested)
      (entry icon (.node n) below false)

/-- An entry and its element, with one list around it for each entry around it, and its own. -/
def Entry.Matches (e : Entry) (bullet : Nat × Node) : Prop :=
  bullet.1 = e.depth + 1 ∧ e.item.IsShownAs bullet.2

namespace Preview.Drawing

/-- A drawing that comes to a result, whatever is tracked, and tracks nothing. -/
def Gives (x : Drawing α) (a : α) : Prop := ∀ t, x.run t = (.ok a, t)

theorem gives_pure (a : α) : (pure a : Drawing α).Gives a := fun _ => rfl

theorem Gives.bind {x : Drawing α} {f : α → Drawing β} {a : α} {b : β} (hx : x.Gives a)
    (hf : (f a).Gives b) : (x >>= f).Gives b := by
  intro t
  rw [run_bind, hx t]
  exact hf t

end Preview.Drawing

theorem Element.Phrase.bullets_draw {p : Phrase} {n : Node} (h : p.draw = some n) (depth : Nat) :
    n.bullets depth = [] := by
  unfold Phrase.draw at h
  split at h
  · cases h
  · cases h
    rfl

/-- A text block says something exactly if it is drawn. -/
theorem Block.phrase_drawn (c : Context) (id : String) (visible : Bool) (p : Element.Phrase) :
    ∃ node, ((Block.element id visible (.text p)).drawTree c).Gives node ∧
      (node = none ∨ node = p.draw) ∧
        (Block.element id visible (.text p)).markdown.isEmpty = node.isNone := by
  unfold Block.drawTree Block.markdown
  cases visible with
  | false => exact ⟨none, gives_pure none, .inl rfl, rfl⟩
  | true =>
    refine ⟨p.draw, gives_pure p.draw, .inr rfl, ?_⟩
    have spoken : p.markdown.isEmpty = p.value.isEmpty :=
      Bool.eq_iff_iff.2 (String.isEmpty_iff.trans p.markdown_eq_empty_iff)
    refine spoken.trans ?_
    unfold Element.Phrase.draw
    split
    next none => rw [none]; rfl
    next some => rw [Bool.eq_false_iff.2 some]; rfl

/-- Plain items are drawn as elements for their entries, one after the other. -/
theorem Item.drawAll_plain (c : Context) (marker : ListMarker) (items : List Item) :
    (∀ i ∈ items, i.IsPlain) → ∃ nodes, (Item.drawAll c marker items).Gives nodes ∧
      ∀ around number, List.Forall₂ Entry.Matches (Item.entriesAll around number items)
        (nodes.flatMap (Node.bullets (around.length + 1))) := by
  induction items using Item.forestRec with
  | nil => exact fun _ => ⟨[], gives_pure [], fun _ _ => .nil⟩
  | cons i rest below others =>
    intro plain
    obtain ⟨plain, plains⟩ := List.forall_mem_cons.1 plain
    obtain ⟨ns, hns, inner⟩ := below plain.nested
    obtain ⟨ms, hms, outer⟩ := others plains
    -- an item that says something: its element, the items below it, and those after it
    have shown {content : Child} {raw : Bool} (spoken : i.speaks = true)
        (bare : ∀ depth, Child.bulletsAll depth [content] = [])
        (here : i.IsShownAs (entry i.icon content (listOf marker ns) raw)) (around number) :
        List.Forall₂ Entry.Matches (Item.entriesAll around number (i :: rest))
          ((entry i.icon content (listOf marker ns) raw :: ms).flatMap
            (Node.bullets (around.length + 1))) := by
      rw [Item.entriesAll, if_pos spoken, Item.entries_eq, List.flatMap_cons,
        bullets_entry (bare _), bullets_listOf]
      exact List.rel_append (.cons ⟨rfl, here⟩ (inner (number :: around) 1))
        (outer around (number + 1))
    cases plain with
    | @text s icon nested _ =>
      cases spoken : s.isEmpty with
      | true =>
        refine ⟨ms, ?_, fun around number => ?_⟩
        · unfold Item.drawAll
          exact hns.bind (hms.bind (by rw [if_pos spoken]; exact gives_pure ms))
        · rw [Item.entriesAll, if_neg (by simp [Item.speaks, Item.said, spoken])]
          exact outer around number
      | false =>
        refine ⟨_, ?_, shown (by simp [Item.speaks, Item.said, spoken]) (fun _ => rfl) .text⟩
        unfold Item.drawAll
        exact hns.bind (hms.bind (by rw [if_neg (by simp [spoken])]; exact gives_pure _))
    | @phrase id visible p icon nested _ =>
      obtain ⟨node, drawn, which, spoken⟩ := Block.phrase_drawn c id visible p
      cases node with
      | none =>
        refine ⟨ms, ?_, fun around number => ?_⟩
        · unfold Item.drawAll
          exact hns.bind (drawn.bind (hms.bind (gives_pure ms)))
        · rw [Item.entriesAll, if_neg (by simp [Item.speaks, Item.said, spoken])]
          exact outer around number
      | some n =>
        have drawn' : p.draw = some n := (which.resolve_left (Option.some_ne_none n)).symm
        refine ⟨_, ?_, shown (by simp [Item.speaks, Item.said, spoken]) (fun depth => ?_)
          (.phrase drawn')⟩
        · unfold Item.drawAll
          exact hns.bind (drawn.bind (hms.bind (gives_pure _)))
        · rw [Child.bulletsAll, Element.Phrase.bullets_draw drawn']
          rfl

/-! ## Lists -/

/-- A list with plain items has the same entries as markdown and as a preview, in the same order and
at the same depth: a line for each, and an item element for each. The entries of any list in it are
the items that say something, and those are counted from one on; what is nested in an item that
says nothing is left out with it. -/
theorem Block.list_entries {items : List Item} (plain : ∀ i ∈ items, i.IsPlain) (id : String)
    (visible : Bool) (marker : ListMarker) (c : Context) (t : Tracker) :
    Item.linesAll marker 0 1 items = (Item.entriesAll [] 1 items).map (Entry.line marker) ∧
    (Block.list id visible marker items).markdown = Text.join "\n"
      ((if visible then Item.entriesAll [] 1 items else []).map (Entry.line marker)) ∧
    (∃ node, ((Block.list id visible marker items).draw c).run t = (.ok node, t) ∧
      (c.asMarkdown = false → List.Forall₂ Entry.Matches
        (if visible then Item.entriesAll [] 1 items else []) (bulletsOf node))) ∧
    (∀ around number (items : List Item), Item.entriesAll around number items =
      ((items.filter Item.speaks).zipIdx number).flatMap fun (i, n) =>
        ⟨n, around, i⟩ :: Item.entriesAll (n :: around) 1 i.nested) ∧
    ∀ place, ∃ k, numbersAt place (Item.entriesAll [] 1 items) = List.range' 1 k := by
  have lines := Item.linesAll_eq marker items [] 1
  refine ⟨lines, ?_, ?_, fun around number items => ?_, Item.numbersAt_eq items⟩
  · unfold Block.markdown
    cases visible with
    | true => exact congrArg _ lines
    | false => rfl
  · cases markdown : c.asMarkdown with
    | true => exact ⟨_, by rw [Block.draw, if_pos markdown]; rfl, nofun⟩
    | false =>
      rw [Block.draw, if_neg (by simp [markdown]), Block.drawTree]
      cases visible with
      | false => exact ⟨none, rfl, fun _ => .nil⟩
      | true =>
        obtain ⟨nodes, drawn, shown⟩ := Item.drawAll_plain c marker items plain
        have around : (do return listOf marker (← Item.drawAll c marker items) :
          Drawing (Option Node)).Gives (listOf marker nodes) := drawn.bind (gives_pure _)
        refine ⟨listOf marker nodes, around t, fun _ => ?_⟩
        rw [bulletsOf, bullets_listOf]
        exact shown [] 1
  · rw [Item.entriesAll_eq]
    simp only [Item.entries_eq]

/-- Items of which the second says nothing, with one nested in it; so does a text block. -/
def sparseItems : List Item :=
  [.text "a" none [.text "" none [], .text "b" none []],
   .text "" none [.text "lost" none []],
   .block (.element "x" true (.text { value := "c", emphasis := .bold })) (some "✅")
     [.block (.element "y" false (.text { value := "unseen" })) none [],
      .text "d" none []]]

theorem sparse_isPlain : ∀ i ∈ sparseItems, i.IsPlain := by
  have leaf (s : String) : Item.IsPlain (.text s none []) := .text nofun
  have phrase (id : String) (visible : Bool) (p : Element.Phrase) :
      Item.IsPlain (.block (.element id visible (.text p)) none []) := .phrase nofun
  simp only [sparseItems, List.forall_mem_cons]
  refine ⟨.text ?_, .text ?_, .phrase ?_, nofun⟩
  · simp [leaf]
  · simp [leaf]
  · simp [leaf, phrase]

theorem sparse_entries : (∀ i ∈ sparseItems, i.IsPlain) ∧
    (Item.entriesAll [] 1 sparseItems).map (Entry.line .ordered) =
      ["1. a", "  1. b", "2. ✅ **c**", "  1. d"] ∧
    (Block.list "l" true .ordered sparseItems).markdown = "1. a\n  1. b\n2. ✅ **c**\n  1. d" ∧
    ∃ node, ((Block.list "l" true .ordered sparseItems).draw {}).run {} = (.ok node, {}) ∧
      List.Forall₂ Entry.Matches (Item.entriesAll [] 1 sparseItems) (bulletsOf node) := by
  obtain ⟨-, markdown, ⟨node, drawn, shown⟩, -⟩ :=
    Block.list_entries sparse_isPlain "l" true .ordered {} {}
  have lines : (Item.entriesAll [] 1 sparseItems).map (Entry.line .ordered) =
      ["1. a", "  1. b", "2. ✅ **c**", "  1. d"] := by decide +kernel
  refine ⟨sparse_isPlain, lines, ?_, node, drawn, shown rfl⟩
  rw [markdown, if_pos rfl, lines]
  decide +kernel

end ProfileReadme
