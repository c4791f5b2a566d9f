/-
What can go wrong while the tokens of a YAML text are built into a tree, and the tree is read as a
value. A tree is refused as malformed only; every other fault of the value is that of a scalar in
the tree whose kind does not take its text.
-/
import ProfileReadme.Proofs.Yaml.Scanning
import ProfileReadme.Yaml.Reader

namespace ProfileReadme.Yaml

/-! ## Building a tree -/

namespace Node

/-- A step of the building that fails, if it does, since the tokens make no document. -/
def Refuses (x : Build α) : Prop := ∀ b, Fails (· = .malformed) (x b)

theorem Refuses.bind {x : Build α} {g : α → Build β} (hx : Refuses x) (hg : ∀ a, Refuses (g a)) :
    Refuses (x >>= g) :=
  fun b => (hx b).bind fun (a, b') => hg a b'

theorem Refuses.ite {c : Prop} [Decidable c] {x y : Build α} (hx : Refuses x) (hy : Refuses y) :
    Refuses (if c then x else y) := by
  split
  · exact hx
  · exact hy

/-- The parts of a tree. -/
inductive Part : Node → Node → Prop where
  | self (n : Node) : Part n n
  | item {part n : Node} {tag : Option String} {items : List Node} :
    n ∈ items → Part part n → Part part (.sequence tag items)
  | key {part k v : Node} {tag : Option String} {pairs : List (Node × Node)} :
    (k, v) ∈ pairs → Part part k → Part part (.mapping tag pairs)
  | value {part k v : Node} {tag : Option String} {pairs : List (Node × Node)} :
    (k, v) ∈ pairs → Part part v → Part part (.mapping tag pairs)

/-- A scalar whose kind does not take its text. -/
def IsOdd (f : Fault) : Node → Prop
  | .scalar tag plain text => ∃ k, ScalarKind.of? tag plain text = some k ∧ k.value text = .error f
  | _ => False

/-- Whether some scalar of a tree is odd. -/
def Bears (n : Node) (f : Fault) : Prop := ∃ part, Part part n ∧ part.IsOdd f

theorem Bears.ofItem {n : Node} {tag : Option String} {items : List Node} {f : Fault}
    (here : n ∈ items) : n.Bears f → (sequence tag items).Bears f
  | ⟨part, within, odd⟩ => ⟨part, .item here within, odd⟩

theorem Bears.ofPair {k v : Node} {tag : Option String} {pairs : List (Node × Node)} {f : Fault}
    (here : (k, v) ∈ pairs) : k.Bears f ∨ v.Bears f → (mapping tag pairs).Bears f
  | .inl ⟨part, within, odd⟩ => ⟨part, .key here within, odd⟩
  | .inr ⟨part, within, odd⟩ => ⟨part, .value here within, odd⟩

section

variable {p : Fault → Prop}

theorem keyOf_fails (hp : p .malformed) (v : Value) : Fails p (keyOf v) := by
  cases v
  case list | object | record => exact fails_error hp
  case real x =>
    unfold keyOf
    dsimp only
    split <;> exact fails_ok _
  all_goals exact fails_ok _

theorem keyValue_fails (hp : p .malformed) {n : Node} (h : ∀ f, n.Bears f → p f) :
    Fails p n.keyValue := by
  cases n with
  | scalar tag plain text =>
    unfold keyValue scalarKey
    dsimp only
    split
    · exact fails_ok _
    · rename_i k _ kind
      refine Fails.bind (fun f failed => ?_) fun v => keyOf_fails hp v
      exact h f ⟨_, .self _, k, kind, failed⟩
    · exact fails_error hp
  | sequence _ _ => exact fails_error hp
  | mapping _ _ => exact fails_error hp

mutual

theorem value_fails (hp : p .malformed) : ∀ {n : Node}, (∀ f, n.Bears f → p f) → Fails p n.value
  | .scalar tag plain text, h => by
    unfold value
    split
    · rename_i k kind
      exact fun f failed => h f ⟨_, .self _, k, kind, failed⟩
    · exact fails_error hp
  | .sequence tag items, h => by
    have each : ∀ n ∈ items, ∀ f, n.Bears f → p f := fun _ hn f bears => h f (bears.ofItem hn)
    -- without a tag, or with the usual one, a sequence is a list; some tags want pairs
    have list := (values_fails hp each).map Value.list
    unfold value
    split
    · exact list
    · exact .ite list <| .ite ((pairValues_fails hp each).map _) (fails_error hp)
  | .mapping tag pairs, h => by
    have fields := entries_fails hp fun _ _ hkv f bears => h f (.ofPair hkv bears)
    unfold value
    split
    · exact fields.map _
    · exact .ite (fields.map _) <| .ite (fields.map _) (fails_error hp)

theorem values_fails (hp : p .malformed) :
    ∀ {ns : List Node}, (∀ n ∈ ns, ∀ f, n.Bears f → p f) → Fails p (values ns)
  | [], _ => fails_ok _
  | n :: ns, h => by
    unfold values
    exact (value_fails hp (h n List.mem_cons_self)).bind fun _ =>
      (values_fails hp fun n hn => h n (List.mem_cons_of_mem _ hn)).bind fun _ => fails_ok _

theorem pairValues_fails (hp : p .malformed) :
    ∀ {ns : List Node}, (∀ n ∈ ns, ∀ f, n.Bears f → p f) → Fails p (pairValues ns)
  | [], _ => fails_ok _
  | .mapping tag [(k, v)] :: ns, h => by
    unfold pairValues
    have here : ∀ f, k.Bears f ∨ v.Bears f → p f := fun f bears =>
      h _ List.mem_cons_self f (.ofPair (List.mem_singleton_self _) bears)
    exact (value_fails hp fun f bears => here f (.inl bears)).bind fun _ =>
      (value_fails hp fun f bears => here f (.inr bears)).bind fun _ =>
      (pairValues_fails hp fun n hn => h n (List.mem_cons_of_mem _ hn)).bind fun _ => fails_ok _
  | .scalar _ _ _ :: _, _ => fails_error hp
  | .sequence _ _ :: _, _ => fails_error hp
  | .mapping _ [] :: _, _ => fails_error hp
  | .mapping _ (_ :: _ :: _) :: _, _ => fails_error hp

theorem entries_fails (hp : p .malformed) : ∀ {pairs : List (Node × Node)},
    (∀ k v, (k, v) ∈ pairs → ∀ f, k.Bears f ∨ v.Bears f → p f) → Fails p (entries pairs)
  | [], _ => fails_ok _
  | (k, v) :: rest, h => by
    have later := entries_fails hp fun k v hkv => h k v (List.mem_cons_of_mem _ hkv)
    have key : ∀ f, k.Bears f → p f := fun f bears => h k v List.mem_cons_self f (.inl bears)
    have value : ∀ f, v.Bears f → p f := fun f bears => h k v List.mem_cons_self f (.inr bears)
    unfold entries
    exact .ite ((mergedFields_fails hp value).bind fun _ => later.bind fun _ => fails_ok _) <|
      (keyValue_fails hp key).bind fun _ => (value_fails hp value).bind fun _ =>
        later.bind fun _ => fails_ok _

theorem mergedFields_fails (hp : p .malformed) :
    ∀ {n : Node}, (∀ f, n.Bears f → p f) → Fails p n.mergedFields
  | .scalar _ _ _, _ => fails_error hp
  | .sequence tag items, h => by
    unfold mergedFields
    exact mergedItems_fails hp fun _ hn f bears => h f (bears.ofItem hn)
  | .mapping tag pairs, h => by
    unfold mergedFields
    exact (entries_fails hp fun _ _ hkv f bears => h f (.ofPair hkv bears)).bind fun _ => fails_ok _

theorem mergedItems_fails (hp : p .malformed) :
    ∀ {ns : List Node}, (∀ n ∈ ns, ∀ f, n.Bears f → p f) → Fails p (mergedItems ns)
  | [], _ => fails_ok _
  | .mapping tag pairs :: ns, h => by
    unfold mergedItems
    have here := h _ List.mem_cons_self
    exact (entries_fails hp fun _ _ hkv f bears => here f (.ofPair hkv bears)).bind fun _ =>
      (mergedItems_fails hp fun n hn => h n (List.mem_cons_of_mem _ hn)).bind fun _ => fails_ok _
  | .scalar _ _ _ :: _, _ => fails_error hp
  | .sequence _ _ :: _, _ => fails_error hp

end

end

end Node

/-! ## Documents -/

end ProfileReadme.Yaml
