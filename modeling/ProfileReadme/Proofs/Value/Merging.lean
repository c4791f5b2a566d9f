/-
What changes laid over a value leave of both. A value of the changes that is no object replaces what
stands at its place; the base keeps what the changes have no value for and no value above that is no
object; and nothing else comes in. Keys stand in the order of the base with the new ones behind
them. So changes that say nothing new change nothing, and laying them over again does not either.
-/
import ProfileReadme.Value.Basic
import Mathlib.Data.List.Nodup

namespace ProfileReadme

/-! ## Fields -/

namespace Fields

variable {j k : Key} {new old : Fields}

theorem lookup_cons (k j : Key) (v : Value) (fs : Fields) :
    List.lookup k ((j, v) :: fs) = if k = j then some v else fs.lookup k := by
  by_cases same : k = j
  · rw [same, List.lookup_cons_self, if_pos rfl]
  · rw [List.lookup_cons, beq_eq_false_iff_ne.2 same, if_neg same]

theorem lookup_alter (f : Option Value → Value) (fs : Fields) :
    (alter j f fs).lookup k = if k = j then some (f (fs.lookup j)) else fs.lookup k := by
  induction fs with
  | nil => exact lookup_cons k j _ []
  | cons field rest ih =>
    obtain ⟨i, v⟩ := field
    rw [alter, lookup_cons, lookup_cons]
    by_cases here : i = j
    · rw [if_pos here, if_pos here.symm, lookup_cons, here]
      by_cases same : k = j <;> simp [same]
    · rw [if_neg here, if_neg (Ne.symm here), lookup_cons, ih]
      by_cases same : k = i
      · rw [if_pos same, if_pos same, if_neg (same ▸ here)]
      · rw [if_neg same, if_neg same]

theorem keys_alter (f : Option Value → Value) (fs : Fields) :
    (alter j f fs).map Prod.fst =
      if j ∈ fs.map Prod.fst then fs.map Prod.fst else fs.map Prod.fst ++ [j] := by
  induction fs with
  | nil => rfl
  | cons field rest ih =>
    obtain ⟨i, v⟩ := field
    rw [alter]
    by_cases here : i = j
    · rw [if_pos here, if_pos (here ▸ List.mem_cons_self ..)]
      rfl
    · rw [if_neg here, List.map_cons, ih]
      by_cases later : j ∈ rest.map Prod.fst <;> simp [later, Ne.symm here]

theorem lookup_eq_none {fs : Fields} (h : k ∉ fs.map Prod.fst) : fs.lookup k = none := by
  refine List.lookup_eq_none_iff.2 fun field mem => ?_
  simpa using fun same : k = field.1 => h (same ▸ List.mem_map_of_mem mem)

theorem mem_of_lookup {fs : Fields} {v : Value} (h : fs.lookup k = some v) : (k, v) ∈ fs := by
  obtain ⟨before, after, rfl, -⟩ := List.lookup_eq_some_iff.1 h
  simp

/-- Fields without a repeated key are told by their keys in order and the value of each. -/
theorem ext_lookup : ∀ {fs gs : Fields}, (fs.map Prod.fst).Nodup →
    fs.map Prod.fst = gs.map Prod.fst → (∀ k, fs.lookup k = gs.lookup k) → fs = gs
  | [], gs, _, keys, _ => (List.map_eq_nil_iff.1 keys.symm).symm
  | (k, v) :: fs, [], _, keys, _ => by cases keys
  | (k, v) :: fs, (j, w) :: gs, distinct, keys, same => by
    rw [List.map_cons, List.map_cons, List.cons.injEq] at keys
    obtain ⟨rfl, keys⟩ := keys
    obtain ⟨new, distinct⟩ := List.nodup_cons.1 distinct
    have value : v = w := by simpa using same k
    have later : fs = gs := by
      refine ext_lookup distinct keys fun i => ?_
      have there := same i
      rw [lookup_cons, lookup_cons] at there
      by_cases here : i = k
      · subst here
        rw [lookup_eq_none new, lookup_eq_none (keys ▸ new)]
      · rwa [if_neg here, if_neg here] at there
    rw [value, later]

end Fields

/-! ## One level -/

namespace Value

/-- Whether a value holds others by key. -/
def isObject : Value → Bool
  | .object _ => true
  | _ => false

theorem isObject_cases (v : Value) : v.isObject = false ∨ ∃ fields, v = .object fields := by
  cases v with
  | object fields => exact .inr ⟨fields, rfl⟩
  | _ => exact .inl rfl

/-- Lays changes over a value, if there is one. -/
def overAny (changes : Value) : Option Value → Value
  | some base => changes.over base
  | none => changes

theorem over_of_single {v : Value} (single : v.isObject = false) (w : Value) : v.over w = v := by
  cases v with
  | object => cases single
  | _ => rfl

theorem object_over_single (new : Fields) {w : Value} (single : w.isObject = false) :
    (Value.object new).over w = .object new := by
  cases w with
  | object => cases single
  | _ => rfl

theorem object_over_object (new old : Fields) :
    (Value.object new).over (.object old) = .object (Fields.over new old) := by
  rw [Value.over]

theorem isObject_over (new : Fields) (w : Value) : ((Value.object new).over w).isObject = true := by
  rcases isObject_cases w with single | ⟨old, rfl⟩
  · rw [object_over_single new single, isObject]
  · rw [object_over_object, isObject]

end Value

namespace Fields

variable {k : Key} {new old : Fields}

theorem over_cons (k : Key) (v : Value) (rest base : Fields) :
    Fields.over ((k, v) :: rest) base = Fields.over rest (base.alter k v.overAny) := by
  rw [Fields.over]
  rfl

/-- The changes are taken one after the other, but each finds what the base had at its key. -/
theorem lookup_over (distinct : (new.map Prod.fst).Nodup) :
    (Fields.over new old).lookup k =
      ((new.lookup k).map fun v => v.overAny (old.lookup k)).or (old.lookup k) := by
  induction new generalizing old with
  | nil => rfl
  | cons field rest ih =>
    obtain ⟨j, v⟩ := field
    obtain ⟨apart, distinct⟩ := List.nodup_cons.1 distinct
    rw [over_cons, ih distinct, lookup_alter]
    by_cases here : k = j
    · subst here
      simp [lookup_eq_none apart]
    · simp [lookup_cons, here]

theorem keys_over (distinct : (new.map Prod.fst).Nodup) :
    (Fields.over new old).map Prod.fst =
      old.map Prod.fst ++ (new.map Prod.fst).filter (· ∉ old.map Prod.fst) := by
  induction new generalizing old with
  | nil => exact (List.append_nil _).symm
  | cons field rest ih =>
    obtain ⟨j, v⟩ := field
    obtain ⟨apart, distinct⟩ := List.nodup_cons.1 distinct
    rw [over_cons, ih distinct, keys_alter, List.map_cons]
    by_cases known : j ∈ old.map Prod.fst
    · rw [if_pos known, List.filter_cons_of_neg (by simpa using known)]
    · rw [if_neg known, List.filter_cons_of_pos (by simpa using known), List.append_assoc,
        List.singleton_append]
      -- no later change has the key that is new now
      congr 2
      refine List.filter_congr fun i hi => ?_
      have other : i ≠ j := fun same => apart (same ▸ hi)
      simp [other]

theorem keys_over_known (distinct : (new.map Prod.fst).Nodup)
    (known : ∀ k ∈ new.map Prod.fst, k ∈ old.map Prod.fst) :
    (Fields.over new old).map Prod.fst = old.map Prod.fst := by
  rw [keys_over distinct, List.filter_eq_nil_iff.2 (by simpa using known), List.append_nil]

theorem mem_keys_over (distinct : (new.map Prod.fst).Nodup) (mem : k ∈ new.map Prod.fst) :
    k ∈ (Fields.over new old).map Prod.fst := by
  rw [keys_over distinct, List.mem_append, List.mem_filter]
  by_cases known : k ∈ old.map Prod.fst
  · exact .inl known
  · exact .inr ⟨mem, decide_eq_true known⟩

theorem nodup_keys_over (distinct : (new.map Prod.fst).Nodup)
    (distinctOld : (old.map Prod.fst).Nodup) : ((Fields.over new old).map Prod.fst).Nodup := by
  rw [keys_over distinct]
  refine distinctOld.append (distinct.filter _) fun k known mem => ?_
  have unknown : k ∉ old.map Prod.fst := by simpa using List.of_mem_filter mem
  exact unknown known

end Fields

/-! ## All levels -/

namespace Value

/-- No object that is reached through objects has a key twice. -/
inductive Distinct : Value → Prop
  | single {v : Value} (h : v.isObject = false) : Distinct v
  | object {fields : Fields} (keys : (fields.map Prod.fst).Nodup)
      (inside : ∀ f ∈ fields, Distinct f.2) : Distinct (.object fields)

theorem Distinct.keys {fs : Fields} (h : (Value.object fs).Distinct) :
    (fs.map Prod.fst).Nodup := by
  cases h with
  | single h => cases h
  | object keys => exact keys

theorem Distinct.lookup {fs : Fields} (h : (Value.object fs).Distinct) {k : Key} {v : Value}
    (found : fs.lookup k = some v) : v.Distinct := by
  cases h with
  | single h => cases h
  | object _ inside => exact inside _ (Fields.mem_of_lookup found)

theorem over_self {v : Value} (h : v.Distinct) : v.over v = v := by
  induction h with
  | single h => exact over_of_single h _
  | @object fields keys inside ih =>
    have all := Fields.keys_over_known keys fun _ mem => mem
    refine congrArg Value.object (Fields.ext_lookup (all ▸ keys) all fun k => ?_)
    rw [Fields.lookup_over keys]
    cases found : fields.lookup k with
    | none => rfl
    | some v => exact congrArg some (ih _ (Fields.mem_of_lookup found))

theorem over_over {v : Value} (h : v.Distinct) :
    ∀ {w : Value}, w.Distinct → v.over (v.over w) = v.over w := by
  induction h with
  | single h =>
    intro w _
    rw [over_of_single h, over_of_single h]
  | @object new keys inside ih =>
    intro w hw
    rcases isObject_cases w with single | ⟨old, rfl⟩
    · rw [object_over_single new single, over_self (.object keys inside)]
    · have all : (Fields.over new (Fields.over new old)).map Prod.fst =
          (Fields.over new old).map Prod.fst :=
        Fields.keys_over_known keys fun _ => Fields.mem_keys_over keys
      have distinct := Fields.nodup_keys_over keys hw.keys
      refine congrArg Value.object (Fields.ext_lookup (all ▸ distinct) all fun k => ?_)
      rw [Fields.lookup_over keys, Fields.lookup_over keys]
      cases found : new.lookup k with
      | none => rfl
      | some v =>
        have mem := Fields.mem_of_lookup found
        cases base : old.lookup k with
        | none => exact congrArg some (over_self (inside _ mem))
        | some u => exact congrArg some (ih _ mem (hw.lookup base))

/-! ## Paths -/

/-- What stands at the end of a path of keys. -/
def at? : Value → List Key → Option Value
  | v, [] => some v
  | .object fields, k :: path => (fields.lookup k).bind (·.at? path)
  | _, _ :: _ => none

theorem at?_object (fs : Fields) (k : Key) (path : List Key) :
    (Value.object fs).at? (k :: path) = (fs.lookup k).bind (·.at? path) := rfl

theorem at?_single {v : Value} (single : v.isObject = false) (k : Key) (path : List Key) :
    v.at? (k :: path) = none := by
  cases v with
  | object => cases single
  | _ => rfl

/-- The keys of the object at the end of a path, in order; what is no object has none. -/
def keysAt (v : Value) (path : List Key) : List Key :=
  match v.at? path with
  | some (.object fields) => fields.map Prod.fst
  | _ => []

theorem keysAt_eq {v : Value} {path : List Key} {fs : Fields}
    (h : v.at? path = some (.object fs)) : v.keysAt path = fs.map Prod.fst := by
  rw [keysAt, h]

theorem keysAt_single {v : Value} (single : v.isObject = false) (path : List Key) :
    v.keysAt path = [] := by
  cases path with
  | nil =>
    cases v with
    | object => cases single
    | _ => rfl
  | cons k path => rw [keysAt, at?_single single]

theorem keysAt_object (fs : Fields) (k : Key) (path : List Key) :
    (Value.object fs).keysAt (k :: path) = (fs.lookup k).elim [] (·.keysAt path) := by
  rw [keysAt, at?_object]
  cases fs.lookup k <;> rfl

/-- Changes leave a path open if they have no value at its end and only objects on the way. -/
def LeavesOpen (changes : Value) (path : List Key) : Prop :=
  changes.at? path = none ∧
    ∀ above v, above <+: path → changes.at? above = some v → v.isObject = true

theorem not_leavesOpen_single {v : Value} (single : v.isObject = false) (path : List Key) :
    ¬ v.LeavesOpen path := fun h => by
  have object := h.2 [] v List.nil_prefix rfl
  rw [single] at object
  cases object

theorem leavesOpen_object {fs : Fields} {k : Key} {path : List Key} :
    (Value.object fs).LeavesOpen (k :: path) ↔ ∀ v ∈ fs.lookup k, v.LeavesOpen path := by
  unfold LeavesOpen
  rw [at?_object]
  cases found : fs.lookup k with
  | none =>
    refine iff_of_true ⟨rfl, fun above v front there => ?_⟩ (by simp)
    rcases List.prefix_cons_iff.1 front with rfl | ⟨above, rfl, -⟩
    · cases there
      rfl
    · rw [at?_object, found] at there
      cases there
  | some u =>
    simp only [Option.bind_some, Option.mem_some_iff, forall_eq']
    refine and_congr_right fun _ => ⟨fun h => ?_, fun h => ?_⟩
    · intro above v front there
      refine h (k :: above) v (List.cons_prefix_cons.2 ⟨rfl, front⟩) ?_
      rw [at?_object, found]
      exact there
    · intro above v front there
      rcases List.prefix_cons_iff.1 front with rfl | ⟨above, rfl, inner⟩
      · cases there
        rfl
      · rw [at?_object, found] at there
        exact h above v inner there

/-- What stands in the merge without being an object comes from the changes, or from the base if
they leave its path open. -/
theorem at?_over {leaf : Value} (single : leaf.isObject = false) :
    ∀ (path : List Key) {v : Value}, v.Distinct → ∀ w : Value,
      ((v.over w).at? path = some leaf ↔
        v.at? path = some leaf ∨ w.at? path = some leaf ∧ v.LeavesOpen path)
  | path, v, hv, w => by
    rcases isObject_cases v with whole | ⟨new, rfl⟩
    · rw [over_of_single whole, iff_self_or]
      exact fun h => absurd h.2 (not_leavesOpen_single whole path)
    match path with
    | [] =>
      -- an object laid over anything is an object
      refine iff_of_false (fun h => ?_) ?_
      · rw [← Option.some.inj h, isObject_over] at single
        cases single
      · rintro (h | ⟨-, h, -⟩)
        · rw [← Option.some.inj h] at single
          cases single
        · cases h
    | k :: path =>
      rcases isObject_cases w with whole | ⟨old, rfl⟩
      · rw [object_over_single new whole, at?_single whole]
        simp
      rw [object_over_object, at?_object, at?_object, at?_object, leavesOpen_object,
        Fields.lookup_over hv.keys]
      cases found : new.lookup k with
      | none => simp
      | some u =>
        have inner := at?_over single path (hv.lookup found)
        cases base : old.lookup k with
        | none => simp [overAny]
        | some x => simpa [overAny] using inner x

/-- An object in the merge has the keys of the base in order, then the new ones of the changes. -/
theorem keys_at?_over : ∀ (path : List Key) {v : Value}, v.Distinct → ∀ {w : Value} {fs : Fields},
    (v.over w).at? path = some (.object fs) →
      fs.map Prod.fst = w.keysAt path ++ (v.keysAt path).filter (· ∉ w.keysAt path)
  | path, v, hv, w, fs, h => by
    rcases isObject_cases v with whole | ⟨new, rfl⟩
    · rw [over_of_single whole] at h
      cases path with
      | nil =>
        rw [Option.some.inj h] at whole
        cases whole
      | cons k path =>
        rw [at?_single whole] at h
        cases h
    rcases isObject_cases w with whole | ⟨old, rfl⟩
    · rw [object_over_single new whole] at h
      simp [keysAt_single whole, keysAt_eq h]
    match path with
    | [] =>
      cases h
      exact Fields.keys_over hv.keys
    | k :: path =>
      rw [object_over_object, at?_object, Fields.lookup_over hv.keys] at h
      rw [keysAt_object, keysAt_object]
      cases found : new.lookup k with
      | none =>
        rw [found, Option.map_none, Option.none_or, ← at?_object] at h
        rw [Option.elim_none, List.filter_nil, List.append_nil, ← keysAt_object]
        exact (keysAt_eq h).symm
      | some u =>
        rw [found, Option.map_some, Option.some_or, Option.bind_some] at h
        rw [Option.elim_some]
        cases base : old.lookup k with
        | none =>
          rw [base, overAny] at h
          simp [keysAt_eq h]
        | some x =>
          rw [base, overAny] at h
          exact keys_at?_over path (hv.lookup found) h

/-! ## Objects laid over objects -/

/-- Of objects without repeated keys. An empty object, and an object laid over itself, change
nothing, and changes laid over once more do not either. What is no object in the merge stands at its
path in the changes, or it stands there in the base and the changes leave the path open; and each
object in the merge has the keys of the base in order, then the new ones of the changes. -/
theorem merge_pathwise {base changes : Fields} (hb : (Value.object base).Distinct)
    (hc : (Value.object changes).Distinct) :
    (Value.object base).merge (.object []) = .object base ∧
    (Value.object base).merge (.object base) = .object base ∧
    ((Value.object base).merge (.object changes)).merge (.object changes) =
      (Value.object base).merge (.object changes) ∧
    (∀ path leaf, leaf.isObject = false →
      (((Value.object base).merge (.object changes)).at? path = some leaf ↔
        (Value.object changes).at? path = some leaf ∨
          (Value.object base).at? path = some leaf ∧ (Value.object changes).LeavesOpen path)) ∧
    ∀ path fields, ((Value.object base).merge (.object changes)).at? path = some (.object fields) →
      fields.map Prod.fst = (Value.object base).keysAt path ++
        ((Value.object changes).keysAt path).filter (· ∉ (Value.object base).keysAt path) := by
  refine ⟨?_, over_self hb, over_over hc hb, fun path leaf single => at?_over single path hc _,
    fun path fields h => keys_at?_over path hc h⟩
  rw [merge, object_over_object, Fields.over]

/-- Values of every sort that one may lay something over. -/
def stocked : Fields :=
  [(.name "a", .obj [("x", .int 1), ("y", .int 2)]), (.name "d", .int 3)]

/-- Changes of every sort: an inner one, a value for an object, an object for a value, a new key. -/
def restocked : Fields :=
  [(.name "e", .null), (.name "a", .obj [("y", .obj [("z", .int 4)])]), (.name "d", .obj [])]

theorem distinct_obj {ps : List (String × Value)} (names : (ps.map Prod.fst).Nodup)
    (inside : ∀ p ∈ ps, p.2.Distinct) : (Value.obj ps).Distinct := by
  refine .object ?_ fun f hf => ?_
  · have keys : (ps.map fun p => (Key.name p.1, p.2)).map Prod.fst =
        (ps.map Prod.fst).map Key.name := by simp
    exact keys ▸ names.map fun _ _ => Key.name.inj
  · obtain ⟨p, hp, rfl⟩ := List.mem_map.1 hf
    exact inside p hp

theorem stocked_distinct : (Value.object stocked).Distinct := by
  have number (n : Int) : (Value.int n).Distinct := .single rfl
  have inner : (Value.obj [("x", .int 1), ("y", .int 2)]).Distinct :=
    distinct_obj (by decide) (by simp [number])
  exact .object (by decide) (by simp [stocked, number, inner])

theorem restocked_distinct : (Value.object restocked).Distinct := by
  have number (n : Int) : (Value.int n).Distinct := .single rfl
  have nothing : Value.null.Distinct := .single rfl
  have empty : (Value.obj []).Distinct := distinct_obj (by decide) (by simp)
  have innermost : (Value.obj [("z", .int 4)]).Distinct :=
    distinct_obj (by decide) (by simp [number])
  have inner : (Value.obj [("y", .obj [("z", .int 4)])]).Distinct :=
    distinct_obj (by decide) (by simp [innermost])
  exact .object (by decide) (by simp [restocked, nothing, inner, empty])

/-- What is changed inside an object leaves the rest of the object, and a new key comes last. -/
theorem restocked_pathwise : (Value.object stocked).Distinct ∧ (Value.object restocked).Distinct ∧
    ((Value.object stocked).merge (.object restocked)).at? [.name "a", .name "x"] =
      some (.int 1) ∧
    ((Value.object stocked).merge (.object restocked)).at? [.name "a", .name "y", .name "z"] =
      some (.int 4) ∧
    (∀ fields, ((Value.object stocked).merge (.object restocked)).at? [] = some (.object fields) →
      fields.map Prod.fst = [.name "a", .name "d", .name "e"]) ∧
    ((Value.object stocked).merge (.object restocked)).merge (.object restocked) =
      (Value.object stocked).merge (.object restocked) := by
  obtain ⟨-, -, again, leaves, keys⟩ := merge_pathwise stocked_distinct restocked_distinct
  have free : (Value.object restocked).LeavesOpen [.name "a", .name "x"] := by
    refine leavesOpen_object.2 fun v hv => ?_
    cases hv
    refine leavesOpen_object.2 fun v hv => ?_
    cases hv
  exact ⟨stocked_distinct, restocked_distinct, (leaves _ _ rfl).2 (.inr ⟨rfl, free⟩),
    (leaves _ _ rfl).2 (.inl rfl), fun fields h => keys [] fields h, again⟩

end Value

end ProfileReadme
