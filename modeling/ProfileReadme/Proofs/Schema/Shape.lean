/-
Shapes of documents, and which documents a shape admits. A shape tells what a record may hold
without a word on how it is read or written: names of fields, bounds of numbers, the words that a
field may be. Shapes may refer to each other by name, so that trees have a shape as well.
-/
import ProfileReadme.Proofs.Schema.Rereading

namespace ProfileReadme

/-- What a document may be. -/
inductive Shape where
  | text
  | flag
  /-- A whole number within bounds, as far as there are bounds. -/
  | whole (low high : Option Int)
  | real
  /-- A text from a list. -/
  | oneOf (words : List String)
  /-- An object with any names and values. -/
  | object
  | optional (inner : Shape)
  | list (item : Shape)
  /-- An object with these fields, all of them and in order. -/
  | record (fields : List (String × Shape))
  | either (shapes : List Shape)
  /-- The shape that goes by a name. -/
  | ref (name : String)

namespace Shape

/-- Any whole number. -/
def int : Shape := .whole none none

mutual

/-- A shape admits a document, where names stand for the shapes of a list. -/
inductive Admits (shapes : List (String × Shape)) : Shape → Value → Prop
  | text (s : String) : Admits shapes .text (.text s)
  | flag (b : Bool) : Admits shapes .flag (.bool b)
  | whole {low high : Option Int} {n : Int} (above : ∀ l ∈ low, l ≤ n) (below : ∀ h ∈ high, n ≤ h) :
      Admits shapes (.whole low high) (.int n)
  | real (x : Binary64) : Admits shapes .real (.real x)
  | oneOf {words : List String} {s : String} (listed : s ∈ words) :
      Admits shapes (.oneOf words) (.text s)
  | object {fs : Fields} (named : ∀ f ∈ fs, ∃ name, f.1 = .name name) :
      Admits shapes .object (.object fs)
  | absent (inner : Shape) : Admits shapes (.optional inner) .null
  | present {inner : Shape} {v : Value} (here : Admits shapes inner v) :
      Admits shapes (.optional inner) v
  | list {item : Shape} {vs : List Value} (each : ∀ v ∈ vs, Admits shapes item v) :
      Admits shapes (.list item) (.list vs)
  | record {fields : List (String × Shape)} {fs : Fields} (all : AdmitsAll shapes fields fs) :
      Admits shapes (.record fields) (.object fs)
  | either {options : List Shape} {option : Shape} {v : Value} (listed : option ∈ options)
      (here : Admits shapes option v) : Admits shapes (.either options) v
  | ref {name : String} {target : Shape} {v : Value} (found : shapes.lookup name = some target)
      (here : Admits shapes target v) : Admits shapes (.ref name) v

/-- Fields with the right names admit the values at these names, one by one. -/
inductive AdmitsAll (shapes : List (String × Shape)) : List (String × Shape) → Fields → Prop
  | nil : AdmitsAll shapes [] []
  | cons {name : String} {field : Shape} {v : Value} {fields : List (String × Shape)} {fs : Fields}
      (first : Admits shapes field v) (rest : AdmitsAll shapes fields fs) :
      AdmitsAll shapes ((name, field) :: fields) ((.name name, v) :: fs)

end

/-! ## Values as they are written -/

variable {shapes : List (String × Shape)}

@[simp] theorem admits_text (s : String) : Admits shapes .text (.text s) := .text s

@[simp] theorem admits_flag (b : Bool) : Admits shapes .flag (.bool b) := .flag b

@[simp] theorem admits_int (n : Int) : Admits shapes .int (.int n) := .whole nofun nofun

/-- A number in its bounds is admitted with them, or without the upper one. -/
@[simp] theorem admits_bounded {low : Int} {high : Option Int} (b : Bounded low high) :
    Admits shapes (.whole (some low) high) (.int b.val) := by
  refine .whole (fun l hl => ?_) (fun h hh => ?_)
  · obtain rfl := Option.mem_some_iff.1 hl
    exact b.low_le
  · exact of_decide_eq_true ((Option.all_eq_true _ _).1 b.le_high h hh)

/-- The member of a finite type is one of the names, if these are all of them. -/
@[simp] theorem admits_named [Named α] [Named.Lawful α] {words : List String}
    (all : (Named.all : List α).map Named.name = words) (a : α) :
    Admits shapes (.oneOf words) (Named.write a) := by
  refine .oneOf ?_
  have found : Named.find? (Named.name a) = some a := Named.Lawful.find?_name a
  rw [← all]
  exact List.mem_map_of_mem (List.mem_of_find?_eq_some found)

theorem admits_optional {inner : Shape} {write : α → Value} {o : Option α}
    (here : ∀ a ∈ o, Admits shapes inner (write a)) :
    Admits shapes (.optional inner) (.optional write o) := by
  cases o with
  | none => exact .absent inner
  | some a => exact .present (here a rfl)

@[simp] theorem admits_optional_text (o : Option String) :
    Admits shapes (.optional .text) (.optional .text o) :=
  admits_optional fun s _ => .text s

@[simp] theorem admits_optional_int (o : Option Int) :
    Admits shapes (.optional .int) (.optional .int o) :=
  admits_optional fun n _ => admits_int n

@[simp] theorem admits_optional_named [Named α] [Named.Lawful α] {words : List String}
    (all : (Named.all : List α).map Named.name = words) (o : Option α) :
    Admits shapes (.optional (.oneOf words)) (.optional Named.write o) :=
  admits_optional fun a _ => admits_named all a

@[simp] theorem admits_list {item : Shape} {write : α → Value} {as : List α} :
    Admits shapes (.list item) (.list (as.map write)) ↔ ∀ a ∈ as, Admits shapes item (write a) := by
  constructor
  · intro h a ha
    cases h with
    | list each => exact each (write a) (List.mem_map_of_mem ha)
  · intro h
    refine .list fun v hv => ?_
    obtain ⟨a, ha, rfl⟩ := List.mem_map.1 hv
    exact h a ha

@[simp] theorem admits_texts (ss : List String) : Admits shapes (.list .text) (.texts ss) :=
  admits_list.2 fun s _ => .text s

@[simp] theorem admits_ref {name : String} {target : Shape} {v : Value}
    (found : shapes.lookup name = some target) :
    Admits shapes (.ref name) v ↔ Admits shapes target v := by
  constructor
  · intro h
    cases h with
    | ref found' here =>
      rw [found] at found'
      cases found'
      exact here
  · exact .ref found

/-! ## Records -/

@[simp] theorem admitsAll_nil : AdmitsAll shapes [] [] := .nil

@[simp] theorem admitsAll_cons {name : String} {field : Shape} {v : Value}
    {fields : List (String × Shape)} {fs : Fields} :
    AdmitsAll shapes ((name, field) :: fields) ((.name name, v) :: fs) ↔
      Admits shapes field v ∧ AdmitsAll shapes fields fs := by
  constructor
  · intro h
    cases h with
    | cons first rest => exact ⟨first, rest⟩
  · rintro ⟨first, rest⟩
    exact .cons first rest

@[simp] theorem admits_record {fields : List (String × Shape)} {ps : List (String × Value)} :
    Admits shapes (.record fields) (.obj ps) ↔
      AdmitsAll shapes fields (ps.map fun (k, v) => (.name k, v)) := by
  constructor
  · intro h
    cases h with
    | record all => exact all
  · exact .record

end Shape

end ProfileReadme
