/-
What readers make of written values: each gives back what was written. A record is read field by
field, and a field that is not asked for is passed over.
-/
import ProfileReadme.Proofs.Value.Plain
import ProfileReadme.Schema.Record

namespace ProfileReadme

namespace Checked

@[simp] theorem inField_ok (name : String) (a : α) : (Checked.ok a).inField name = .ok a := rfl

/-! A reading passes only if its parts do -/

theorem map_eq_ok {f : α → β} {a : Checked α} {b : β} (h : f <$> a = .ok b) :
    ∃ x, a = .ok x ∧ f x = b := by
  cases a with
  | ok x => exact ⟨x, rfl, Checked.ok.inj h⟩
  | bad issues => cases h

theorem seq_eq_ok {f : Checked (α → β)} {a : Checked α} {b : β} (h : f <*> a = .ok b) :
    ∃ g x, f = .ok g ∧ a = .ok x ∧ g x = b := by
  cases f with
  | ok g =>
    cases a with
    | ok x => exact ⟨g, x, rfl, rfl, Checked.ok.inj h⟩
    | bad issues => cases h
  | bad issues => cases a <;> cases h

theorem andThen_eq_ok {a : Checked α} {f : α → Checked β} {b : β} (h : a.andThen f = .ok b) :
    ∃ x, a = .ok x ∧ f x = .ok b := by
  cases a with
  | ok x => exact ⟨x, rfl, h⟩
  | bad issues => cases h

theorem under_eq_ok {step : Step} {c : Checked α} {a : α} (h : c.under step = .ok a) :
    c = .ok a := by
  cases c with
  | ok a => exact h
  | bad issues => cases h

theorem inField_eq_ok {name : String} {c : Checked α} {a : α} (h : c.inField name = .ok a) :
    c = .ok a := under_eq_ok h

end Checked

theorem Fields.mem_of_find? {name : String} {v : Value} : ∀ {fs : Fields}, fs.find? name = some v →
    ∃ f ∈ fs, f.2 = v
  | (k, w) :: fs, h => by
    unfold Fields.find? at h
    split at h
    · cases h
      exact ⟨_, List.mem_cons_self .., rfl⟩
    · obtain ⟨f, hf, same⟩ := mem_of_find? h
      exact ⟨f, List.mem_cons_of_mem _ hf, same⟩

@[simp] theorem Named.plain_write [Named α] (a : α) (room : Nat) : (Named.write a).Plain room :=
  Value.plain_text room _

namespace Reader

/-! ## Single values and lists -/

@[simp] theorem text_write (s : String) : text (.text s) = .ok s := rfl

@[simp] theorem bool_write (b : Bool) : bool (.bool b) = .ok b := rfl

@[simp] theorem int_write (n : Int) : int (.int n) = .ok n := rfl

@[simp] theorem bounded_write (b : Bounded low high) :
    bounded low high (.int b.val) = .ok b := by
  simp [bounded, b.low_le, b.le_high]

/-- A written value that is there is read as such if it is not written as `null`. -/
theorem optional_write {read : Reader α} {write : α → Value} {o : Option α}
    (there : ∀ a, write a ≠ .null) (back : ∀ a ∈ o, read (write a) = .ok a) :
    optional read (.optional write o) = .ok o := by
  cases o with
  | none => rfl
  | some a =>
    show optional read (write a) = _
    unfold optional
    split
    · rename_i absent
      exact absurd absent (there a)
    · rw [back a rfl]
      rfl

@[simp] theorem optional_text (o : Option String) : optional text (.optional .text o) = .ok o :=
  optional_write (fun _ => Value.noConfusion) fun _ _ => rfl

@[simp] theorem optional_int (o : Option Int) : optional int (.optional .int o) = .ok o :=
  optional_write (fun _ => Value.noConfusion) fun _ _ => rfl

@[simp] theorem optional_named [Named α] [Named.Lawful α] (o : Option α) :
    optional Named.read (.optional Named.write o) = .ok o :=
  optional_write (fun _ => Value.noConfusion) fun a _ => Named.read_write a

theorem items_write {read : Reader α} {write : α → Value} {as : List α}
    (back : ∀ a ∈ as, read (write a) = .ok a) (n : Nat) :
    items read n (as.map write) = .ok as := by
  induction as generalizing n with
  | nil => rfl
  | cons a as ih =>
    obtain ⟨first, others⟩ := List.forall_mem_cons.1 back
    rw [List.map_cons, items, first, ih others]
    rfl

@[simp] theorem list_write {read : Reader α} {write : α → Value}
    (back : ∀ a, read (write a) = .ok a) (as : List α) :
    list read (.list (as.map write)) = .ok as :=
  items_write (fun a _ => back a) 0

@[simp] theorem list_texts (ss : List String) : list text (.texts ss) = .ok ss :=
  list_write text_write ss

/-! ## Fields -/

section

variable {name other : String} {read : Reader α} {fs : Fields}

@[simp] theorem required_here (v : Value) :
    required name read ((.name name, v) :: fs) = (read v).inField name := by
  simp [required, Fields.find?]

@[simp] theorem required_later (h : other ≠ name) (v : Value) :
    required name read ((.name other, v) :: fs) = required name read fs := by
  simp [required, Fields.find?, h]

@[simp] theorem field_here (default : α) (v : Value) :
    field name default read ((.name name, v) :: fs) = (read v).inField name := by
  simp [field, Fields.find?]

@[simp] theorem field_later (h : other ≠ name) (default : α) (v : Value) :
    field name default read ((.name other, v) :: fs) = field name default read fs := by
  simp [field, Fields.find?, h]

@[simp] theorem optionalField_here (v : Value) :
    optionalField name read ((.name name, v) :: fs) = (optional read v).inField name :=
  field_here none v

@[simp] theorem optionalField_later (h : other ≠ name) (v : Value) :
    optionalField name read ((.name other, v) :: fs) = optionalField name read fs :=
  field_later h none v

end

/-! ## Records -/

@[simp] theorem record_obj (shape : String) (read : Fields → Checked α)
    (ps : List (String × Value)) :
    record shape read (.obj ps) = read (ps.map fun (k, v) => (.name k, v)) := rfl

theorem unknownFields_of_mem {names : List String} {ps : List (String × Value)}
    (h : ∀ p ∈ ps, p.1 ∈ names) :
    unknownFields names (ps.map fun (k, v) => (.name k, v)) = [] := by
  induction ps with
  | nil => rfl
  | cons p ps ih =>
    obtain ⟨first, others⟩ := List.forall_mem_cons.1 h
    rw [List.map_cons, unknownFields, if_pos first, ih others]

/-- A closed record is read from an object that has its fields, all of them and in order. -/
@[simp] theorem closedRecord_obj {shape : String} {names : List String}
    {read : Fields → Checked α} {ps : List (String × Value)} (h : ps.map Prod.fst = names) :
    closedRecord shape names read (.obj ps) = read (ps.map fun (k, v) => (.name k, v)) := by
  have known : ∀ p ∈ ps, p.1 ∈ names := fun p hp => h ▸ List.mem_map_of_mem hp
  have fields : fieldsOf shape (.obj ps) = some _ := rfl
  unfold closedRecord
  rw [fields]
  dsimp only
  rw [unknownFields_of_mem known]

end Reader

end ProfileReadme
