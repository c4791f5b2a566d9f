/-
Values that a JSON document denotes, and what the readers of records keep of them: what is read from
such a value without being changed is such a value again.
-/
import ProfileReadme.Proofs.Schema.Rereading

namespace ProfileReadme

/-- No bytes, dates or records, numbers finite, and objects whose keys are names that do not
repeat. -/
inductive Value.IsJson : Value → Prop
  | null : IsJson .null
  | bool (b : Bool) : IsJson (.bool b)
  | int (n : Int) : IsJson (.int n)
  | real (negative : Bool) (mant : Nat) (exp : Int) : IsJson (.real (.finite negative mant exp))
  | text (s : String) : IsJson (.text s)
  | list {items : List Value} (inside : ∀ v ∈ items, IsJson v) : IsJson (.list items)
  | object {fields : Fields} (names : List String) (distinct : names.Nodup)
      (keys : fields.map Prod.fst = names.map Key.name) (inside : ∀ f ∈ fields, IsJson f.2) :
      IsJson (.object fields)

attribute [simp] Value.IsJson.null Value.IsJson.bool Value.IsJson.int Value.IsJson.text

namespace Value

@[simp] theorem isJson_list {items : List Value} :
    (Value.list items).IsJson ↔ ∀ v ∈ items, v.IsJson := by
  constructor
  · rintro ⟨⟩
    assumption
  · exact .list

@[simp] theorem isJson_texts (ss : List String) : (texts ss).IsJson := by
  simp [texts]

@[simp] theorem isJson_optional {write : α → Value} {o : Option α}
    (h : ∀ a, (write a).IsJson) : (Value.optional write o).IsJson := by
  cases o with
  | none => exact .null
  | some a => exact h a

@[simp] theorem isJson_named [Named α] (a : α) : (Named.write a).IsJson := .text _

@[simp] theorem isJson_obj {ps : List (String × Value)} :
    (obj ps).IsJson ↔ (ps.map Prod.fst).Nodup ∧ ∀ p ∈ ps, p.2.IsJson := by
  have keys : (ps.map fun p => (Key.name p.1, p.2)).map Prod.fst =
      (ps.map Prod.fst).map Key.name := by simp
  constructor
  · rintro ⟨⟩
    rename_i names distinct same inside
    rw [keys] at same
    rw [(List.map_inj_right fun _ _ => Key.name.inj).1 same]
    exact ⟨distinct, fun p hp => inside _ (List.mem_map_of_mem hp)⟩
  · rintro ⟨distinct, inside⟩
    refine .object _ distinct keys fun f hf => ?_
    obtain ⟨p, hp, rfl⟩ := List.mem_map.1 hf
    exact inside p hp

theorem IsJson.fields {fs : Fields} (h : (Value.object fs).IsJson) : ∀ f ∈ fs, f.2.IsJson := by
  rcases h with ⟨⟩
  assumption

end Value

/-! ## What readers take from JSON -/

namespace Reader

variable {read : Reader α} {p : α → Prop}

/-- What is read from a field of a JSON object. -/
theorem find?_isJson {name : String} {fs : Fields} {v : Value} (hfs : ∀ f ∈ fs, f.2.IsJson)
    (h : fs.find? name = some v) : v.IsJson := by
  obtain ⟨f, hf, rfl⟩ := Fields.mem_of_find? h
  exact hfs f hf

theorem required_from {name : String} {fs : Fields} {a : α} (hfs : ∀ f ∈ fs, f.2.IsJson)
    (keeps : ∀ v a, v.IsJson → read v = .ok a → p a) (h : required name read fs = .ok a) : p a := by
  unfold required at h
  split at h
  · rename_i v found
    exact keeps v a (find?_isJson hfs found) (Checked.inField_eq_ok h)
  · cases h

theorem field_from {name : String} {default : α} {fs : Fields} {a : α}
    (hfs : ∀ f ∈ fs, f.2.IsJson) (absent : p default)
    (keeps : ∀ v a, v.IsJson → read v = .ok a → p a) (h : field name default read fs = .ok a) :
    p a := by
  unfold field at h
  split at h
  · rename_i v found
    exact keeps v a (find?_isJson hfs found) (Checked.inField_eq_ok h)
  · cases h
    exact absent

theorem items_from (keeps : ∀ v a, v.IsJson → read v = .ok a → p a) :
    ∀ {vs : List Value} {n : Nat} {as : List α}, (∀ v ∈ vs, v.IsJson) →
      items read n vs = .ok as → ∀ a ∈ as, p a
  | [], n, as, _, h, a, ha => by
    cases h
    cases ha
  | v :: vs, n, as, hvs, h, a, ha => by
    obtain ⟨hv, hvs⟩ := List.forall_mem_cons.1 hvs
    obtain ⟨g, rest, hg, hrest, rfl⟩ := Checked.seq_eq_ok h
    obtain ⟨first, hfirst, rfl⟩ := Checked.map_eq_ok hg
    rcases List.mem_cons.1 ha with rfl | ha
    · exact keeps v a hv (Checked.under_eq_ok hfirst)
    · exact items_from keeps hvs hrest a ha

theorem list_from (keeps : ∀ v a, v.IsJson → read v = .ok a → p a) {v : Value} {as : List α}
    (hv : v.IsJson) (h : list read v = .ok as) : ∀ a ∈ as, p a := by
  unfold list at h
  split at h
  · exact items_from keeps (Value.isJson_list.1 hv) h
  · cases h

/-- A record is read from the fields of an object. -/
theorem record_from {shape : String} {readFields : Fields → Checked α} {v : Value} {a : α}
    (hv : v.IsJson) (h : record shape readFields v = .ok a) :
    ∃ fs : Fields, (∀ f ∈ fs, f.2.IsJson) ∧ readFields fs = .ok a := by
  unfold record at h
  cases v with
  | object fs => exact ⟨fs, hv.fields, h⟩
  | record => cases hv
  | _ => cases h

end Reader

end ProfileReadme
