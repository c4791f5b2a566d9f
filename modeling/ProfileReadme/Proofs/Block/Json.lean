/-
Blocks that were read from JSON are written as JSON. Only figures and the data of other content
could stand in the way: a figure that is a real number, and data that is kept as it is.
-/
import ProfileReadme.Proofs.Block.Written
import ProfileReadme.Proofs.Value.Json

namespace ProfileReadme

open Reader

variable {id : String} {visible : Bool} {k : BlockKind}

/-! ## Elements -/

/-- Whether what an element holds besides texts has a form in JSON. -/
def Element.InJson : Element → Prop
  | .stat e => e.value.write.IsJson
  | .statGroup e => ∀ m ∈ e.members, m.content.value.write.IsJson
  | .custom e => (Value.object e.data).IsJson
  | _ => True

theorem Placed.content_of_readFields {read : Fields → Checked α} {fs : Fields} {p : Placed α}
    (h : Placed.readFields k read fs = .ok p) : read fs = .ok p.content := by
  obtain ⟨g3, a, h3, ha, rfl⟩ := Checked.seq_eq_ok h
  obtain ⟨g2, u, h2, -, rfl⟩ := Checked.seq_eq_ok h3
  obtain ⟨g1, visible, h1, -, rfl⟩ := Checked.seq_eq_ok h2
  obtain ⟨id, -, rfl⟩ := Checked.map_eq_ok h1
  exact ha

theorem Figure.inJson {v : Value} {f : Figure} (hv : v.IsJson) (h : Figure.read v = .ok f) :
    f.write.IsJson := by
  cases hv with
  | real negative mant exp =>
    cases h
    exact .real negative mant exp
  | _ => cases h <;> first | exact .text _ | exact .int _

namespace Element

variable {fs : Fields}

theorem Stat.inJson {e : Stat} (hfs : ∀ f ∈ fs, f.2.IsJson) (h : Stat.readFields fs = .ok e) :
    e.value.write.IsJson := by
  obtain ⟨g4, format, h4, -, rfl⟩ := Checked.seq_eq_ok h
  obtain ⟨g3, color, h3, -, rfl⟩ := Checked.seq_eq_ok h4
  obtain ⟨g2, icon, h2, -, rfl⟩ := Checked.seq_eq_ok h3
  obtain ⟨g1, value, h1, hvalue, rfl⟩ := Checked.seq_eq_ok h2
  obtain ⟨label, -, rfl⟩ := Checked.map_eq_ok h1
  exact required_from (p := fun f => f.write.IsJson) hfs (fun _ _ => Figure.inJson) hvalue

theorem Stat.member_inJson {v : Value} {p : Placed Stat} (hv : v.IsJson)
    (h : Placed.read .stat Stat.readFields v = .ok p) : p.content.value.write.IsJson := by
  obtain ⟨fs, hfs, h⟩ := record_from hv h
  exact Stat.inJson hfs (Placed.content_of_readFields h)

theorem StatGroup.inJson {e : StatGroup} (hfs : ∀ f ∈ fs, f.2.IsJson)
    (h : StatGroup.readFields fs = .ok e) : ∀ m ∈ e.members, m.content.value.write.IsJson := by
  obtain ⟨g1, layout, h1, -, rfl⟩ := Checked.seq_eq_ok h
  obtain ⟨members, hmembers, rfl⟩ := Checked.map_eq_ok h1
  exact field_from (p := fun ms => ∀ m ∈ ms, m.content.value.write.IsJson) hfs
    (fun m hm => by cases hm) (fun _ _ hv => list_from (fun _ _ => Stat.member_inJson) hv) hmembers

theorem Custom.inJson {e : Custom} (hfs : ∀ f ∈ fs, f.2.IsJson)
    (h : Custom.readFields fs = .ok e) : (Value.object e.data).IsJson := by
  obtain ⟨g2, data, h2, hdata, rfl⟩ := Checked.seq_eq_ok h
  obtain ⟨g1, content, h1, -, rfl⟩ := Checked.seq_eq_ok h2
  obtain ⟨customType, -, rfl⟩ := Checked.map_eq_ok h1
  refine field_from (p := fun fs => (Value.object fs).IsJson) hfs ?_ ?_ hdata
  · exact .object [] .nil rfl fun f hf => by cases hf
  · intro v fs hv hread
    cases v with
    | object => cases hread; exact hv
    | _ => cases hread

/-- Elements that were read from JSON are written as JSON. -/
theorem inJson {read : Fields → Checked Element} {e : Element} (hread : reader? k = some read)
    (hfs : ∀ f ∈ fs, f.2.IsJson) (h : read fs = .ok e) : e.InJson := by
  cases k with
  | stat =>
    cases hread
    obtain ⟨r, hr, rfl⟩ := Checked.map_eq_ok h
    exact Stat.inJson hfs hr
  | statGroup =>
    cases hread
    obtain ⟨r, hr, rfl⟩ := Checked.map_eq_ok h
    exact StatGroup.inJson hfs hr
  | custom =>
    cases hread
    obtain ⟨r, hr, rfl⟩ := Checked.map_eq_ok h
    exact Custom.inJson hfs hr
  | paragraph | row | column | grid | list => cases hread
  | _ =>
    cases hread
    obtain ⟨r, hr, rfl⟩ := Checked.map_eq_ok h
    trivial

@[simp] theorem Badge.member_isJson (p : Placed Badge) :
    (Placed.write .badge Badge.writeFields p).IsJson := by
  simp [Placed.write, Badge.writeFields]

@[simp] theorem Social.member_isJson (p : Placed Social) :
    (Placed.write .social Social.writeFields p).IsJson := by
  simp [Placed.write, Social.writeFields]

theorem Stat.member_isJson {p : Placed Stat} (h : p.content.value.write.IsJson) :
    (Placed.write .stat Stat.writeFields p).IsJson := by
  simp [Placed.write, Stat.writeFields, h]

theorem write_isJson {e : Element} (h : e.InJson) : (Block.element id visible e).write.IsJson := by
  cases e with
  | stat e =>
    have h : e.value.write.IsJson := h
    simp [Block.write, Block.write.head, writeFields, Stat.writeFields, h]
  | statGroup e =>
    have h : ∀ m ∈ e.members, (Placed.write .stat Stat.writeFields m).IsJson :=
      fun m hm => Stat.member_isJson (h m hm)
    simpa [Block.write, Block.write.head, writeFields, StatGroup.writeFields] using h
  | custom e =>
    have h : (Value.object e.data).IsJson := h
    simp [Block.write, Block.write.head, writeFields, Custom.writeFields, h]
  | _ =>
    simp [Block.write, Block.write.head, writeFields, Phrase.writeFields, Heading.writeFields,
      Code.writeFields, Quote.writeFields, Image.writeFields, Link.writeFields, Badge.writeFields,
      Spacer.writeFields, Rule.writeFields, Social.writeFields, Typing.writeFields,
      StatsCard.writeFields, Graph.writeFields, Card.writeFields, ProjectCard.writeFields,
      Position.writeFields, Study.writeFields, Award.writeFields, BadgeGroup.writeFields,
      SocialGroup.writeFields]

end Element

/-! ## Trees -/

theorem Block.stack_isJson {layout : Layout} {children : List Block}
    (h : ∀ c ∈ children, c.write.IsJson) :
    (Block.stack id visible layout children).write.IsJson := by
  cases layout <;> simpa [Block.write, write.head, Layout.writeFields, writeAll_eq_map] using h

theorem Block.list_isJson {marker : ListMarker} {items : List Item}
    (h : ∀ i ∈ items, i.write.IsJson) : (Block.list id visible marker items).write.IsJson := by
  simpa [Block.write, write.head, Item.writeAll_eq_map] using h

theorem Item.text_isJson {content : String} {icon : Option String} {nested : List Item}
    (h : ∀ i ∈ nested, i.write.IsJson) : (Item.text content icon nested).write.IsJson := by
  simpa [Item.write, writeAll_eq_map] using h

theorem Item.block_isJson {content : Block} {icon : Option String} {nested : List Item}
    (hc : content.write.IsJson) (h : ∀ i ∈ nested, i.write.IsJson) :
    (Item.block content icon nested).write.IsJson := by
  simpa [Item.write, writeAll_eq_map, hc] using h

theorem Block.tagged_isJson {v : Value} {fs : Fields} (hv : v.IsJson)
    (h : tagged v = .ok (k, fs)) : ∀ f ∈ fs, f.2.IsJson := by
  unfold tagged at h
  split at h
  · split at h
    · cases h
    · split at h
      · cases h
        exact hv.fields
      · cases h
    · cases h
  · cases hv
  · cases h

section

variable {block : Reader Block} {item : Reader Item} {fs : Fields}
  (blocks : ∀ v b, v.IsJson → block v = .ok b → b.write.IsJson)
  (items : ∀ v i, v.IsJson → item v = .ok i → i.write.IsJson)

include blocks items

theorem Block.readFields_isJson {b : Block} (hfs : ∀ f ∈ fs, f.2.IsJson)
    (h : readFields block item k fs = .ok b) : b.write.IsJson := by
  unfold readFields at h
  split at h
  · rename_i hread
    obtain ⟨p, hp, rfl⟩ := Checked.map_eq_ok h
    exact Element.write_isJson (Element.inJson hread hfs (Placed.content_of_readFields hp))
  · obtain ⟨g4, layout, h4, -, rfl⟩ := Checked.seq_eq_ok h
    obtain ⟨g3, u, h3, -, rfl⟩ := Checked.seq_eq_ok h4
    obtain ⟨g2, children, h2, hchildren, rfl⟩ := Checked.seq_eq_ok h3
    obtain ⟨g1, visible, h1, -, rfl⟩ := Checked.seq_eq_ok h2
    obtain ⟨id, -, rfl⟩ := Checked.map_eq_ok h1
    refine Block.stack_isJson ?_
    exact field_from (p := fun cs => ∀ c ∈ cs, c.write.IsJson) hfs (fun c hc => by cases hc)
      (fun _ _ hv => list_from blocks hv) hchildren
  · obtain ⟨g4, marker, h4, -, rfl⟩ := Checked.seq_eq_ok h
    obtain ⟨g3, is, h3, his, rfl⟩ := Checked.seq_eq_ok h4
    obtain ⟨g2, u, h2, -, rfl⟩ := Checked.seq_eq_ok h3
    obtain ⟨g1, visible, h1, -, rfl⟩ := Checked.seq_eq_ok h2
    obtain ⟨id, -, rfl⟩ := Checked.map_eq_ok h1
    refine Block.list_isJson ?_
    exact field_from (p := fun is => ∀ i ∈ is, i.write.IsJson) hfs (fun i hi => by cases hi)
      (fun _ _ hv => list_from items hv) his

theorem Item.readFields_isJson {i : Item} (hfs : ∀ f ∈ fs, f.2.IsJson)
    (h : readFields block item fs = .ok i) : i.write.IsJson := by
  obtain ⟨g2, nested, h2, hnested, rfl⟩ := Checked.seq_eq_ok h
  obtain ⟨g1, icon, h1, -, rfl⟩ := Checked.seq_eq_ok h2
  obtain ⟨content, hcontent, rfl⟩ := Checked.map_eq_ok h1
  have below : ∀ i ∈ nested, i.write.IsJson :=
    field_from (p := fun is => ∀ i ∈ is, i.write.IsJson) hfs (fun i hi => by cases hi)
      (fun _ _ hv => list_from items hv) hnested
  cases content with
  | inl s => exact Item.text_isJson below
  | inr b =>
    refine Item.block_isJson ?_ below
    have kept : ∀ v c, v.IsJson → readContent block v = .ok c → ∀ b, c = .inr b →
        b.write.IsJson := by
      rintro v c hv h b rfl
      unfold readContent at h
      split at h
      · cases h
      · rename_i hb
        cases h
        exact blocks v b hv hb
      · cases h
    exact required_from (p := fun c => ∀ b, c = .inr b → b.write.IsJson) hfs kept hcontent b rfl

end

/-- Blocks and items that were read from JSON are written as JSON. -/
theorem readWithin_isJson (room : Nat) :
    (∀ v b, v.IsJson → Block.readWithin room v = .ok b → b.write.IsJson) ∧
      ∀ v i, v.IsJson → Item.readWithin room v = .ok i → i.write.IsJson := by
  induction room with
  | zero =>
    constructor
    · intro v b _ h; cases h
    · intro v i _ h; cases h
  | succ room ih =>
    obtain ⟨blocks, items⟩ := ih
    constructor
    · intro v b hv h
      rw [Block.readWithin, Block.readTagged] at h
      split at h
      · rename_i k fs htag
        exact Block.readFields_isJson blocks items (Block.tagged_isJson hv htag)
          (Checked.inField_eq_ok h)
      · cases h
    · intro v i hv h
      rw [Item.readWithin] at h
      obtain ⟨fs, hfs, h⟩ := record_from hv h
      exact Item.readFields_isJson blocks items hfs h

theorem Block.isJson_of_read {v : Value} {b : Block} (hv : v.IsJson) (h : Block.read v = .ok b) :
    b.write.IsJson := (readWithin_isJson v.depth).1 v b hv h

end ProfileReadme
