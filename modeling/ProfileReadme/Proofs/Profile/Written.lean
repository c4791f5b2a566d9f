/-
Profiles read back from what is written of them, if their dates are ones that the calendar has; and
every profile that is read has such dates.
-/
import ProfileReadme.Profile
import ProfileReadme.Proofs.Section.Written
import ProfileReadme.Proofs.Time.Valid

namespace ProfileReadme

open Reader

/-! ## The parts of a profile -/

@[simp] theorem Repository.read_write (r : Repository) : Repository.read r.write = .ok r := by
  simp [Repository.read, Repository.write]

@[simp] theorem Repository.plain (r : Repository) (room : Nat) : r.write.Plain (room + 1) := by
  simp [Repository.write]

@[simp] theorem AccountSnapshot.read_write (r : AccountSnapshot) :
    AccountSnapshot.read r.write = .ok r := by
  simp [AccountSnapshot.read, AccountSnapshot.write]

@[simp] theorem AccountSnapshot.plain (r : AccountSnapshot) (room : Nat) :
    r.write.Plain (room + 3) := by
  simp [AccountSnapshot.write]

@[simp] theorem PersonalInfo.read_write (r : PersonalInfo) : PersonalInfo.read r.write = .ok r := by
  simp [PersonalInfo.read, PersonalInfo.write]

@[simp] theorem PersonalInfo.plain (r : PersonalInfo) (room : Nat) : r.write.Plain (room + 1) := by
  simp [PersonalInfo.write]

@[simp] theorem ProfessionalInfo.read_write (r : ProfessionalInfo) :
    ProfessionalInfo.read r.write = .ok r := by
  simp [ProfessionalInfo.read, ProfessionalInfo.write]

@[simp] theorem ProfessionalInfo.plain (r : ProfessionalInfo) (room : Nat) :
    r.write.Plain (room + 4) := by
  simp [ProfessionalInfo.write]

@[simp] theorem ProfileTechStack.read_write (r : ProfileTechStack) :
    ProfileTechStack.read r.write = .ok r := by
  simp [ProfileTechStack.read, ProfileTechStack.write]

@[simp] theorem ProfileTechStack.plain (r : ProfileTechStack) (room : Nat) :
    r.write.Plain (room + 4) := by
  simp [ProfileTechStack.write]

@[simp] theorem ProfileProjects.read_write (r : ProfileProjects) :
    ProfileProjects.read r.write = .ok r := by
  simp [ProfileProjects.read, ProfileProjects.write]

@[simp] theorem ProfileProjects.plain (r : ProfileProjects) (room : Nat) :
    r.write.Plain (room + 4) := by
  simp [ProfileProjects.write]

@[simp] theorem ProfileSocialLinks.read_write (r : ProfileSocialLinks) :
    ProfileSocialLinks.read r.write = .ok r := by
  simp [ProfileSocialLinks.read, ProfileSocialLinks.write]

@[simp] theorem ProfileSocialLinks.plain (r : ProfileSocialLinks) (room : Nat) :
    r.write.Plain (room + 4) := by
  simp [ProfileSocialLinks.write]

@[simp] theorem BlogIntegration.read_write (r : BlogIntegration) :
    BlogIntegration.read r.write = .ok r := by
  simp [BlogIntegration.read, BlogIntegration.write]

@[simp] theorem BlogIntegration.plain (r : BlogIntegration) (room : Nat) :
    r.write.Plain (room + 1) := by
  simp [BlogIntegration.write]

@[simp] theorem SpotifyIntegration.read_write (r : SpotifyIntegration) :
    SpotifyIntegration.read r.write = .ok r := by
  simp [SpotifyIntegration.read, SpotifyIntegration.write]

@[simp] theorem SpotifyIntegration.plain (r : SpotifyIntegration) (room : Nat) :
    r.write.Plain (room + 1) := by
  simp [SpotifyIntegration.write]

@[simp] theorem WakatimeIntegration.read_write (r : WakatimeIntegration) :
    WakatimeIntegration.read r.write = .ok r := by
  simp [WakatimeIntegration.read, WakatimeIntegration.write]

@[simp] theorem WakatimeIntegration.plain (r : WakatimeIntegration) (room : Nat) :
    r.write.Plain (room + 1) := by
  simp [WakatimeIntegration.write]

@[simp] theorem Integrations.read_write (r : Integrations) : Integrations.read r.write = .ok r := by
  simp [Integrations.read, Integrations.write]

@[simp] theorem Integrations.plain (r : Integrations) (room : Nat) : r.write.Plain (room + 2) := by
  simp [Integrations.write]

namespace Profile

/-! ## Whole profiles -/

/-- A profile whose dates the calendar has. -/
structure Dated (p : Profile) : Prop where
  created : ∀ t ∈ p.createdAt, t.IsValid
  updated : ∀ t ∈ p.updatedAt, t.IsValid

theorem time_text {s : String} {t : Timestamp} (h : Timestamp.read s = some t) :
    time (.text s) = .ok t := by
  simp only [time, textOffered, Checked.andThen_ok, h]

theorem optional_time {o : Option Timestamp} (h : ∀ t ∈ o, t.IsValid) :
    optional time (.optional (fun t => .text t.write) o) = .ok o :=
  optional_write (fun _ => Value.noConfusion) fun t ht => time_text (Timestamp.read_write (h t ht))

theorem optional_account (o : Option AccountSnapshot) :
    optional AccountSnapshot.read (.optional AccountSnapshot.write o) = .ok o :=
  optional_write (fun _ => Value.noConfusion) fun a _ => a.read_write

theorem read_write {p : Profile} (h : p.Dated) : Profile.read p.write = .ok p := by
  simp [Profile.read, Profile.write, optional_account, optional_time h.created,
    optional_time h.updated]

@[simp] theorem plain (p : Profile) (room : Nat) : p.write.Plain (room + 5) := by
  simp [Profile.write]

/-! ## What is read -/

theorem optionalField_time {name : String} {fs : Fields} (h : ∀ f ∈ fs, f.2.Timely)
    {o : Option Timestamp} (read : optionalField name time fs = .ok o) : ∀ t ∈ o, t.IsValid := by
  unfold optionalField field at read
  split at read
  · rename_i v here
    obtain ⟨f, hf, rfl⟩ := Fields.mem_of_find? here
    have read := Checked.inField_eq_ok read
    unfold Reader.optional at read
    split at read
    · cases read
      exact fun t none => by cases none
    · obtain ⟨t, ht, rfl⟩ := Checked.map_eq_ok read
      intro t' same
      cases same
      exact time_isValid (h f hf) ht
  · cases read
    exact fun t none => by cases none

/-- A profile that is read has dates that the calendar has, if those in the document are such. -/
theorem dated_of_read {v : Value} {fs : Fields} (hv : fieldsOf "profile" v = some fs)
    (timely : ∀ f ∈ fs, f.2.Timely) {p : Profile} (h : Profile.read v = .ok p) : p.Dated := by
  unfold Profile.read record at h
  rw [hv] at h
  -- field by field from the last one
  obtain ⟨g9, updated, h9, hu, rfl⟩ := Checked.seq_eq_ok h
  obtain ⟨g8, created, h8, hc, rfl⟩ := Checked.seq_eq_ok h9
  obtain ⟨g7, integrations, h7, -, rfl⟩ := Checked.seq_eq_ok h8
  obtain ⟨g6, socialLinks, h6, -, rfl⟩ := Checked.seq_eq_ok h7
  obtain ⟨g5, projects, h5, -, rfl⟩ := Checked.seq_eq_ok h6
  obtain ⟨g4, techStack, h4, -, rfl⟩ := Checked.seq_eq_ok h5
  obtain ⟨g3, professional, h3, -, rfl⟩ := Checked.seq_eq_ok h4
  obtain ⟨g2, personal, h2, -, rfl⟩ := Checked.seq_eq_ok h3
  obtain ⟨g1, github, h1, -, rfl⟩ := Checked.seq_eq_ok h2
  obtain ⟨username, -, rfl⟩ := Checked.map_eq_ok h1
  exact ⟨optionalField_time timely hc, optionalField_time timely hu⟩

/-- The profiles with such dates are just those that can be read. -/
theorem dated_iff_read {p : Profile} : p.Dated ↔ ∃ v fs, fieldsOf "profile" v = some fs ∧
    (∀ f ∈ fs, f.2.Timely) ∧ Profile.read v = .ok p := by
  constructor
  · intro h
    refine ⟨p.write, _, rfl, ?_, read_write h⟩
    have optional (o : Option Timestamp) :
        (Value.optional (fun t => .text t.write) o).Timely := by
      cases o <;> exact trivial
    have account (o : Option AccountSnapshot) :
        (Value.optional AccountSnapshot.write o).Timely := by
      cases o <;> exact trivial
    intro f hf
    simp only [List.map_cons, List.map_nil, List.mem_cons, List.not_mem_nil, or_false] at hf
    rcases hf with rfl | rfl | rfl | rfl | rfl | rfl | rfl | rfl | rfl | rfl
    · exact trivial
    · exact account _
    · exact trivial
    · exact trivial
    · exact trivial
    · exact trivial
    · exact trivial
    · exact trivial
    · exact optional _
    · exact optional _
  · rintro ⟨v, fs, hv, timely, read⟩
    exact dated_of_read hv timely read

end Profile

end ProfileReadme
