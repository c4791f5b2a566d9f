/-
Entries of section lists, and the records of a section, read back from what is written of them.
-/
import ProfileReadme.Proofs.Schema.Rereading
import ProfileReadme.Proofs.Value.Plain
import ProfileReadme.Section.Basic

namespace ProfileReadme

/-! ## Entries -/

@[simp] theorem TechItem.read_write (r : TechItem) : TechItem.read r.write = .ok r := by
  simp [TechItem.read, TechItem.write]

@[simp] theorem TechItem.plain (r : TechItem) (room : Nat) : r.write.Plain (room + 2) := by
  simp [TechItem.write]

@[simp] theorem Project.read_write (r : Project) : Project.read r.write = .ok r := by
  simp [Project.read, Project.write]

@[simp] theorem Project.plain (r : Project) (room : Nat) : r.write.Plain (room + 2) := by
  simp [Project.write]

@[simp] theorem Experience.read_write (r : Experience) : Experience.read r.write = .ok r := by
  simp [Experience.read, Experience.write]

@[simp] theorem Experience.plain (r : Experience) (room : Nat) : r.write.Plain (room + 2) := by
  simp [Experience.write]

@[simp] theorem Education.read_write (r : Education) : Education.read r.write = .ok r := by
  simp [Education.read, Education.write]

@[simp] theorem Education.plain (r : Education) (room : Nat) : r.write.Plain (room + 2) := by
  simp [Education.write]

@[simp] theorem Achievement.read_write (r : Achievement) : Achievement.read r.write = .ok r := by
  simp [Achievement.read, Achievement.write]

@[simp] theorem Achievement.plain (r : Achievement) (room : Nat) : r.write.Plain (room + 2) := by
  simp [Achievement.write]

@[simp] theorem BlogPost.read_write (r : BlogPost) : BlogPost.read r.write = .ok r := by
  simp [BlogPost.read, BlogPost.write]

@[simp] theorem BlogPost.plain (r : BlogPost) (room : Nat) : r.write.Plain (room + 2) := by
  simp [BlogPost.write]

@[simp] theorem ContactMethod.read_write (r : ContactMethod) :
    ContactMethod.read r.write = .ok r := by
  simp [ContactMethod.read, ContactMethod.write]

@[simp] theorem ContactMethod.plain (r : ContactMethod) (room : Nat) :
    r.write.Plain (room + 2) := by
  simp [ContactMethod.write]

@[simp] theorem SocialLink.read_write (r : SocialLink) : SocialLink.read r.write = .ok r := by
  simp [SocialLink.read, SocialLink.write]

@[simp] theorem SocialLink.plain (r : SocialLink) (room : Nat) : r.write.Plain (room + 2) := by
  simp [SocialLink.write]

namespace SectionKind

/-! ## Records of a kind -/

theorem readData_writeData (k : SectionKind) (d : k.Data) : k.readData (k.writeData d) = .ok d := by
  cases k <;> simp [readData, writeData, HeroData.read, HeroData.write, AboutData.read,
    AboutData.write, TechStackData.read, TechStackData.write, GithubStatsData.read,
    GithubStatsData.write, ProjectsData.read, ProjectsData.write, ExperienceData.read,
    ExperienceData.write, EducationData.read, EducationData.write, AchievementsData.read,
    AchievementsData.write, BlogPostsData.read, BlogPostsData.write, ContactData.read,
    ContactData.write, SocialsData.read, SocialsData.write, QuoteData.read, QuoteData.write,
    DividerData.read, DividerData.write, SpacerData.read, SpacerData.write, CustomMarkdownData.read,
    CustomMarkdownData.write, CustomHtmlData.read, CustomHtmlData.write, SpotifyData.read,
    SpotifyData.write, WakatimeData.read, WakatimeData.write, ContributionsData.read,
    ContributionsData.write, PinnedReposData.read, PinnedReposData.write]

theorem readConfig_writeConfig (k : SectionKind) (d : k.Config) :
    k.readConfig (k.writeConfig d) = .ok d := by
  cases k <;> simp [readConfig, writeConfig, SectionConfig.readFields, SectionConfig.writeFields,
    SectionConfig.read, SectionConfig.write, HeroConfig.read, HeroConfig.write, AboutConfig.read,
    AboutConfig.write, TechStackConfig.read, TechStackConfig.write, GithubStatsConfig.read,
    GithubStatsConfig.write, ProjectsConfig.read, ProjectsConfig.write, ExperienceConfig.read,
    ExperienceConfig.write, EducationConfig.read, EducationConfig.write, AchievementsConfig.read,
    AchievementsConfig.write, BlogPostsConfig.read, BlogPostsConfig.write, ContactConfig.read,
    ContactConfig.write, SocialsConfig.read, SocialsConfig.write, QuoteConfig.read,
    QuoteConfig.write, DividerConfig.read, DividerConfig.write, SpotifyConfig.read,
    SpotifyConfig.write, WakatimeConfig.read, WakatimeConfig.write, ContributionsConfig.read,
    ContributionsConfig.write, PinnedReposConfig.read, PinnedReposConfig.write]

theorem plain_writeData (k : SectionKind) (d : k.Data) (room : Nat) :
    (k.writeData d).Plain (room + 4) := by
  cases k <;> simp [writeData, HeroData.write, AboutData.write, TechStackData.write,
    GithubStatsData.write, ProjectsData.write, ExperienceData.write, EducationData.write,
    AchievementsData.write, BlogPostsData.write, ContactData.write, SocialsData.write,
    QuoteData.write, DividerData.write, SpacerData.write, CustomMarkdownData.write,
    CustomHtmlData.write, SpotifyData.write, WakatimeData.write, ContributionsData.write,
    PinnedReposData.write]

theorem plain_writeConfig (k : SectionKind) (d : k.Config) (room : Nat) :
    (k.writeConfig d).Plain (room + 1) := by
  cases k <;> simp [writeConfig, SectionConfig.writeFields, SectionConfig.write, HeroConfig.write,
    AboutConfig.write, TechStackConfig.write, GithubStatsConfig.write, ProjectsConfig.write,
    ExperienceConfig.write, EducationConfig.write, AchievementsConfig.write, BlogPostsConfig.write,
    ContactConfig.write, SocialsConfig.write, QuoteConfig.write, DividerConfig.write,
    SpotifyConfig.write, WakatimeConfig.write, ContributionsConfig.write, PinnedReposConfig.write]

end SectionKind

namespace Section

theorem writeData_isObject (k : SectionKind) (d : k.Data) :
    ∃ fs, k.writeData d = .object fs := by
  cases k <;> exact ⟨_, rfl⟩

theorem writeConfig_isObject (k : SectionKind) (d : k.Config) :
    ∃ fs, k.writeConfig d = .object fs := by
  cases k <;> exact ⟨_, rfl⟩

theorem payloadPart_write {shape name : String} {read : Reader α} {fs : Fields} {v : Value} {a : α}
    (here : fs.find? name = some v) (object : ∃ inner, v = .object inner) (back : read v = .ok a) :
    payloadPart shape read name fs = .ok a := by
  obtain ⟨inner, rfl⟩ := object
  unfold payloadPart
  rw [here]
  exact back

/-- The document of a section in which another object stands for its config: the section with the
config that this object reads as. -/
theorem read_withConfig (s : Section) (inner : Fields) :
    Section.read (.obj [("id", .text s.id), ("type", Named.write s.kind),
      ("enabled", .bool s.enabled), ("order", .int s.order), ("title", .optional .text s.title),
      ("data", s.kind.writeData s.data), ("config", .object inner)]) =
        (s.kind.readConfig (.object inner)).map fun config => { s with config } := by
  obtain ⟨fs, hfs⟩ : ∃ fs : Fields, fs = [(.name "id", .text s.id),
    (.name "type", Named.write s.kind), (.name "enabled", .bool s.enabled),
    (.name "order", .int s.order), (.name "title", .optional .text s.title),
    (.name "data", s.kind.writeData s.data), (.name "config", .object inner)] := ⟨_, rfl⟩
  have kind : kindOf fs = some s.kind := by
    rw [hfs]
    exact Named.Lawful.find?_name s.kind
  have data : payloadPart s.kind.dataShape s.kind.readData "data" fs = .ok s.data :=
    payloadPart_write (by simp [hfs, Fields.find?]) (writeData_isObject s.kind s.data)
      (s.kind.readData_writeData s.data)
  have config : payloadPart s.kind.configShape s.kind.readConfig "config" fs =
      s.kind.readConfig (.object inner) := by
    simp [payloadPart, hfs, Fields.find?]
  have fields : Reader.fieldsOf "section" (.obj [("id", .text s.id), ("type", Named.write s.kind),
      ("enabled", .bool s.enabled), ("order", .int s.order), ("title", .optional .text s.title),
      ("data", s.kind.writeData s.data), ("config", .object inner)]) = some fs := by
    rw [hfs]
    rfl
  unfold Section.read
  rw [fields]
  dsimp only
  rw [kind]
  show readTyped s.kind fs = _
  unfold readTyped
  rw [data, config]
  cases s.kind.readConfig (.object inner) with
  | ok config => simp [hfs, Checked.map]
  | bad issues => rfl

@[simp] theorem read_write (s : Section) : Section.read s.write = .ok s := by
  obtain ⟨inner, object⟩ := writeConfig_isObject s.kind s.config
  unfold Section.write
  rw [object, read_withConfig, ← object, s.kind.readConfig_writeConfig]
  rfl

@[simp] theorem plain (s : Section) (room : Nat) : s.write.Plain (room + 5) := by
  simp [Section.write, SectionKind.plain_writeData, SectionKind.plain_writeConfig]

end Section

end ProfileReadme
