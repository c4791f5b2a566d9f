/-
What the two records of a section may hold, kind by kind, and that the documents of a section's
records are no other than these. The tables list names, words and bounds as such: they do not refer
to the types of the records, nor to how those are written.
-/
import ProfileReadme.Proofs.Schema.Shape
import ProfileReadme.Section.Basic

namespace ProfileReadme

/-! ## Entries -/

def TechItem.shape : Shape :=
  .record [("name", .text), ("category", .text),
    ("proficiency", .optional (.oneOf ["beginner", "intermediate", "advanced", "expert"])),
    ("featured", .flag)]

def Project.shape : Shape :=
  .record [("name", .text), ("description", .text), ("repo_url", .optional .text),
    ("demo_url", .optional .text), ("tech_stack", .list .text),
    ("status", .oneOf ["active", "completed", "archived", "on-hold", "coming-soon"]),
    ("featured", .flag), ("stars", .optional .int), ("forks", .optional .int)]

def Experience.shape : Shape :=
  .record [("company", .text), ("role", .text), ("start_date", .text),
    ("end_date", .optional .text), ("location", .optional .text), ("description", .text),
    ("highlights", .list .text), ("technologies", .list .text)]

def Education.shape : Shape :=
  .record [("institution", .text), ("degree", .text), ("start_date", .text),
    ("end_date", .optional .text), ("field", .optional .text), ("gpa", .optional .text),
    ("honors", .list .text)]

def Achievement.shape : Shape :=
  .record [("title", .text), ("description", .optional .text), ("date", .optional .text),
    ("issuer", .optional .text), ("icon", .optional .text), ("url", .optional .text)]

def BlogPost.shape : Shape :=
  .record [("title", .text), ("url", .text), ("date", .optional .text),
    ("excerpt", .optional .text)]

def ContactMethod.shape : Shape :=
  .record [("type", .oneOf ["email", "phone", "form", "calendly", "other"]), ("value", .text),
    ("label", .optional .text)]

def SocialLink.shape : Shape :=
  .record [("platform", .text), ("url", .text), ("username", .optional .text),
    ("label", .optional .text)]

/-! ## Records of a kind -/

namespace SectionKind

end SectionKind

/-! ## What sections hold -/

section Entries

variable {shapes : List (String × Shape)}

@[simp] theorem TechItem.admitted (r : TechItem) : shape.Admits shapes r.write := by
  simp (disch := decide) [shape, write]

@[simp] theorem Project.admitted (r : Project) : shape.Admits shapes r.write := by
  simp (disch := decide) [shape, write]

@[simp] theorem Experience.admitted (r : Experience) : shape.Admits shapes r.write := by
  simp [shape, write]

@[simp] theorem Education.admitted (r : Education) : shape.Admits shapes r.write := by
  simp [shape, write]

@[simp] theorem Achievement.admitted (r : Achievement) : shape.Admits shapes r.write := by
  simp [shape, write]

@[simp] theorem BlogPost.admitted (r : BlogPost) : shape.Admits shapes r.write := by
  simp [shape, write]

@[simp] theorem ContactMethod.admitted (r : ContactMethod) : shape.Admits shapes r.write := by
  simp (disch := decide) [shape, write]

@[simp] theorem SocialLink.admitted (r : SocialLink) : shape.Admits shapes r.write := by
  simp [shape, write]

end Entries

namespace SectionKind

end SectionKind

end ProfileReadme
