/-
Templates read back from what is written of them.
-/
import ProfileReadme.Proofs.Section.Written
import ProfileReadme.Template

namespace ProfileReadme

@[simp] theorem Version.read_write (r : Version) : Version.read r.write = .ok r := by
  simp [Version.read, Version.write]

@[simp] theorem Version.plain (r : Version) (room : Nat) : r.write.Plain (room + 1) := by
  simp [Version.write]

@[simp] theorem TemplateMetadata.read_write (r : TemplateMetadata) :
    TemplateMetadata.read r.write = .ok r := by
  simp [TemplateMetadata.read, TemplateMetadata.write]

@[simp] theorem TemplateMetadata.plain (r : TemplateMetadata) (room : Nat) :
    r.write.Plain (room + 2) := by
  simp [TemplateMetadata.write]

@[simp] theorem TemplateLayout.read_write (r : TemplateLayout) :
    TemplateLayout.read r.write = .ok r := by
  simp [TemplateLayout.read, TemplateLayout.write]

@[simp] theorem TemplateLayout.plain (r : TemplateLayout) (room : Nat) :
    r.write.Plain (room + 1) := by
  simp [TemplateLayout.write]

@[simp] theorem TemplateStyles.read_write (r : TemplateStyles) :
    TemplateStyles.read r.write = .ok r := by
  simp [TemplateStyles.read, TemplateStyles.write]

@[simp] theorem TemplateStyles.plain (r : TemplateStyles) (room : Nat) :
    r.write.Plain (room + 1) := by
  simp [TemplateStyles.write]

@[simp] theorem Capabilities.read_write (r : Capabilities) : Capabilities.read r.write = .ok r := by
  simp [Capabilities.read, Capabilities.write]

@[simp] theorem Capabilities.plain (r : Capabilities) (room : Nat) : r.write.Plain (room + 2) := by
  simp [Capabilities.write]

@[simp] theorem Template.read_write (r : Template) : Template.read r.write = .ok r := by
  simp [Template.read, Template.write]

@[simp] theorem Template.plain (r : Template) (room : Nat) : r.write.Plain (room + 7) := by
  simp [Template.write]

end ProfileReadme
