/-
Which documents are sections, and what becomes of their two records. The kind that a document names
decides how both are read, whatever was built from them before; nothing of a section whose records
do not fit its kind is kept.
-/
import ProfileReadme.Loading
import ProfileReadme.Proofs.Outcome
import ProfileReadme.Proofs.Section.Shapes
import ProfileReadme.Proofs.Section.Written
import Mathlib.Data.List.Forall2

namespace ProfileReadme

open Reader

namespace Section

/-! ## Sections -/

end Section

/-! ## Templates and saved sessions -/

end ProfileReadme
