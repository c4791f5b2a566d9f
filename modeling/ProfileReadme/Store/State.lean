/-
What an editing session shows: a template, a profile, the colors of the preview, and the last
render of them.
-/
import ProfileReadme.Render.Pipeline

namespace ProfileReadme

/-- A snapshot of an editing session. -/
structure State where
  template : Option Template := none
  profile : Profile := {}
  /-- The colors that were asked for; whether there are such colors shows when they are used. -/
  theme : Value := Named.write ColorScheme.system
  result : Option Render.Result := none
  /-- What is said of the edits that were rejected since the last render. -/
  editErrors : List String := []
deriving Inhabited

def Render.Result.write (r : Render.Result) : Value :=
  .obj [("success", .bool r.success), ("output", .optional Render.Output.write r.output),
    ("errors", .list (r.errors.map Render.Error.write))]

def State.write (s : State) : Value :=
  .obj [("template", .optional Template.write s.template), ("profile", s.profile.write),
    ("preview_theme", s.theme), ("result", .optional Render.Result.write s.result),
    ("edit_errors", .texts s.editErrors)]

end ProfileReadme
