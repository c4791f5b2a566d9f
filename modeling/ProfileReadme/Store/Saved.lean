/-
Saved sessions: what a render needs, as one JSON document. What was rendered is not kept; a
restored session renders anew.
-/
import ProfileReadme.Store.Basic
import ProfileReadme.Value.JsonReader
import ProfileReadme.Value.JsonWriter

namespace ProfileReadme

open Reader

/-- What is kept of a session. -/
structure Saved where
  template : Option Template := none
  profile : Profile := {}
  theme : ColorScheme := .system
deriving DecidableEq

namespace Saved

/-- The version of the document's form; there is no other. -/
def version : Int := 1

def readVersion : Reader Unit
  | .int n => if n = version then .ok () else .fail .notListed
  | _ => .fail .notListed

def read : Reader Saved :=
  record "saved session" fun fs =>
    (fun _ template profile theme => Saved.mk template profile theme)
      <$> field "version" () readVersion fs <*> optionalField "template" Template.read fs
      <*> field "profile" {} Profile.read fs <*> field "preview_theme" .system Named.read fs

def write (s : Saved) : Value :=
  .obj [("version", .int version), ("template", .optional Template.write s.template),
    ("profile", s.profile.write), ("preview_theme", Named.write s.theme)]

/-- The document of a saved session. -/
def text (s : Saved) : String := Json.write Json.page s.write

/-- The most levels of nesting in a document. -/
def deepest : Nat := 200

/-- The session that a document holds. -/
def ofText (text : String) : Checked Saved :=
  match Json.read deepest text with
  | some v => read v
  | none => .fail .malformed

/-- What is kept of a state; the colors have to be ones that there are. -/
def ofState (s : State) : Checked Saved :=
  (fun theme => ⟨s.template, s.profile, theme⟩) <$> (Named.read s.theme).inField "preview_theme"

end Saved

/-- The session that begins with what was saved, rendered once. -/
def Store.restore (saved : Saved) : Flushed :=
  let start : Store := { initial := saved.profile }
  let loaded := match saved.template with
    | some t => start.act (.setTemplate t)
    | none => start
  (loaded.act (.setPreviewTheme (Named.write saved.theme))).flush

end ProfileReadme
