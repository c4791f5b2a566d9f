/-
The settings of a project: what its file says, what was asked for in their place, and a file to
start from.
-/
import ProfileReadme.Loading
import ProfileReadme.Markdown.Document
import ProfileReadme.Preview.Tracker
import ProfileReadme.Yaml.Writer

namespace ProfileReadme

open Reader

structure Settings where
  render : Render.Options := {}
  readme : Markdown.ExportOptions := {}
  /-- The seconds that a preview waits for an image. -/
  imageTimeout : Binary64 := Preview.usualTimeout
deriving Repr

namespace Settings

def readTimeout : Reader Binary64 :=
  record "preview settings" fun fs =>
    field "image_timeout_seconds" Preview.usualTimeout positive fs

def read : Reader Settings :=
  record "settings" fun fs =>
    Settings.mk <$> field "render" {} Render.Options.read fs
      <*> field "export" {} Markdown.ExportOptions.read fs
      <*> field "preview" Preview.usualTimeout readTimeout fs

end Settings

def Markdown.ExportOptions.write (o : Markdown.ExportOptions) : Value :=
  .obj [("include_section_comments", .bool o.sectionComments), ("attribution", .bool o.attribution),
    ("line_ending", Named.write o.lineEnding)]

namespace Settings

def write (s : Settings) : Value :=
  .obj [("render", s.render.write), ("export", s.readme.write),
    ("preview", .obj [("image_timeout_seconds", .real s.imageTimeout)])]

/-! ## The file -/

/-- The directory of the settings file in a project. -/
def directory : String := ".profile-studio"

def fileIn (project : String) : String := project ++ "/" ++ directory ++ "/config.yaml"

/-- What is said of a settings file that holds no mapping. -/
def notMappingMessage (path : String) : String :=
  "Invalid studio config in " ++ path ++ ": expected a mapping"

/-- The field of the file that holds the settings. -/
def partOf (v : Value) : Except LoadFault Value :=
  match orEmpty v with
  | .object fs => .ok (orEmpty ((Fields.find? "studio" fs).getD .null))
  | _ => .error .notMapping

/-- The settings of a file; without one, the usual ones. -/
def load (c : Content) : Except LoadFault Settings :=
  match c with
  | none => .ok {}
  | some _ => do accepted (read (← partOf (← c.document)))

/-! ## Replaced values -/

/-- Values that take the place of settings. They are not looked at until they are used. -/
structure Overrides where
  theme : Option Value := none
  skipValidation : Option Value := none
  continueOnError : Option Value := none
  sectionComments : Option Value := none
  attribution : Option Value := none
  lineEnding : Option Value := none

/-- The fields that have values. -/
def given (fields : List (String × Option Value)) : Value :=
  .obj (fields.filterMap fun (name, v) => v.map (name, ·))

def Overrides.write (o : Overrides) : Value :=
  .obj [("render", given [("theme", o.theme), ("skip_validation", o.skipValidation),
      ("continue_on_error", o.continueOnError)]),
    ("export", given [("include_section_comments", o.sectionComments),
      ("attribution", o.attribution), ("line_ending", o.lineEnding)])]

/-- The settings with values replaced. -/
def overridden (s : Settings) (o : Overrides) : Value := s.write.merge o.write

/-- The options of a render under settings with values replaced. -/
def renderOptions (s : Settings) (o : Overrides) : Checked Render.Options :=
  Render.Options.read (s.render.write.merge (given [("theme", o.theme),
    ("skip_validation", o.skipValidation), ("continue_on_error", o.continueOnError)]))

/-! ## A file to start from -/

/-- Settings with every value written out. -/
def sample : Settings :=
  { render := { theme := some .dark }, readme := { attribution := true } }

/-- The text of a settings file. -/
def text (s : Settings) : String := Yaml.write (.obj [("studio", s.write)])

end Settings

end ProfileReadme
