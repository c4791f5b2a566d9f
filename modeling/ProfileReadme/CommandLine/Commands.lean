/-
The commands: each gives what is to be done, one thing after the other.
-/
import ProfileReadme.CommandLine.Arguments
import ProfileReadme.CommandLine.Disk
import ProfileReadme.CommandLine.Report
import ProfileReadme.Preview.Page
import ProfileReadme.Render.Registry
import ProfileReadme.Settings

namespace ProfileReadme.CommandLine

/-- What there is to do, or what to do in place of it. -/
abbrev Plan (α : Type) := Except (List Act) α

def fail (message : Option String) : Plan α :=
  .error ((message.map failure).toList ++ [.stop 1])

/-! ## Inputs -/

def templateOf (d : Disk) (reference : String) : Plan Template :=
  match Template.resolve d.has d.content reference with
  | .ok t => .ok t
  | .error fault => fail (TemplateFault.message? fault)

def profileOf (d : Disk) (path : Option String) : Plan Profile :=
  match path with
  | none => .ok {}
  | some path =>
    match Profile.load (d.content path) with
    | .ok p => .ok p
    | .error fault => fail (profileMessage? (pathText path) fault)

/-- The template and the profile; a username takes the place of the profile's. -/
def inputsOf (d : Disk) (i : Inputs) : Plan (Template × Profile) := do
  let t ← templateOf d i.template
  let p ← profileOf d i.profile
  match Text.filled? i.username with
  | some name => return (t, { p with githubUsername := name })
  | none => return (t, p)

/-- The settings of the project with values replaced. -/
def settingsOf (d : Disk) (o : Settings.Overrides) : Plan Settings :=
  let path := Settings.fileIn d.here
  match Settings.load (d.content path) with
  | .error .notMapping => fail (some (Settings.notMappingMessage path))
  | .error .malformed => fail (some ("Invalid YAML in " ++ path))
  | .error (.invalid _) => fail (some ("Invalid studio config in " ++ path))
  | .error _ => fail none
  | .ok s =>
    match Settings.read (s.overridden o) with
    | .ok s => .ok s
    | .bad _ => fail none

/-- What is done, whichever way it came about. -/
def Plan.acts : Plan (List Act) → List Act
  | .ok acts => acts
  | .error acts => acts

/-! ## Commands -/

def render (d : Disk) (a : RenderArguments) : List Act :=
  Plan.acts do
    let (t, p) ← inputsOf d a.inputs
    let s ← settingsOf d
      { theme := a.theme.map .text, continueOnError := a.strict.map fun b => .bool !b,
        sectionComments := a.sectionComments.map .bool, attribution := a.attribution.map .bool,
        lineEnding := if a.crlf then some (Named.write LineEnding.crlf) else none }
    let result := Render.render .usual t p s.render
    match result.output with
    | none => return reportResult result none ++ [.stop 1]
    | some o =>
      let readme := o.readme s.readme
      match a.output with
      | none => return [.emit readme]
      | some path => return .write path readme :: reportResult result (some (pathText path))

/-- The page of a render, its images loaded unless they are left as placeholders. -/
def pageOf (t : Template) (result : Render.Result) (s : Settings) (a : PreviewArguments) :
    Except Preview.Fault String :=
  let theme := match result.output with
    | some o => o.context.theme
    | none => s.render.theme.getD .system
  let c : Preview.Context := { theme, asMarkdown := a.asMarkdown, baseUrl := a.baseUrl }
  let start : Preview.Tracker := { timeout := s.imageTimeout }
  let draw : Preview.Drawing String := do
    match result.output with
    | some o =>
      if !a.skeletons then
        let _ ← o.draw c
        modify fun images => images.loadPending.2
    | none => pure ()
    Preview.outputPage c result.output result.errors.length (t.metadata.name ++ " preview")
  (draw.run start).1

def preview (d : Disk) (a : PreviewArguments) : List Act :=
  Plan.acts do
    let (t, p) ← inputsOf d a.inputs
    let s ← settingsOf d { theme := a.theme.map .text }
    let result := Render.render .usual t p s.render
    match pageOf t result s a with
    | .error _ => fail none
    | .ok page =>
      let path := pathText a.output
      if result.success then
        return [.write a.output page, success ("Preview written to " ++ path)]
      else
        return .write a.output page :: reportResult result none ++
          [caution ("Render failed; preview page at " ++ path ++ " shows the error")]

def validate (d : Disk) (i : Inputs) : List Act :=
  Plan.acts do
    let (t, p) ← inputsOf d i
    let v := Render.validate t p
    return [.say v.format, .stop (if v.valid then 0 else 1)]

def templates (category : Option String) (featured : Bool) : List Act :=
  let ts := if featured then Catalog.featured else Catalog.all
  match Text.filled? category with
  | some c => [reportTemplates (ts.filter fun t => Named.name t.metadata.category == c)]
  | none => [reportTemplates ts]

/-- A profile to start from. -/
def sampleProfile : Value :=
  let tech := fun (name category : String) =>
    Value.obj [("name", .text name), ("category", .text category)]
  let link := fun (platform url : String) =>
    Value.obj [("platform", .text platform), ("url", .text url)]
  .obj [("github_username", .text "your-username"),
    ("personal", .obj [("display_name", .text "Your Name"),
      ("headline", .text "Software Engineer"), ("bio", .text "I build things for the web."),
      ("location", .text "Earth"), ("email", .text "hello@example.com")]),
    ("professional", .obj [("years_of_experience", .int 3)]),
    ("tech_stack", .obj [("items", .list [tech "Python" "language",
      tech "TypeScript" "language", tech "PostgreSQL" "database"])]),
    ("social_links", .obj [("links", .list [
      link "github" "https://github.com/your-username",
      link "linkedin" "https://linkedin.com/in/your-username"])])]

def nextSteps : List Act :=
  [.say "", .say "[bold]Next steps:[/]",
    .say "  1. Edit [cyan]profile.yaml[/] with your details",
    .say "  2. Run [cyan]profile-studio templates[/] to pick a template",
    .say <| "  3. Run [cyan]profile-studio render fullstack-developer -p profile.yaml " ++
      "-o README.md[/]"]

/-- The profile of a project. -/
def profileIn (project : String) : String := project ++ "/profile.yaml"

def init (d : Disk) (force : Bool) : List Act :=
  let path := Settings.fileIn d.here
  let profilePath := profileIn d.here
  if d.hasFile path && !force then
    [notice ("Profile Studio is already initialized at " ++ path),
      .say "  Run [cyan]profile-studio init --force[/] to overwrite"]
  else if d.canWrite path then
    let profile := if d.has profilePath then [] else [.write profilePath (Yaml.write sampleProfile)]
    .write path Settings.sample.text :: profile ++
      success ("Initialized Profile Studio in " ++ d.here ++ "/" ++ Settings.directory) :: nextSteps
  else [failure "Failed to initialize Profile Studio", .stop 1]

def versionText : String := "profile-studio 0.1.0\n"

def helpText : String := "Profile Studio - GitHub profile README builder.\n"

/-- What a command does. -/
def Command.acts (d : Disk) : Command → List Act
  | .version => [.emit versionText]
  | .help => [.emit helpText]
  | .render a => CommandLine.render d a
  | .preview a => CommandLine.preview d a
  | .validate i => CommandLine.validate d i
  | .templates category featured => CommandLine.templates category featured
  | .init force => CommandLine.init d force

/-- The files that a command looks at. -/
def Command.paths (here : String) : Command → List String
  | .version | .help | .templates .. => []
  | .render a =>
    Settings.fileIn here :: a.inputs.template :: (a.inputs.profile.toList ++ a.output.toList)
  | .preview a => Settings.fileIn here :: a.inputs.template :: a.output :: a.inputs.profile.toList
  | .validate i => i.template :: i.profile.toList
  | .init _ => [Settings.fileIn here, profileIn here]

/-- Whether the values of options are ones that they can have. -/
def Command.isUsable (d : Disk) (c : Command) : Bool :=
  let themed := fun (theme : Option String) =>
    theme.all fun s => ((Named.find? s : Option ColorScheme)).isSome
  let readable := fun (i : Inputs) => i.profile.all d.hasFile
  match c with
  | .render a => themed a.theme && readable a.inputs
  | .preview a => themed a.theme && readable a.inputs
  | .validate i => readable i
  | _ => true

end ProfileReadme.CommandLine
