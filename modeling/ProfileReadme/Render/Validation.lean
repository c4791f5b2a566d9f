/-
Whether a template can be rendered, which of its sections a profile cannot fill, and a summary of
its size.
-/
import ProfileReadme.Render.Error
import ProfileReadme.Template
import ProfileReadme.Profile

namespace ProfileReadme.Render

/-- What is wrong with a template, and what will be left out. -/
structure Validation where
  misfits : List Misfit
  warnings : List String := []

namespace Validation

def valid (v : Validation) : Bool := v.misfits.isEmpty

def errors (v : Validation) : List Error := v.misfits.map Misfit.report

def write (v : Validation) : Value :=
  .obj [("valid", .bool v.valid), ("errors", .list (v.errors.map Error.write)),
    ("warnings", .texts v.warnings)]

/-- The lines of a list under a colored title, if there are any. -/
def listing (color title : String) (lines : List String) : List String :=
  if lines.isEmpty then []
  else
    ("\n[" ++ color ++ " bold]" ++ title ++ ":[/" ++ color ++ " bold]")
      :: lines.map fun l => "  [" ++ color ++ "]•[/" ++ color ++ "] " ++ l

/-- The text of a validation for a terminal. -/
def format (v : Validation) : String :=
  let head := if v.valid then "[green]✓[/green] Template is valid"
    else "[red]✗[/red] Template is invalid"
  Text.join "\n" <| head
    :: listing "red" "Errors" (v.errors.map fun e => Named.name e.code ++ ": " ++ e.message)
    ++ listing "yellow" "Warnings" v.warnings

end Validation

/-! ## Templates -/

def blankFields (m : TemplateMetadata) : List MetadataField :=
  (if Text.allBlank m.id then [.id] else []) ++ (if Text.allBlank m.name then [.name] else [])

/-- What is wrong with a section, given its position and the ids before it. -/
def sectionMisfits (t : Template) (index : Nat) (seen : List String) (s : Section) : List Misfit :=
  let ofId :=
    if Text.allBlank s.id then [.emptyId index s.kind]
    else if s.id ∈ seen then [.duplicate s.id s.kind] else []
  let ofKind :=
    if t.capabilities.supports s.kind then []
    else [.unsupported s.id s.kind t.metadata.id t.capabilities.supportedSections]
  ofId ++ ofKind

def sectionsMisfits (t : Template) (index : Nat) (seen : List String) : List Section → List Misfit
  | [] => []
  | s :: rest =>
    sectionMisfits t index seen s ++ sectionsMisfits t (index + 1) (s.id :: seen) rest

/-- All that keeps a template from being rendered. -/
def misfits (t : Template) : List Misfit :=
  let blank := blankFields t.metadata
  let count := t.sections.length
  let limit := t.capabilities.maxSections
  (if blank.isEmpty then [] else [.blank blank])
    ++ (if limit < count then [.tooMany limit count t.metadata.id] else [])
    ++ sectionsMisfits t 0 [] t.sections

def validateTemplate (t : Template) : Validation := { misfits := misfits t }

/-! ## Profiles -/

/-- The account that a section of an account names, of the kinds that cannot do without one. -/
def accountOf? (s : Section) : Option String :=
  match s with
  | { kind := .githubStats, data, .. } => some data.username
  | { kind := .contributions, data, .. } => some data.username
  | { kind := .pinnedRepos, data, .. } => some data.username
  | _ => none

/-- The warning about a section that has no account to show. -/
def profileWarning? (p : Profile) (s : Section) : Option String :=
  match accountOf? s with
  | some account =>
    if s.enabled && account.isEmpty && p.githubUsername.isEmpty then
      some ("Section '" ++ s.id ++ "' (" ++ Named.name s.kind
        ++ ") needs a GitHub username and will be skipped")
    else none
  | none => none

def profileWarnings (t : Template) (p : Profile) : List String :=
  t.sections.filterMap (profileWarning? p)

/-- A template against a profile. -/
def validate (t : Template) (p : Profile) : Validation :=
  { misfits := misfits t, warnings := profileWarnings t p }

/-! ## Size -/

inductive Complexity where
  | low | medium | high
deriving DecidableEq, Repr, Inhabited

instance : Named Complexity where
  all := [.low, .medium, .high]
  name
    | .low => "low"
    | .medium => "medium"
    | .high => "high"

/-- The complexity of a number of enabled sections. -/
def Complexity.ofCount (n : Nat) : Complexity :=
  if 10 < n then .high else if 5 < n then .medium else .low

structure Analysis where
  total : Nat
  enabled : Nat
  kinds : List SectionKind
  complexity : Complexity
deriving DecidableEq, Repr

def analyze (t : Template) : Analysis :=
  let enabled := (t.sections.filter (·.enabled)).length
  { total := t.sections.length, enabled, kinds := (t.sections.map (·.kind)).eraseDups,
    complexity := .ofCount enabled }

def Analysis.write (a : Analysis) : Value :=
  .obj [("total_sections", .int a.total), ("enabled_sections", .int a.enabled),
    ("section_types", .list (a.kinds.map Named.write)),
    ("estimated_complexity", Named.write a.complexity)]

end ProfileReadme.Render
