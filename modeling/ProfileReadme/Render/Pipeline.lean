/-
Rendering: a template and a profile give an output. A section that cannot be built is left out and
reported; a render that does not go on after errors ends with the first of them.
-/
import ProfileReadme.Render.Output
import ProfileReadme.Render.Registry
import ProfileReadme.Render.Validation

namespace ProfileReadme.Render

open Reader

structure Options where
  /-- The colors of the preview; those of the template if there are none. -/
  theme : Option ColorScheme := none
  locale : String := "en"
  skipValidation : Bool := false
  continueOnError : Bool := true
deriving DecidableEq, Repr, Inhabited

def Options.read : Reader Options :=
  record "options" fun fs =>
    Options.mk <$> optionalField "theme" Named.read fs <*> field "locale" "en" text fs
      <*> field "skip_validation" false bool fs <*> field "continue_on_error" true bool fs

def Options.write (o : Options) : Value :=
  .obj [("theme", .optional Named.write o.theme), ("locale", .text o.locale),
    ("skip_validation", .bool o.skipValidation), ("continue_on_error", .bool o.continueOnError)]

/-- What happens during a render, as it happens. -/
inductive Event where
  | rendered (s : RenderedSection)
  | failed (e : Error)

/-- The outcome of a render: an output if it succeeded, the errors, and what happened. -/
structure Result where
  output : Option Output
  errors : List Error
  events : List Event

def Result.success (r : Result) : Bool := r.output.isSome

/-- What has been rendered so far. -/
structure Progress where
  sections : List RenderedSection := []
  errors : List Error := []
  warnings : List Warning := []
  skipped : Nat := 0
  events : List Event := []

namespace Progress

def skip (p : Progress) : Progress := { p with skipped := p.skipped + 1 }

def add (p : Progress) (s : RenderedSection) : Progress :=
  { p with sections := p.sections ++ [s], events := p.events ++ [.rendered s] }

/-- Leaves out the section of an id for an error. -/
def fail (p : Progress) (id : String) (e : Error) : Progress :=
  { p with
    errors := p.errors ++ [e], warnings := p.warnings ++ [e.warning id],
    skipped := p.skipped + 1, events := p.events ++ [.failed e] }

def metadata (p : Progress) (t : Template) : Metadata :=
  { templateId := t.metadata.id, templateName := t.metadata.name, templateVersion := t.version,
    rendered := p.sections.length, skipped := p.skipped, warnings := p.warnings }

end Progress

/-- The sections one after the other. The left outcome is that of a render that stops at an
error. -/
def renderAll (build : Section → Except Failure (List Block)) (continueOnError : Bool) :
    Progress → List Section → Result ⊕ Progress
  | p, [] => .inr p
  | p, s :: rest =>
    if s.enabled then
      match build s with
      | .ok blocks =>
        let rendered :=
          { id := s.id, type := Named.name s.kind, title := s.title, order := s.order, blocks }
        renderAll build continueOnError (p.add rendered) rest
      | .error failure =>
        let e := failure.report s.id s.kind
        if continueOnError then renderAll build continueOnError (p.fail s.id e) rest
        else .inl ⟨none, [e], (p.fail s.id e).events⟩
    else renderAll build continueOnError p.skip rest

/-- Renders a template for a profile. -/
def render (r : Registry) (t : Template) (profile : Profile) (o : Options) : Result :=
  let validation := validateTemplate t
  if !o.skipValidation && !validation.valid then ⟨none, validation.errors, []⟩
  else
    match renderAll (r.build · profile) o.continueOnError {} t.displayed with
    | .inl stopped => stopped
    | .inr p =>
      let context :=
        { templateId := t.metadata.id, theme := o.theme.getD t.styles.defaultTheme,
          locale := o.locale }
      ⟨some ⟨context, p.sections, p.metadata t⟩, p.errors, p.events⟩

/-- Renders one section as the only one of a template. -/
def renderSection (r : Registry) (s : Section) (t : Template) (profile : Profile) (o : Options) :
    Result :=
  render r (t.withSections [s]) profile o

end ProfileReadme.Render
