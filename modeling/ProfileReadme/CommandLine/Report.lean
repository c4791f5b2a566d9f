/-
What commands say, with style tags.
-/
import ProfileReadme.Console.Frame
import ProfileReadme.Console.Tags
import ProfileReadme.Loading
import ProfileReadme.Render.Pipeline

namespace ProfileReadme.CommandLine

/-- Something a command does. -/
inductive Act where
  /-- Says a text with style tags. -/
  | say (text : String)
  | panel (title text : String)
  | table (title : String) (columns : List Console.Column) (rows : List (List String))
  /-- Puts out a text as it is. -/
  | emit (text : String)
  | write (path text : String)
  /-- Ends the command with a code. -/
  | stop (code : Nat)

def success (message : String) : Act := .say ("[bold green]✓[/] " ++ message)

def failure (message : String) : Act := .say ("[bold red]✗[/] " ++ message)

def caution (message : String) : Act := .say ("[bold yellow]⚠[/] " ++ message)

def notice (message : String) : Act := .say ("[bold blue]ℹ[/] " ++ message)

/-! ## Renders -/

/-- The line of an error in a list. -/
def errorLine (e : Render.Error) : String :=
  let place := match Text.filled? e.sectionId with
    | some id => " [dim](" ++ id ++ ")[/]"
    | none => ""
  "  • " ++ Named.name e.code ++ ": " ++ e.message ++ place

def errorLines (es : List Render.Error) : List Act :=
  if es.isEmpty then []
  else .say "\n[bold red]Errors:[/]" :: es.map fun e => .say (errorLine e)

def summary (m : Render.Metadata) (path : Option String) : String :=
  Text.join "\n" <|
    ["[bold green]README rendered successfully![/]\n",
      "[bold]Template:[/] " ++ m.templateName ++ " (" ++ m.templateVersion ++ ")",
      "[bold]Sections rendered:[/] " ++ toString m.rendered,
      "[bold]Sections skipped:[/] " ++ toString m.skipped] ++
    (path.map ("[bold]Output:[/] " ++ ·)).toList

/-- A panel that sums a render up, and its errors. -/
def reportResult (r : Render.Result) (path : Option String) : List Act :=
  let first := match r.output with
    | some o =>
      let title := if r.errors.isEmpty then "[bold green]✓ Success[/]"
        else "[bold yellow]⚠ Partial[/]"
      Act.panel title (summary o.metadata path)
    | none => .panel "[bold red]✗ Failed[/]" "[bold red]Render failed![/]"
  first :: errorLines r.errors

/-! ## Templates -/

def listColumns : List Console.Column :=
  [⟨"ID", false⟩, ⟨"Name", false⟩, ⟨"Category", false⟩, ⟨"Sections", true⟩, ⟨"Featured", false⟩]

def listRow (t : Template) : List String :=
  [t.metadata.id, t.metadata.name, Named.name t.metadata.category, toString t.sections.length,
    if t.metadata.featured then "★" else "-"]

def reportTemplates (ts : List Template) : Act :=
  if ts.isEmpty then notice "No templates found"
  else .table "Templates" listColumns (ts.map listRow)

/-! ## Files -/

/-- What is said of a template that was not found or not accepted; nothing is said of documents
that cannot be made sense of. -/
def TemplateFault.message? : TemplateFault → Option String
  | .unknown reference => some (Catalog.notFound reference)
  | .file path .unreadable | .file path .malformed => some ("Cannot read template " ++ path)
  | .file path (.invalid _) | .file path .notMapping => some ("Invalid template " ++ path)
  | .file _ .notText | .file _ (.scalar _) => none

def profileMessage? (path : String) : LoadFault → Option String
  | .notText | .scalar _ => none
  | _ => some ("Invalid profile " ++ path)

end ProfileReadme.CommandLine
