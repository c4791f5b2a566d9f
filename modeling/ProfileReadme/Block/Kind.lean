/-
The kinds of blocks, by the tags that documents use, and the check that a table has an entry for
each of them and for nothing else.
-/
import ProfileReadme.Schema.Named

namespace ProfileReadme

/-- The tag of a block. -/
inductive BlockKind where
  | text | heading | paragraph | code | quote | image | link | badge | badgeGroup | list
  | spacer | rule | row | column | grid | stat | statGroup | social | socialGroup | typing
  | statsCard | graph | card | projectCard | position | study | award | custom
deriving DecidableEq, Repr, Inhabited

instance : Named BlockKind where
  all := [.text, .heading, .paragraph, .code, .quote, .image, .link, .badge, .badgeGroup, .list,
    .spacer, .rule, .row, .column, .grid, .stat, .statGroup, .social, .socialGroup, .typing,
    .statsCard, .graph, .card, .projectCard, .position, .study, .award, .custom]
  name
    | .text => "text"
    | .heading => "heading"
    | .paragraph => "paragraph"
    | .code => "code"
    | .quote => "quote"
    | .image => "image"
    | .link => "link"
    | .badge => "badge"
    | .badgeGroup => "badge-group"
    | .list => "list"
    | .spacer => "spacer"
    | .rule => "divider"
    | .row => "row"
    | .column => "column"
    | .grid => "grid"
    | .stat => "stat"
    | .statGroup => "stat-group"
    | .social => "social-link"
    | .socialGroup => "social-group"
    | .typing => "typing-animation"
    | .statsCard => "github-stats-card"
    | .graph => "contribution-graph"
    | .card => "card"
    | .projectCard => "project-card"
    | .position => "experience-item"
    | .study => "education-item"
    | .award => "achievement-item"
    | .custom => "custom"

instance : Named.Lawful BlockKind := ⟨by intro a; cases a <;> decide⟩

namespace BlockKind

def names : List String := (Named.all : List BlockKind).map Named.name

/-- The first kind, by name, that a table leaves out; of a table with all kinds, its first entry
that is no kind. -/
def misfit? (table : List String) : Option String :=
  let missing := names.filter (· ∉ table)
  let unknown := table.filter (· ∉ names)
  let first := fun (ss : List String) => (ss.mergeSort (· ≤ ·)).head?
  (first missing).orElse fun _ => first unknown

/-- What is said of a table that does not fit. -/
def misfitMessage (target kind : String) : String :=
  "No " ++ target ++ " serializer registered for block kind '" ++ kind ++ "'"

end BlockKind

end ProfileReadme
