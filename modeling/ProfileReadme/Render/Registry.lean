/-
Builders by the kind of section: the usual ones, and tables in which some are left out or replaced.
-/
import ProfileReadme.Render.Builder

namespace ProfileReadme.Render

/-- How a section becomes blocks. -/
abbrev Builder := Section → Profile → Except Failure (List Block)

/-- The usual builder of all kinds; ids are numbered within the section. -/
def standard : Builder := fun s p =>
  ((build s.kind s.data s.config p).run { scope := s.id }).map (·.1)

/-- Builders by kind, in the order in which they were registered. -/
abbrev Registry := List (SectionKind × Builder)

namespace Registry

/-- Every kind with its usual builder. -/
def usual : Registry := (Named.all : List SectionKind).map fun k => (k, standard)

def get? (r : Registry) (k : SectionKind) : Option Builder := r.lookup k

/-- Puts a builder in the place of the one a kind has, or at the end. -/
def register (k : SectionKind) (b : Builder) : Registry → Registry
  | [] => [(k, b)]
  | (k', b') :: rest => if k' = k then (k, b) :: rest else (k', b') :: register k b rest

def without (r : Registry) (types : List String) : Registry :=
  r.filter fun (k, _) => Named.name k ∉ types

/-- The types that have a builder. -/
def types (r : Registry) : List String := r.map fun (k, _) => Named.name k

/-- The builder of a type, or the failure of a type that has none. -/
def require (r : Registry) (type : String) : Except Failure Builder :=
  match (Named.find? type).bind r.get? with
  | some b => .ok b
  | none => .error (.noBuilder type r.types)

/-- The blocks of a section. -/
def build (r : Registry) (s : Section) (p : Profile) : Except Failure (List Block) := do
  (← r.require (Named.name s.kind)) s p

end Registry

end ProfileReadme.Render
