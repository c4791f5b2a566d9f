/-
Finite types whose members have names: reading a member by its name, and writing it.
-/
import ProfileReadme.Schema.Scalar

namespace ProfileReadme

/-- A type with finitely many members, each with a name. -/
class Named (α : Type) where
  all : List α
  name : α → String

namespace Named

/-- The member of a name. -/
def find? [Named α] (s : String) : Option α := (all (α := α)).find? (name · == s)

/-- The member of a name, or the fault of a value that is none. -/
def readOr [Named α] (fault : Fault) : Reader α
  | .text s =>
    match find? s with
    | some a => .ok a
    | none => .fail fault
  | _ => .fail fault

def read [Named α] : Reader α := readOr .notListed

def write [Named α] (a : α) : Value := .text (name a)

/-- Every member is listed and no name occurs twice. -/
class Lawful (α : Type) [Named α] : Prop where
  find?_name : ∀ a : α, find? (name a) = some a

@[simp] theorem readOr_write [Named α] [Lawful α] (fault : Fault) (a : α) :
    readOr fault (write a) = .ok a := by
  simp [readOr, write, Lawful.find?_name]

@[simp] theorem read_write [Named α] [Lawful α] (a : α) : read (write a) = .ok a :=
  readOr_write .notListed a

end Named

end ProfileReadme
