/-
Outcomes of reading a record: a value, or every issue found. Readings side by side add up their
issues; a reading that follows another runs only if that one passed.
-/

namespace ProfileReadme

/-- One step into a document: to a field, or to an item of a list. -/
inductive Step where
  | field (name : String)
  | index (n : Int)
deriving DecidableEq, Repr

/-- Why a value does not fit. -/
inductive Fault where
  | missing
  | notText
  | badEncoding
  | notInt
  | intText
  | intFraction
  | intSize
  | notFinite
  | notBool
  | boolText
  | notReal
  | realText
  | notList
  | notObject
  | notRecord
  | notTagged
  | noTag
  | unknownTag
  | notListed
  | notMember
  | atLeast (bound : Int)
  | atMost (bound : Int)
  | above (bound : Int)
  | unknownField
  | badKey
  | notTime
  | timeCount
  | timeText
  | malformed
deriving DecidableEq, Repr

/-- The word that stands for a fault in answers. -/
def Fault.code : Fault → String
  | .missing => "missing"
  | .notText => "string_type"
  | .badEncoding => "string_unicode"
  | .notInt => "int_type"
  | .intText => "int_parsing"
  | .intFraction => "int_from_float"
  | .intSize => "int_parsing_size"
  | .notFinite => "finite_number"
  | .notBool => "bool_type"
  | .boolText => "bool_parsing"
  | .notReal => "float_type"
  | .realText => "float_parsing"
  | .notList => "list_type"
  | .notObject => "dict_type"
  | .notRecord => "model_type"
  | .notTagged => "model_attributes_type"
  | .noTag => "union_tag_not_found"
  | .unknownTag => "union_tag_invalid"
  | .notListed => "literal_error"
  | .notMember => "enum"
  | .atLeast _ => "greater_than_equal"
  | .atMost _ => "less_than_equal"
  | .above _ => "greater_than"
  | .unknownField => "extra_forbidden"
  | .badKey => "invalid_key"
  | .notTime => "datetime_type"
  | .timeCount => "datetime_parsing"
  | .timeText => "datetime_from_date_parsing"
  | .malformed => "json_invalid"

/-- A fault and the way to it. -/
structure Issue where
  path : List Step
  fault : Fault
deriving DecidableEq, Repr

/-- An issue, seen from one step further out. -/
def Issue.under (step : Step) (i : Issue) : Issue := ⟨step :: i.path, i.fault⟩

/-- What a reading gives. -/
inductive Checked (α : Type u) where
  | ok (value : α)
  | bad (issues : List Issue)
deriving Repr

namespace Checked

/-- A single fault, here. -/
def fail (fault : Fault) : Checked α := .bad [⟨[], fault⟩]

def map (f : α → β) : Checked α → Checked β
  | .ok a => .ok (f a)
  | .bad issues => .bad issues

/-- Two readings side by side: the issues of both count. -/
def both (f : Checked (α → β)) (a : Checked α) : Checked β :=
  match f, a with
  | .ok f, .ok a => .ok (f a)
  | .ok _, .bad issues => .bad issues
  | .bad issues, .ok _ => .bad issues
  | .bad first, .bad second => .bad (first ++ second)

instance : Functor Checked where map := map

instance : Applicative Checked where
  pure := .ok
  seq f a := both f (a ())

/-- A reading that needs the value of another. -/
def andThen (a : Checked α) (f : α → Checked β) : Checked β :=
  match a with
  | .ok a => f a
  | .bad issues => .bad issues

def under (step : Step) : Checked α → Checked α
  | .ok a => .ok a
  | .bad issues => .bad (issues.map (Issue.under step))

def inField (name : String) (c : Checked α) : Checked α := c.under (.field name)

def issues : Checked α → List Issue
  | .ok _ => []
  | .bad issues => issues

def toOption : Checked α → Option α
  | .ok a => some a
  | .bad _ => none

@[simp] theorem map_ok (f : α → β) (a : α) : f <$> Checked.ok a = .ok (f a) := rfl

@[simp] theorem seq_ok (f : α → β) (a : α) : Checked.ok f <*> Checked.ok a = .ok (f a) := rfl

@[simp] theorem andThen_ok (a : α) (f : α → Checked β) : (Checked.ok a).andThen f = f a := rfl

@[simp] theorem under_ok (step : Step) (a : α) : (Checked.ok a).under step = .ok a := rfl

end Checked

end ProfileReadme
