/-
Document values: what a JSON or YAML document denotes, and records that have passed a reader.
Objects keep the order of their keys.
-/
import ProfileReadme.Number.Binary64
import ProfileReadme.Time.Timestamp

namespace ProfileReadme

/-- A key of an object: a name, or one of the other scalars that a document may use. -/
inductive Key where
  | name (text : String)
  | number (n : Int)
  | other (label : String)
deriving DecidableEq, Repr, Inhabited

/-- A key as a text. -/
def Key.label : Key → String
  | .name s => s
  | .number n => toString n
  | .other s => s

inductive Value where
  | null
  | bool (b : Bool)
  | int (n : Int)
  | real (x : Binary64)
  | text (s : String)
  | bytes (content : List UInt8)
  | date (d : Date)
  | moment (t : Timestamp)
  | list (items : List Value)
  | object (fields : List (Key × Value))
  /-- Fields of a record that a reader of this shape has accepted. -/
  | record (shape : String) (fields : List (Key × Value))
deriving Inhabited, Repr

/-- The fields of an object, in order. -/
abbrev Fields := List (Key × Value)

namespace Fields

/-- The value of a name; of equal keys the first counts. -/
def find? (name : String) : Fields → Option Value
  | [] => none
  | (k, v) :: rest => if k = .name name then some v else find? name rest

/-- Sets the value at a key from the one it has, in its place; a new key goes to the end. -/
def alter (key : Key) (f : Option Value → Value) : Fields → Fields
  | [] => [(key, f none)]
  | (k, v) :: rest => if k = key then (k, f (some v)) :: rest else (k, v) :: alter key f rest

/-- Puts a value at a key: in the place of that key, or at the end. -/
def put (key : Key) (value : Value) : Fields → Fields := alter key fun _ => value

/-- Fields in which no key repeats: a repeated key keeps its first place and last value. -/
def ofPairs (pairs : List (Key × Value)) : Fields := pairs.foldl (fun fs (k, v) => put k v fs) []

end Fields

namespace Value

/-- An object with named fields. -/
def obj (fields : List (String × Value)) : Value := .object (fields.map fun (k, v) => (.name k, v))

/-- `null` or a value. -/
def optional (write : α → Value) : Option α → Value
  | none => .null
  | some a => write a

def texts (ss : List String) : Value := .list (ss.map .text)

/-- Nesting depth. -/
def depth : Value → Nat
  | .list items => listDepth items + 1
  | .object fields => fieldsDepth fields + 1
  | .record _ fields => fieldsDepth fields + 1
  | _ => 1
where
  listDepth : List Value → Nat
    | [] => 0
    | v :: vs => max (depth v) (listDepth vs)
  fieldsDepth : List (Key × Value) → Nat
    | [] => 0
    | (_, v) :: fs => max (depth v) (fieldsDepth fs)

/-- What stands for nothing: null, false, zero, and all that is empty. -/
def isEmptyLike : Value → Bool
  | .null => true
  | .bool b => !b
  | .int n => n == 0
  | .real x => x.isZero
  | .text s => s.isEmpty
  | .bytes bs => bs.isEmpty
  | .list items => items.isEmpty
  | .object fields => fields.isEmpty
  | _ => false

end Value

/-! ## Merging -/

mutual

/-- Lays changes over a value: objects merge field by field, anything else is replaced. -/
def Value.over (changes base : Value) : Value :=
  match changes with
  | .object new =>
    match base with
    | .object old => .object (Fields.over new old)
    | _ => .object new
  | v => v

/-- Lays changed fields over the base, one after the other. -/
def Fields.over : List (Key × Value) → Fields → Fields
  | [], base => base
  | (k, v) :: rest, base =>
    Fields.over rest <| base.alter k fun
      | some old => v.over old
      | none => v

end

/-- The base with the changes laid over it. -/
def Value.merge (base changes : Value) : Value := changes.over base

end ProfileReadme
