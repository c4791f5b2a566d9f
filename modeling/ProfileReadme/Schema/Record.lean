/-
Readers of lists and records. A record names its shape; an open one passes over fields it does
not know, a closed one reports them after the issues of its own fields.
-/
import ProfileReadme.Schema.Named

namespace ProfileReadme

namespace Reader

/-! ## Lists and optional values -/

/-- Reads the items from position `n` on. -/
def items (read : Reader α) (n : Nat) : List Value → Checked (List α)
  | [] => .ok []
  | v :: vs => List.cons <$> (read v).under (.index n) <*> items read (n + 1) vs

def list (read : Reader α) : Reader (List α)
  | .list vs => items read 0 vs
  | _ => .fail .notList

/-- `null`, or a value. -/
def optional (read : Reader α) : Reader (Option α)
  | .null => .ok none
  | v => some <$> read v

/-! ## Records -/

/-- A field that must be there. -/
def required (name : String) (read : Reader α) (fs : Fields) : Checked α :=
  match fs.find? name with
  | some v => (read v).inField name
  | none => (Checked.fail .missing).inField name

/-- A field with a value for its absence. -/
def field (name : String) (default : α) (read : Reader α) (fs : Fields) : Checked α :=
  match fs.find? name with
  | some v => (read v).inField name
  | none => .ok default

/-- A field that may be absent or `null`. -/
def optionalField (name : String) (read : Reader α) (fs : Fields) : Checked (Option α) :=
  field name none (optional read) fs

/-- The issues of fields whose names are not listed. -/
def unknownFields (names : List String) : Fields → List Issue
  | [] => []
  | (.name k, _) :: fs =>
    if k ∈ names then unknownFields names fs
    else ⟨[.field k], .unknownField⟩ :: unknownFields names fs
  | (.number n, _) :: fs => ⟨[.index n], .badKey⟩ :: unknownFields names fs
  | (.other label, _) :: fs => ⟨[.field label], .badKey⟩ :: unknownFields names fs

/-- The fields of an object or of an accepted record of this shape. -/
def fieldsOf (shape : String) : Value → Option Fields
  | .object fs => some fs
  | .record s fs => if s = shape then some fs else none
  | _ => none

/-- A record that passes over fields it does not know. -/
def record (shape : String) (read : Fields → Checked α) : Reader α := fun v =>
  match fieldsOf shape v with
  | some fs => read fs
  | none => .fail .notRecord

/-- A record whose fields are all listed. -/
def closedRecord (shape : String) (names : List String) (read : Fields → Checked α) : Reader α :=
  fun v =>
    match fieldsOf shape v with
    | some fs =>
      match unknownFields names fs with
      | [] => read fs
      | unknown => .bad ((read fs).issues ++ unknown)
    | none => .fail .notRecord

/-- An object with text keys, kept as it is. -/
def object : Reader Fields
  | .object fs => .ok fs
  | _ => .fail .notObject

end Reader

end ProfileReadme
