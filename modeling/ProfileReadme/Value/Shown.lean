/-
Values as they stand inside a text: numbers in plain notation, nothing as `None`, truth values
capitalised, and the parts of lists and objects with their texts in quotes.
-/
import ProfileReadme.Number.Decimal
import ProfileReadme.Text.Quoted
import ProfileReadme.Value.Basic

namespace ProfileReadme.Value

mutual

/-- A value as a part of a list or an object. -/
def shownPart : Value → String
  | .null => "None"
  | .bool b => if b then "True" else "False"
  | .int n => toString n
  | .real x => x.text
  | .text s => Text.quoted s
  | .bytes bs => "b" ++ Text.quoted (String.ofList (bs.map fun b => Char.ofNat b.toNat))
  | .date d => String.ofList (Timestamp.writeDate d)
  | .moment t => t.write
  | .list items => "[" ++ Text.join ", " (shownParts items) ++ "]"
  | .object fields => "\x7b" ++ Text.join ", " (shownFields fields) ++ "\x7d"
  | .record _ fields => "\x7b" ++ Text.join ", " (shownFields fields) ++ "\x7d"

def shownParts : List Value → List String
  | [] => []
  | v :: vs => shownPart v :: shownParts vs

def shownFields : List (Key × Value) → List String
  | [] => []
  | (k, v) :: fs =>
    let key := match k with
      | .name s => Text.quoted s
      | .number n => toString n
      | .other label => label
    (key ++ ": " ++ shownPart v) :: shownFields fs

end

/-- A value as a text of its own. -/
def shown : Value → String
  | .text s => s
  | v => v.shownPart

end ProfileReadme.Value
