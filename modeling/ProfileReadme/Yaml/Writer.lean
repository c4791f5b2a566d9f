/-
The writer of YAML text: collections as indented lines, sequences in line with the key that they
belong to. Texts stand plain where they would be read back as texts, and else in double quotes.
-/
import ProfileReadme.Value.JsonWriter
import ProfileReadme.Yaml.Reader

namespace ProfileReadme.Yaml

/-- Whether no character ends a plain scalar or opens a comment. -/
def holdsTogether : List Char → Bool
  | [] => true
  | [c] => c ≠ ':' && c ≠ ' '
  | ':' :: ' ' :: _ => false
  | ' ' :: '#' :: _ => false
  | c :: cs => c ≠ '\n' && holdsTogether cs

/-- Whether a text can stand without quotes. -/
def standsPlain (s : String) : Bool :=
  let cs := s.toList
  Layout.startsPlain false cs && cs.head? ≠ some '-'
    && cs.all (fun c => 31 < c.toNat && c.toNat < 127) && holdsTogether cs && ScalarKind.ofPlain s = .text

def writeText (s : String) : String :=
  if standsPlain s then s else Json.writeString Json.line s

def writeReal (x : Binary64) : String :=
  match x with
  | .nan => ".nan"
  | .infinite negative => if negative then "-.inf" else ".inf"
  | x => x.text

def margin (level : Nat) : String := Text.repeated "  " level

/-- The text of a value that takes no lines of its own, if it is one. -/
def writeInline : Value → Option String
  | .null => some "null"
  | .bool b => some (if b then "true" else "false")
  | .int n => some (toString n)
  | .real x => some (writeReal x)
  | .text s => some (writeText s)
  | .bytes bs => some (writeText (String.ofList (bs.map fun b => Char.ofNat b.toNat)))
  | .date d => some (String.ofList (Timestamp.writeDate d))
  | .moment t => some t.write
  | .list [] => some "[]"
  | .object [] | .record _ [] => some "\x7b\x7d"
  | .list _ | .object _ | .record .. => none

mutual

/-- The lines of a collection at a level. -/
def writeLines (level : Nat) : Value → List String
  | .list items => writeItems level items
  | .object fields => writeFields level fields
  | .record _ fields => writeFields level fields
  | v => [margin level ++ (writeInline v).getD ""]

/-- Each item after a dash; a collection begins on the line of its dash. -/
def writeItems (level : Nat) : List Value → List String
  | [] => []
  | v :: vs =>
    let item := match writeInline v with
      | some text => [margin level ++ "- " ++ text]
      | none =>
        match writeLines (level + 1) v with
        | [] => []
        | first :: more =>
          (margin level ++ "- " ++ String.ofList (first.toList.drop (2 * level + 2))) :: more
    item ++ writeItems level vs

/-- Each field after its key; a sequence is not indented further. -/
def writeFields (level : Nat) : List (Key × Value) → List String
  | [] => []
  | (k, v) :: fs =>
    let key := margin level ++ writeText k.label ++ ":"
    let field := match writeInline v with
      | some text => [key ++ " " ++ text]
      | none =>
        match v with
        | .list items => key :: writeItems level items
        | v => key :: writeLines (level + 1) v
    field ++ writeFields level fs

end

/-- The text of a value. -/
def write (v : Value) : String := Text.join "" ((writeLines 0 v).map (· ++ "\n"))

end ProfileReadme.Yaml
