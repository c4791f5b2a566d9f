/-
Records from files. A file is missing, or holds bytes; the bytes are a text, the text is a
document, and the document is read as a record. Each step has its own way to fail.
-/
import ProfileReadme.Catalog
import ProfileReadme.Profile
import ProfileReadme.Store.Saved
import ProfileReadme.Yaml.Reader

namespace ProfileReadme

/-- Why no record came out of a file. -/
inductive LoadFault where
  /-- There is no such file, or it cannot be read. -/
  | unreadable
  /-- The bytes are no text. -/
  | notText
  /-- The text is no document. -/
  | malformed
  /-- A scalar of the document has a tag or a look that its text does not bear out. -/
  | scalar (fault : Yaml.Fault)
  /-- The document is no mapping. -/
  | notMapping
  | invalid (issues : List Issue)
deriving Repr

/-- What is at a path: nothing, or a file with some bytes. -/
abbrev Content := Option (List UInt8)

namespace Content

def text (c : Content) : Except LoadFault String :=
  match c with
  | none => .error .unreadable
  | some bytes =>
    match Reader.decode? bytes with
    | some s => .ok s
    | none => .error .notText

def document (c : Content) : Except LoadFault Value := do
  match Yaml.read (← c.text) with
  | .ok v => return v
  | .error .malformed => throw .malformed
  | .error fault => throw (.scalar fault)

end Content

/-- A record, if the reader accepts it. -/
def accepted : Checked α → Except LoadFault α
  | .ok a => .ok a
  | .bad issues => .error (.invalid issues)

/-- The value itself, or an empty object in place of one that stands for nothing. -/
def orEmpty (v : Value) : Value := if v.isEmptyLike then .object [] else v

def Template.load (c : Content) : Except LoadFault Template := do
  accepted (Template.read (← c.document))

/-- A profile from a file; an empty document is an empty profile. -/
def Profile.load (c : Content) : Except LoadFault Profile := do
  accepted (Profile.read (orEmpty (← c.document)))

def Saved.load (c : Content) : Except LoadFault Saved := do
  accepted (Saved.ofText (← c.text))

/-! ## Templates by reference -/

/-- The last part of a path. -/
def fileName (path : String) : List Char :=
  ((Text.splitAt (· == '/') path.toList).filter (!·.isEmpty)).getLastD []

/-- The ending of a path's last part from its last dot on; a dot at either end makes none. -/
def fileSuffix (path : String) : String :=
  let name := fileName path
  let after := (name.reverse.takeWhile (· ≠ '.')).reverse
  let before := name.length - after.length - 1
  if after.isEmpty || name.length ≤ after.length || before = 0 then ""
  else String.ofList ('.' :: after)

/-- The endings of files that hold templates. -/
def templateSuffixes : List String := [".yaml", ".yml", ".json"]

/-- Why a reference leads to no template. -/
inductive TemplateFault where
  | unknown (reference : String)
  | file (path : String) (fault : LoadFault)

/-- The template that a path or an id refers to. Files come first, if they are there and their
names end as names of template files do. -/
def Template.resolve (exists? : String → Bool) (content : String → Content) (reference : String) :
    Except TemplateFault Template :=
  if fileSuffix reference ∈ templateSuffixes && exists? reference then
    match Template.load (content reference) with
    | .ok t => .ok t
    | .error fault => .error (.file reference fault)
  else
    match Catalog.find? reference with
    | some t => .ok t
    | none => .error (.unknown reference)

end ProfileReadme
