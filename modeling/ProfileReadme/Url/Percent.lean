/-
Percent encoding of the parts of a URL: letters, digits and a few marks stay, every other
character is written as its UTF-8 bytes in hexadecimal.
-/
import ProfileReadme.Text.Quoted
import ProfileReadme.Value.Shown

namespace ProfileReadme.Url

/-- The characters that stand for themselves. -/
def isPlain (c : Char) : Bool :=
  c.isAlphanum || c ∈ ['_', '.', '-', '~', '!', '*', '\x27', '(', ')']

def upperHex (n : Nat) : Char := (Text.hexDigit n).toUpper

def encodeByte (b : UInt8) : List Char := ['%', upperHex (b.toNat / 16), upperHex b.toNat]

def encodeChar (c : Char) : List Char :=
  if isPlain c then [c] else (String.utf8EncodeChar c).flatMap encodeByte

/-- A text as one component of a URL. -/
def encode (s : String) : String := String.ofList (s.toList.flatMap encodeChar)

/-- A value as one component of a URL; truth values are in lower case. -/
def encodeValue : Value → String
  | .bool b => if b then "true" else "false"
  | v => encode v.shown

/-! ## Queries -/

/-- Named parameters in order; those that are `null` are not sent. -/
abbrev Query := List (String × Value)

def Query.parts : Query → List String
  | [] => []
  | (_, .null) :: rest => Query.parts rest
  | (k, v) :: rest => (encode k ++ "=" ++ encodeValue v) :: Query.parts rest

def Query.write (q : Query) : String := Text.join "&" q.parts

/-- A URL with a query, if there is anything to send. -/
def withQuery (base : String) (q : Query) : String :=
  let query := q.write
  if query.isEmpty then base else base ++ "?" ++ query

/-- A switch that is sent only when it is on. -/
def whenOn (b : Bool) : Value := if b then .bool true else .null

def ofText : Option String → Value := .optional .text

def ofInt : Option Int → Value := .optional .int

end ProfileReadme.Url
