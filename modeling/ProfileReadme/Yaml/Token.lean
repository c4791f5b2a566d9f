/-
The parts of a YAML text, and why a text is refused.
-/
import ProfileReadme.Text.Quoted

namespace ProfileReadme.Yaml

/-- Why a text is refused. -/
inductive Fault where
  /-- The text is no document. -/
  | malformed
  /-- An escape names no character. -/
  | noCharacter
  | badInt (base : Nat) (text : String)
  | emptyNumber
  /-- A whole number of too many digits. -/
  | longInt (digits : Nat)
  | badReal (text : String)
  | badBool (word : String)
  | notTime
  | badYear (year : Nat)
  | badTime (cause : String)
deriving DecidableEq, Repr

/-- The most digits in which a whole number is read. -/
def longestInt : Nat := 4300

/-- What is said of a fault; a text that is no document is reported without details. -/
def Fault.message : Fault → String
  | .malformed => ""
  | .noCharacter => "chr() arg not in range(0x110000)"
  | .badInt base text =>
    "invalid literal for int() with base " ++ toString base ++ ": " ++ Text.quoted text
  | .emptyNumber => "string index out of range"
  | .longInt digits =>
    "Exceeds the limit (" ++ toString longestInt ++ " digits) for integer string conversion: " ++
      "value has " ++ toString digits ++
      " digits; use sys.set_int_max_str_digits() to increase the limit"
  | .badReal text => "could not convert string to float: " ++ Text.quoted text
  | .badBool word => Text.quoted word
  | .notTime => "no time"
  | .badYear year => "year " ++ toString year ++ " is out of range"
  | .badTime cause => cause

/-- What a document says of itself before it starts. -/
inductive Directive where
  | version (major minor : Nat)
  | tag (handle lead : String)
  | other
deriving DecidableEq, Repr

inductive Token where
  | directive (d : Directive)
  | documentStart
  | documentEnd
  | blockSequenceStart
  | blockMappingStart
  | blockEnd
  | flowSequenceStart
  | flowSequenceEnd
  | flowMappingStart
  | flowMappingEnd
  | blockEntry
  | flowEntry
  | key
  | value
  | alias (name : String)
  | anchor (name : String)
  | tag (handle : Option String) (suffix : String)
  | scalar (text : String) (plain : Bool)
  | streamEnd
deriving DecidableEq, Repr

end ProfileReadme.Yaml
