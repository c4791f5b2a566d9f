/-
Text as it stands in markup: the five characters that markup reads as its own become references.
-/
import ProfileReadme.Text.Basic

namespace ProfileReadme.Text

/-- The reference for a character inside an element. -/
def contentChar (c : Char) : List Char :=
  if c = '&' then "&amp;".toList
  else if c = '<' then "&lt;".toList
  else if c = '>' then "&gt;".toList
  else [c]

/-- The reference for a character inside a quoted attribute. -/
def attributeChar (c : Char) : List Char :=
  if c = '"' then "&quot;".toList
  else if c = '\x27' then "&#x27;".toList
  else contentChar c

/-- Text of an element: `&`, `<` and `>` become references. -/
def escapeContent (s : String) : String := String.ofList (s.toList.flatMap contentChar)

/-- Text of an attribute: both quotes become references too. -/
def escapeAttribute (s : String) : String := String.ofList (s.toList.flatMap attributeChar)

end ProfileReadme.Text
