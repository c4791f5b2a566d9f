/-
Blank characters: the Unicode white space and the four separator controls. Trimming and cutting
into words go by this class.
-/
import ProfileReadme.Text.Basic

namespace ProfileReadme.Text

/-- White space, and the separators U+001C to U+001F. -/
def isBlank (c : Char) : Bool :=
  let n := c.toNat
  (9 ≤ n && n ≤ 13) || (28 ≤ n && n ≤ 32) || n == 0x85 || n == 0xA0 || n == 0x1680
    || (0x2000 ≤ n && n ≤ 0x200A) || n == 0x2028 || n == 0x2029 || n == 0x202F || n == 0x205F
    || n == 0x3000

/-- White space in the sense of Unicode, without the separator controls. -/
def isWhiteSpace (c : Char) : Bool :=
  isBlank c && !(28 ≤ c.toNat && c.toNat ≤ 31)

/-- Blank characters at both ends are dropped. -/
def strip (s : String) : String := String.ofList (trimWhile isBlank s.toList)

/-- Blank characters at the end are dropped. -/
def stripEnd (s : String) : String := String.ofList (dropEndWhile isBlank s.toList)

/-- Whether a text has blank characters only. -/
def allBlank (s : String) : Bool := s.toList.all isBlank

/-- The words of a text: runs without blank characters. -/
def words (s : String) : List (List Char) := runs isBlank s.toList

theorem isBlank_of_isWhitespace (c : Char) (h : c.isWhitespace) : isBlank c := by
  simp only [Char.isWhitespace, Bool.or_eq_true, decide_eq_true_eq] at h
  rcases h with ((h | h) | h) | h <;> subst h <;> decide

end ProfileReadme.Text
