/-
Texts in lines of a limited width. Lines end between words; a word that is wider than a line is
cut. Blanks between two words stay at the end of the first one's line.
-/
import ProfileReadme.Text.Blank
import ProfileReadme.Text.Width

namespace ProfileReadme.Console

open Text

/-- The words of a line, each with the blanks after it, the first also with those before it. -/
def words : List Char → List (List Char)
  | [] => []
  | c :: cs =>
    match words cs with
    | [] => [[c]]
    | w :: ws =>
      if isBlank c && !(w.head?.any isBlank) then [c] :: w :: ws else (c :: w) :: ws

/-- Blanks before the first word are part of it. -/
def joinLeading : List (List Char) → List (List Char)
  | a :: b :: ws => if a.all isBlank then (a ++ b) :: ws else a :: b :: ws
  | ws => ws

/-- Cuts characters into pieces of at most `limit` columns. -/
def chop (limit : Nat) : List Char → List Char → Nat → List (List Char)
  | done, [], _ => [done.reverse]
  | done, c :: cs, used =>
    let w := charWidth c
    if limit < used + w then done.reverse :: chop limit [c] cs w
    else chop limit (c :: done) cs (used + w)

/-- Puts words into lines. `line` is what stands in the line so far, `used` how wide it is; a line
that has nothing in it is the first one. -/
def place (limit : Nat) : List Char → Nat → List (List Char) → List (List Char)
  | line, _, [] => [line]
  | line, used, w :: ws =>
    let wide := width (dropEndWhile isBlank w)
    if used + wide ≤ limit then place limit (line ++ w) (used + width w) ws
    else
      let before := if line.isEmpty then [] else [line]
      if limit < wide then
        let parts := chop limit [] w 0
        before ++ parts.dropLast ++ place limit (parts.getLastD []) (width (parts.getLastD [])) ws
      else before ++ place limit w (width w) ws

/-- Drops blanks at the end as far as they go beyond the limit. -/
def dropExcess (limit : Nat) (line : List Char) : List Char :=
  let blanks := (line.reverse.takeWhile isBlank).length
  line.take (line.length - min blanks (line.length - limit))

/-- Blanks in place of tabs, up to the next column that eight divides. -/
def expandTabs (used : Nat) : List Char → List Char
  | [] => []
  | '\t' :: cs =>
    let gap := 8 - used % 8
    List.replicate gap ' ' ++ expandTabs (used + gap) cs
  | c :: cs => c :: expandTabs (used + charWidth c) cs

/-- The lines that one line of a text takes. -/
def wrapLine (limit : Nat) (line : List Char) : List (List Char) :=
  (place limit [] 0 (joinLeading (words (expandTabs 0 line)))).map (dropExcess limit)

/-- The lines of a text. -/
def wrap (limit : Nat) (s : String) : List (List Char) :=
  (splitAt (· == '\n') s.toList).flatMap (wrapLine limit)

end ProfileReadme.Console
