/-
Style tags in texts for a terminal, as in `[bold]x[/bold]` or `[red]x[/]`. A terminal without
styles shows the text alone. A backslash before a tag makes it text.
-/
import ProfileReadme.Text.Blank
import ProfileReadme.Text.Case

namespace ProfileReadme.Console

/-- A piece of a text with tags. -/
inductive Piece where
  | text (cs : List Char)
  | opening (name : String)
  /-- Closes the style of a name, or the last one if the name is empty. -/
  | closing (name : String)
deriving DecidableEq, Repr

/-- Characters that may begin a tag. -/
def startsTag (c : Char) : Bool := ('a' ≤ c && c ≤ 'z') || c = '#' || c = '/' || c = '@'

/-- What stands between an opening bracket and the closing one, and what follows. -/
def tagBody? (cs : List Char) : Option (List Char × List Char) :=
  let body := cs.takeWhile fun c => c ≠ ']' && c ≠ '['
  match cs.dropWhile (fun c => c ≠ ']' && c ≠ '[') with
  | ']' :: rest => if body.head?.any startsTag then some (body, rest) else none
  | _ => none

def styleName (cs : List Char) : String := Text.lower (Text.strip (String.ofList cs))

/-- The piece that a tag makes; a value after an equals sign is no part of its name. -/
def tagPiece (body : List Char) : Piece :=
  match body.takeWhile (· ≠ '=') with
  | '/' :: name => .closing (styleName name)
  | name => .opening (styleName name)

/-- The pieces of a text; `done` is the text since the last one, last character first. -/
def piecesFrom : Nat → List Char → List Char → List Piece
  | 0, done, cs => [.text (done.reverse ++ cs)]
  | _ + 1, done, [] => [.text done.reverse]
  | fuel + 1, done, c :: cs =>
    let slashes := (c :: cs).takeWhile (· = '\\')
    let after := (c :: cs).dropWhile (· = '\\')
    match after with
    | '[' :: inner =>
      match tagBody? inner with
      | some (body, rest) =>
        let shown := List.replicate (slashes.length / 2) '\\'
        if slashes.length % 2 = 1 then
          piecesFrom fuel ((shown ++ '[' :: body ++ [']']).reverse ++ done) rest
        else .text (done.reverse ++ shown) :: tagPiece body :: piecesFrom fuel [] rest
      | none =>
        let kept := List.replicate (slashes.length - 1) '\\'
        piecesFrom fuel ('[' :: kept ++ done) inner
    | _ =>
      if slashes.isEmpty then piecesFrom fuel (c :: done) cs
      else piecesFrom fuel (slashes ++ done) after

def pieces (s : String) : List Piece := piecesFrom (s.length + 1) [] s.toList

/-- Closes a style: the last one of a name, or the last one of all. -/
def close (name : String) (styles : List String) : Option (List String) :=
  if name.isEmpty then
    match styles with
    | [] => none
    | _ :: rest => some rest
  else if name ∈ styles then some (styles.erase name)
  else none

/-- Characters that move the cursor of a terminal; they are left out. -/
def movesCursor (c : Char) : Bool :=
  c = '\x07' || c = '\x08' || c = '\x0b' || c = '\x0c' || c = '\r'

def shownFrom (styles : List String) : List Piece → Option (List Char)
  | [] => some []
  | .text cs :: ps => (shownFrom styles ps).map (cs.filter (!movesCursor ·) ++ ·)
  | .opening name :: ps => shownFrom (name :: styles) ps
  | .closing name :: ps =>
    match close name styles with
    | some styles => shownFrom styles ps
    | none => none

/-- The text without its tags, unless a tag closes what is not open. -/
def shown? (s : String) : Option String := (shownFrom [] (pieces s)).map String.ofList

end ProfileReadme.Console
