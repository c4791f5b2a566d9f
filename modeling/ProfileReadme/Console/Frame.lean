/-
Frames for a terminal: a panel around a text, and a table of columns.
-/
import ProfileReadme.Console.Wrap

namespace ProfileReadme.Console

open Text

def line (c : Char) (count : Nat) : List Char := List.replicate count c

/-- Blanks after a text up to a width. -/
def padEnd (limit : Nat) (cs : List Char) : List Char := cs ++ line ' ' (limit - width cs)

/-- A text in the middle of a width; of two unequal halves the first is the smaller. -/
def centered (fill : Char) (limit : Nat) (cs : List Char) : List Char :=
  let space := limit - width cs
  line fill (space / 2) ++ cs ++ line fill (space - space / 2)

def ofLines (ls : List (List Char)) : String :=
  String.ofList (ls.flatMap fun l => l ++ ['\n'])

/-! ## Panels -/

/-- A text in a frame with a title. -/
def panel (limit : Nat) (title text : String) : String :=
  let inner := limit - 4
  let top := centered '─' inner (' ' :: title.toList ++ [' '])
  let body := (wrap inner text).map fun l => '│' :: ' ' :: padEnd inner l ++ [' ', '│']
  ofLines <| ('╭' :: '─' :: top ++ ['─', '╮']) :: body ++ ['╰' :: line '─' (limit - 2) ++ ['╯']]

/-! ## Tables -/

structure Column where
  header : String
  /-- Whether the cells stand at the right. -/
  right : Bool := false
deriving DecidableEq, Repr

/-- The marks of a horizontal line: its ends, what it is made of, and where columns meet. -/
structure Ruler where
  first : Char
  fill : Char
  joint : Char
  last : Char

def headTop : Ruler := ⟨'┏', '━', '┳', '┓'⟩

def headBottom : Ruler := ⟨'┡', '━', '╇', '┩'⟩

def bottom : Ruler := ⟨'└', '─', '┴', '┘'⟩

/-- Parts with a mark between any two. -/
def joined (joint : Char) : List (List Char) → List Char
  | [] => []
  | [p] => p
  | p :: ps => p ++ joint :: joined joint ps

def ruled (r : Ruler) (widths : List Nat) : List Char :=
  r.first :: joined r.joint (widths.map fun w => line r.fill (w + 2)) ++ [r.last]

def cell (c : Column) (w : Nat) (s : String) : List Char :=
  let cs := s.toList
  let space := line ' ' (w - width cs)
  ' ' :: (if c.right then space ++ cs else cs ++ space) ++ [' ']

def cells (side : Char) (columns : List Column) (widths : List Nat) (row : List String) :
    List Char :=
  side :: joined side ((columns.zip (widths.zip row)).map fun (c, w, s) => cell c w s) ++ [side]

/-- How wide each column is: as wide as its widest cell. -/
def widthsOf (rows : List (List String)) : List Nat → List Nat :=
  rows.foldl fun widths row => (widths.zip row).map fun (w, s) => max w (width s.toList)

/-- Rows under headers, with a title above. -/
def table (title : String) (columns : List Column) (rows : List (List String)) : String :=
  let headers := columns.map (·.header)
  let widths := (fun ws => widthsOf rows ws) (headers.map fun h => width h.toList)
  let whole := widths.foldl (fun total w => total + w + 3) 1
  ofLines <| centered ' ' whole title.toList :: ruled headTop widths
    :: cells '┃' columns widths headers :: ruled headBottom widths
    :: rows.map (cells '│' columns widths) ++ [ruled bottom widths]

end ProfileReadme.Console
