/-
Lower case, and capitalised words. A capital sigma becomes a final one when a cased character
stands before it and none after it.
-/
import ProfileReadme.Text.Blank
import ProfileReadme.Text.CaseTable

namespace ProfileReadme.Text

def CaseRun.covers (r : CaseRun) (n : Nat) : Bool :=
  r.first ≤ n && n ≤ r.last && (n - r.first) % r.step == 0

/-- A character shifted as the first run that covers it says. -/
def shifted (runs : List CaseRun) (c : Char) : Char :=
  match runs.find? (·.covers c.toNat) with
  | some r => Char.ofNat ((c.toNat : Int) + r.shift).toNat
  | none => c

def isIgnorable (c : Char) : Bool := inRanges ignorableRanges c

def isCased (c : Char) : Bool := inRanges casedRanges c

/-- Whether the first character that is not passed over has case. -/
def meetsCased (cs : List Char) : Bool :=
  match cs.dropWhile isIgnorable with
  | c :: _ => isCased c
  | [] => false

/-- The lower form of a character between those before it, nearest first, and those after it. -/
def lowerAt (before : List Char) (c : Char) (after : List Char) : List Char :=
  if c = 'Σ' then [if meetsCased before && !meetsCased after then 'ς' else 'σ']
  else if c = '\u0130' then ['i', '\u0307']
  else if c.toNat < 128 then [c.toLower]
  else [shifted lowerRuns c]

def lowerFrom (before : List Char) : List Char → List Char
  | [] => []
  | c :: cs => lowerAt before c cs ++ lowerFrom (c :: before) cs

/-- A text in lower case. -/
def lower (s : String) : String := String.ofList (lowerFrom [] s.toList)

/-- The title form of a character. -/
def titleChar (c : Char) : List Char :=
  if c.toNat < 128 then [c.toUpper]
  else
    match longTitles.lookup c.toNat with
    | some form => form.map Char.ofNat
    | none => [shifted titleRuns c]

/-- The first character in title form, the rest in lower case. -/
def capitalize : List Char → List Char
  | [] => []
  | c :: cs => titleChar c ++ lowerFrom [c] cs

end ProfileReadme.Text
