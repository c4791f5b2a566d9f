/-
Plain text operations: replacement, splitting, joining, trimming. Each works on the list of
characters, left to right.
-/

namespace ProfileReadme.Text

/-! ## Replacement -/

/-- Replaces `old` from left to right; `skip` characters of a found copy are still to be dropped. -/
def replaceFrom (old new : List Char) : Nat → List Char → List Char
  | _, [] => []
  | skip + 1, _ :: cs => replaceFrom old new skip cs
  | 0, c :: cs =>
    if old.isPrefixOf (c :: cs) then new ++ replaceFrom old new (old.length - 1) cs
    else c :: replaceFrom old new 0 cs

/-- Every copy of `old` in `s`, found from left to right, becomes `new`. -/
def replace (s old new : String) : String :=
  if old.isEmpty then s else String.ofList (replaceFrom old.toList new.toList 0 s.toList)

/-- Whether `part` occurs in a text. -/
def occursIn (part : List Char) : List Char → Bool
  | [] => part.isEmpty
  | c :: cs => part.isPrefixOf (c :: cs) || occursIn part cs

/-! ## Splitting and joining -/

/-- The pieces between the characters that satisfy `isMark`, empty pieces included. -/
def splitAt (isMark : Char → Bool) : List Char → List (List Char)
  | [] => [[]]
  | c :: cs =>
    if isMark c then [] :: splitAt isMark cs
    else
      match splitAt isMark cs with
      | [] => [[c]]
      | piece :: pieces => (c :: piece) :: pieces

/-- The lines of a text, cut at each line feed. -/
def lines (s : String) : List String := (splitAt (· == '\n') s.toList).map String.ofList

/-- The parts in order with `sep` between neighbours. -/
def join (sep : String) : List String → String
  | [] => ""
  | [part] => part
  | part :: parts => part ++ sep ++ join sep parts

/-- Joins the parts that are not empty. -/
def joinFilled (sep : String) (parts : List String) : String := join sep (parts.filter (!·.isEmpty))

/-- A text that is there and not empty. -/
def filled? (s : Option String) : Option String := s.filter (!·.isEmpty)

/-- A text that is there and not empty, or else another one. -/
def filledOr (s : Option String) (other : String) : String := (filled? s).getD other

/-- `count` copies of a text. -/
def repeated (s : String) (count : Nat) : String := join "" (List.replicate count s)

/-! ## Trimming -/

def dropEndWhile (p : Char → Bool) (cs : List Char) : List Char := (cs.reverse.dropWhile p).reverse

def trimWhile (p : Char → Bool) (cs : List Char) : List Char := dropEndWhile p (cs.dropWhile p)

/-- The runs of characters between those that satisfy `isGap`, empty runs left out. -/
def runs (isGap : Char → Bool) (cs : List Char) : List (List Char) :=
  (splitAt isGap cs).filter (!·.isEmpty)

/-- What follows `lead` in a text that starts with it. -/
def after? (lead cs : List Char) : Option (List Char) :=
  if lead.isPrefixOf cs then some (cs.drop lead.length) else none

def hasStart (lead s : String) : Bool := lead.toList.isPrefixOf s.toList

def hasEnd (tail s : String) : Bool := tail.toList.reverse.isPrefixOf s.toList.reverse

/-! ## Classes of characters -/

/-- Whether the number of a character lies in one of some ranges. -/
def inRanges (ranges : List (Nat × Nat)) (c : Char) : Bool :=
  ranges.any fun (low, high) => low ≤ c.toNat && c.toNat ≤ high

end ProfileReadme.Text
