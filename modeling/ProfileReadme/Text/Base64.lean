/-
Bytes written with sixty-four characters, six bits each. Characters that are none of them are
passed over; what is left over of a group of four has to be filled up with equals signs.
-/

namespace ProfileReadme.Text

/-- The six bits of a character. -/
def sixBits? (c : Char) : Option Nat :=
  if 'A' ≤ c && c ≤ 'Z' then some (c.toNat - 65)
  else if 'a' ≤ c && c ≤ 'z' then some (c.toNat - 71)
  else if c.isDigit then some (c.toNat + 4)
  else if c = '+' then some 62
  else if c = '/' then some 63
  else none

/-- Reads on with `place` characters of a group taken, whose open bits are `bits`; `pads` equals
signs came last. -/
def base64From (place bits pads : Nat) : List Char → Option (List UInt8)
  | [] => if place = 0 then some [] else none
  | '=' :: cs =>
    if 2 ≤ place && 4 ≤ place + pads + 1 then some []
    else base64From place bits (pads + 1) cs
  | c :: cs =>
    match sixBits? c with
    | none => base64From place bits pads cs
    | some six =>
      match place with
      | 0 => base64From 1 six 0 cs
      | 1 => (base64From 2 (six % 16) 0 cs).map (UInt8.ofNat (bits * 4 + six / 16) :: ·)
      | 2 => (base64From 3 (six % 4) 0 cs).map (UInt8.ofNat (bits * 16 + six / 4) :: ·)
      | _ => (base64From 0 0 0 cs).map (UInt8.ofNat (bits * 64 + six) :: ·)

/-- The bytes that a text stands for. -/
def base64? (cs : List Char) : Option (List UInt8) := base64From 0 0 0 cs

end ProfileReadme.Text
