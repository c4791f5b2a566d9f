/-
Hosts in URLs: an address in brackets must be an address, and no other character of a host may
stand for one of the marks that end it.
-/
import ProfileReadme.Text.Quoted

namespace ProfileReadme.Url

/-- Why a URL cannot be taken apart. -/
inductive Fault where
  | brackets
  | futureAddress
  | notAddress (host : String)
  | address4
  | disguisedMark (host : String)
deriving DecidableEq, Repr

def Fault.message : Fault → String
  | .brackets => "Invalid IPv6 URL"
  | .futureAddress => "IPvFuture address is invalid"
  | .notAddress host => Text.quoted host ++ " does not appear to be an IPv4 or IPv6 address"
  | .address4 => "An IPv4 address cannot be in brackets"
  | .disguisedMark host =>
    "netloc '" ++ host ++ "' contains invalid characters under NFKC normalization"

/-! ## Addresses -/

/-- A number from 0 to 255 in decimal without leading zeros. -/
def isOctet (cs : List Char) : Bool :=
  !cs.isEmpty && cs.all Char.isDigit && cs.length ≤ 3 && (cs.length == 1 || cs.head? != some '0')
    && cs.foldl (fun n c => 10 * n + (c.toNat - 48)) 0 ≤ 255

def isAddress4 (cs : List Char) : Bool :=
  let parts := Text.splitAt (· == '.') cs
  parts.length == 4 && parts.all isOctet

def isHexDigit (c : Char) : Bool := c.isDigit || ('a' ≤ c && c ≤ 'f') || ('A' ≤ c && c ≤ 'F')

def isGroup (cs : List Char) : Bool := !cs.isEmpty && cs.length ≤ 4 && cs.all isHexDigit

/-- The groups of an address; an address of four numbers at the end counts as two groups. -/
def groupsOf (cs : List Char) : Option (List (List Char)) :=
  let parts := Text.splitAt (· == ':') cs
  match parts.getLast? with
  | some last =>
    if last.contains '.' then
      if isAddress4 last then some (parts.dropLast ++ [['0'], ['0']]) else none
    else some parts
  | none => none

/-- Eight groups, or fewer with one gap between colons. -/
def isAddress6 (cs : List Char) : Bool :=
  let (body, zone) := (cs.takeWhile (· ≠ '%'), cs.dropWhile (· ≠ '%'))
  let zoneOk := match zone with
    | [] => true
    | _ :: z => !z.isEmpty && !z.contains '%'
  let parts := Text.splitAt (· == ':') body
  if !zoneOk || parts.length < 3 then false
  else
    match groupsOf body with
    | none => false
    | some groups =>
      let inner := (groups.drop 1).dropLast
      let gaps := (inner.filter List.isEmpty).length
      let first := groups.head?.getD []
      let last := groups.getLast?.getD []
      if 9 < groups.length || 1 < gaps then false
      else if gaps = 1 then
        let before := groups.takeWhile (!·.isEmpty)
        let edgeFirst := !first.isEmpty || (groups.drop 1).head? == some []
        let edgeLast := !last.isEmpty || groups.dropLast.getLast? == some []
        let filled := groups.filter (!·.isEmpty)
        edgeFirst && edgeLast && filled.all isGroup && filled.length < 8 && before.length ≤ 8
      else groups.length == 8 && groups.all isGroup

/-- `v`, a version in hexadecimal, a point, and something. -/
def isFutureAddress (cs : List Char) : Bool :=
  match cs with
  | 'v' :: cs =>
    let version := cs.takeWhile isHexDigit
    !version.isEmpty &&
      match cs.dropWhile isHexDigit with
      | '.' :: rest => !rest.isEmpty && !rest.contains '\n'
      | _ => false
  | _ => false

def checkBracketed (host : List Char) : Except Fault Unit :=
  if host.head? = some 'v' then
    if isFutureAddress host then .ok () else .error .futureAddress
  else if isAddress4 host then .error .address4
  else if isAddress6 host then .ok ()
  else .error (.notAddress (String.ofList host))

/-! ## Checks -/

/-- Characters whose compatibility form holds one of the marks `/ ? # @ :`. -/
def disguisedMarks : List Nat :=
  [0x2047, 0x2048, 0x2049, 0x2100, 0x2101, 0x2105, 0x2106, 0x2A74, 0xFE13, 0xFE16, 0xFE55, 0xFE56,
    0xFE5F, 0xFE6B, 0xFF03, 0xFF0F, 0xFF1A, 0xFF1F, 0xFF20]

/-- What stands after the last `@`. -/
def afterLastAt (cs : List Char) : List Char :=
  ((Text.splitAt (· == '@') cs).getLast?).getD []

/-- The host between brackets: nothing before it, and nothing but a port after it. -/
def checkBrackets (authority : List Char) : Except Fault Unit :=
  let host := afterLastAt authority
  let before := host.takeWhile (· ≠ '[')
  match host.dropWhile (· ≠ '[') with
  | [] => checkBracketed (host.takeWhile (· ≠ ':'))
  | _ :: inner =>
    let port := (inner.dropWhile (· ≠ ']')).drop 1
    if !before.isEmpty || (!port.isEmpty && port.head? != some ':') then .error .brackets
    else checkBracketed (inner.takeWhile (· ≠ ']'))

def checkAuthority (authority : List Char) : Except Fault Unit := do
  let opened := authority.contains '['
  let closed := authority.contains ']'
  if opened != closed then throw .brackets
  if opened then checkBrackets authority
  if authority.any fun c => c.toNat ∈ disguisedMarks then
    throw (.disguisedMark (String.ofList authority))

end ProfileReadme.Url
