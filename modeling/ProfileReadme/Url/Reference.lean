/-
URL references: taking one apart, putting it together, and resolving it against a base.
-/
import ProfileReadme.Text.Basic
import ProfileReadme.Url.Host

namespace ProfileReadme.Url

/-- The parts of a URL; an absent part is empty. -/
structure Reference where
  scheme : String
  authority : List Char
  path : List Char
  params : List Char
  query : List Char
  fragment : List Char
deriving DecidableEq, Repr

/-! ## Schemes -/

/-- Schemes under which references are relative. -/
def relativeSchemes : List String :=
  ["", "ftp", "http", "gopher", "nntp", "imap", "wais", "file", "https", "shttp", "mms",
    "prospero", "rtsp", "rtsps", "rtspu", "sftp", "svn", "svn+ssh", "ws", "wss"]

/-- Schemes whose URLs have an authority. -/
def authoritySchemes : List String :=
  ["", "ftp", "http", "gopher", "nntp", "telnet", "imap", "wais", "file", "mms", "https", "shttp",
    "snews", "prospero", "rtsp", "rtsps", "rtspu", "rsync", "svn", "svn+ssh", "sftp", "nfs", "git",
    "git+ssh", "ws", "wss"]

/-- Schemes whose last path segment may carry parameters after a semicolon. -/
def paramSchemes : List String :=
  ["", "ftp", "hdl", "prospero", "http", "imap", "https", "shttp", "rtsp", "rtsps", "rtspu", "sip",
    "sips", "mms", "sftp", "tel"]

def isSchemeChar (c : Char) : Bool := c.isAlphanum || c = '+' || c = '-' || c = '.'

/-- A scheme before the first colon, and the rest. -/
def splitScheme (cs : List Char) : Option (String × List Char) :=
  let name := cs.takeWhile (· ≠ ':')
  match cs.dropWhile (· ≠ ':') with
  | _ :: rest =>
    match name with
    | c :: _ =>
      if c.isAlpha && name.all isSchemeChar then
        some (String.ofList (name.map Char.toLower), rest)
      else none
    | [] => none
  | [] => none

/-! ## Taking apart -/

/-- Controls and blanks in front are dropped, and so are tabs and line breaks anywhere. -/
def tidy (cs : List Char) : List Char :=
  (cs.dropWhile fun c => c.toNat ≤ 32).filter fun c => !(c = '\t' || c = '\r' || c = '\n')

/-- The text before the first mark, and the text after it. -/
def cut (mark : Char) (cs : List Char) : List Char × List Char :=
  (cs.takeWhile (· ≠ mark), (cs.dropWhile (· ≠ mark)).drop 1)

/-- The parameters after the first semicolon of the last segment. -/
def splitParams (cs : List Char) : List Char × List Char :=
  let segments := Text.splitAt (· == '/') cs
  let last := segments.getLast?.getD []
  let front := cs.take (cs.length - last.length)
  let (name, params) := cut ';' last
  (front ++ name, params)

def parse (s defaultScheme : String) : Except Fault Reference := do
  let cs := tidy s.toList
  let (scheme, rest) := (splitScheme cs).getD (defaultScheme, cs)
  let (authority, rest) :=
    match rest with
    | '/' :: '/' :: rest =>
      let stops (c : Char) : Bool := c = '/' || c = '?' || c = '#'
      (rest.takeWhile (!stops ·), rest.dropWhile (!stops ·))
    | rest => ([], rest)
  checkAuthority authority
  let (rest, fragment) := cut '#' rest
  let (path, query) := cut '?' rest
  let (path, params) :=
    if scheme ∈ paramSchemes && path.contains ';' then splitParams path else (path, [])
  return ⟨scheme, authority, path, params, query, fragment⟩

/-! ## Putting together -/

def Reference.write (r : Reference) : String :=
  let path := if r.params.isEmpty then r.path else r.path ++ ';' :: r.params
  let double := (['/', '/'] : List Char).isPrefixOf path
  let path :=
    if !r.authority.isEmpty || (r.scheme != "" && r.scheme ∈ authoritySchemes && !double) then
      let path := if !path.isEmpty && path.head? != some '/' then '/' :: path else path
      '/' :: '/' :: (r.authority ++ path)
    else path
  let scheme := if r.scheme.isEmpty then [] else r.scheme.toList ++ [':']
  let query := if r.query.isEmpty then [] else '?' :: r.query
  let fragment := if r.fragment.isEmpty then [] else '#' :: r.fragment
  String.ofList (scheme ++ path ++ query ++ fragment)

/-! ## Resolving -/

def isDot (segment : List Char) : Bool := segment = ['.']

def isDots (segment : List Char) : Bool := segment = ['.', '.']

/-- The segments left when each `..` takes back the one before it; `done` is in reverse. -/
def climb : List (List Char) → List (List Char) → List (List Char)
  | done, [] => done.reverse
  | done, s :: rest =>
    if isDots s then climb (done.drop 1) rest
    else if isDot s then climb done rest
    else climb (s :: done) rest

/-- Drops the empty segments except at both ends. -/
def dropInnerEmpty : List (List Char) → List (List Char)
  | [] => []
  | first :: rest => first :: (rest.dropLast.filter (!·.isEmpty) ++ rest.getLast?.toList)

/-- The path of a relative reference seen from the path of the base. -/
def resolvePath (base path : List Char) : List Char :=
  let segments :=
    if path.head? = some '/' then Text.splitAt (· == '/') path
    else
      let baseSegments := Text.splitAt (· == '/') base
      let folder :=
        if baseSegments.getLast? = some [] then baseSegments else baseSegments.dropLast
      dropInnerEmpty (folder ++ Text.splitAt (· == '/') path)
  let last := segments.getLast?.getD []
  let kept := climb [] segments ++ (if isDot last || isDots last then [[]] else [])
  let joined := List.intercalate ['/'] kept
  if joined.isEmpty then ['/'] else joined

/-- A reference in terms of a base. -/
def join (base url : String) : Except Fault String := do
  if base.isEmpty then return url
  if url.isEmpty then return base
  let b ← parse base ""
  let r ← parse url b.scheme
  if r.scheme ≠ b.scheme || r.scheme ∉ relativeSchemes then return url
  if r.scheme ∈ authoritySchemes && !r.authority.isEmpty then return r.write
  let r := if r.scheme ∈ authoritySchemes then { r with authority := b.authority } else r
  if r.path.isEmpty && r.params.isEmpty then
    let query := if r.query.isEmpty then b.query else r.query
    return { r with path := b.path, params := b.params, query }.write
  return { r with path := resolvePath b.path r.path }.write

/-- A link as a page at `base` follows it. Without a base, and for links that are absolute, start
with two slashes or stay on the page, it is the link itself. -/
def resolve (url : String) (base : Option String) : Except Fault String :=
  match base with
  | none => .ok url
  | some base =>
    if base.isEmpty || url.isEmpty || Text.hasStart "#" url || Text.hasStart "//" url then .ok url
    else do
      let r ← parse url ""
      if r.scheme.isEmpty then join base url else return url

end ProfileReadme.Url
