import StorageGauges.Url.Host

/-!
# URLs

A URL that names a host: its parts as the URL standard leaves them when it has
read a text, and the text that they make. Reading removes blanks, encodes what
cannot stand for itself, resolves the dots in a path and drops a port that is
the usual one, so different texts can be the same URL.

A text without a host is of no use for a request and is not read.

## Main definitions

* `Url`: The parts of a URL.
* `Url.read?`: The URL that a text spells.
* `Url.write`: The text of a URL.
-/

namespace StorageGauges

/-- The parts of a URL with a host. Name and password are encoded as they
    stand in the text. -/
structure Url where
  scheme : String
  username : List Char
  password : Option (List Char)
  host : Url.Host
  port : Option Nat
  path : List Char
  query : Option (List Char)
  fragment : Option (List Char)
deriving DecidableEq, Repr

namespace Url

/-- The schemes of the web, with their usual ports. -/
def usualPorts : List (String × Option Nat) :=
  [("http", some 80), ("https", some 443), ("ws", some 80), ("wss", some 443), ("ftp", some 21),
    ("file", none)]

/-- A scheme of the web. -/
def isSpecial (scheme : String) : Bool :=
  (usualPorts.lookup scheme).isSome

/-- A control character, or one outside ASCII. -/
def isControl (c : Char) : Bool :=
  c.toNat < 0x20 || 0x7F ≤ c.toNat

/-- What is encoded in a fragment. -/
def inFragment (c : Char) : Bool :=
  isControl c || " \"<>`".toList.contains c

/-- What is encoded in a path. -/
def inPath (c : Char) : Bool :=
  inFragment c || "#?\x7b\x7d".toList.contains c

/-- What is encoded in a name or a password. -/
def inUserinfo (c : Char) : Bool :=
  inPath c || "/:;=@[\\]^|".toList.contains c

/-- What is encoded in a query. -/
def inQuery (special : Bool) (c : Char) : Bool :=
  isControl c || " \"#<>".toList.contains c || (special && c = '\'')

/-- A blank that has no meaning in a URL. -/
def isIgnored (c : Char) : Bool :=
  c = '\t' || c = '\n' || c = '\r'

/-- A text without the blanks that have no meaning. -/
def cleaned (s : List Char) : List Char :=
  let isEdge (c : Char) : Bool := c.toNat ≤ 0x20
  (((s.dropWhile isEdge).reverse.dropWhile isEdge).reverse).filter fun c => !isIgnored c

/-- A slash; under a scheme of the web a backslash is one too. -/
def isSlash (special : Bool) (c : Char) : Bool :=
  c = '/' || (special && c = '\\')

/-- The end of what is before the path. -/
def endsAuthority (special : Bool) (c : Char) : Bool :=
  isSlash special c || c = '?' || c = '#'

/-- The scheme at the front of a text, in lower case, and what follows its
    colon. -/
def scheme? : List Char → Option (String × List Char)
  | c :: rest =>
    if c.isAlpha then
      let isSchemeChar (d : Char) : Bool := d.isAlphanum || d = '+' || d = '-' || d = '.'
      match rest.dropWhile isSchemeChar with
      | ':' :: after =>
        some (String.ofList ((c :: rest.takeWhile isSchemeChar).map Char.toLower), after)
      | _ => none
    else none
  | [] => none

/-- A text up to its last at sign, and what is behind it. -/
def splitUserinfo (s : List Char) : Option (List Char × List Char) :=
  let back := s.reverse
  match back.dropWhile (· ≠ '@') with
  | [] => none
  | _ :: front => some (front.reverse, (back.takeWhile (· ≠ '@')).reverse)

/-- The host at the front of a text, and what follows it. Colons between
    brackets belong to the host. -/
def takeHost : Bool → List Char → List Char × List Char
  | _, [] => ([], [])
  | inside, c :: rest =>
    if c = ':' && !inside then ([], c :: rest)
    else
      let inside := if c = '[' then true else if c = ']' then false else inside
      let r := takeHost inside rest
      (c :: r.1, r.2)

/-- The port that a text spells, if it is not the usual one. -/
def port? (scheme : String) (s : List Char) : Option (Option Nat) :=
  match s with
  | [] => some none
  | ':' :: digits =>
    if digits.all Char.isDigit then
      let n := digits.foldl (fun n d => n * 10 + (d.toNat - 48)) 0
      if 65535 < n then none
      else if digits.isEmpty || usualPorts.lookup scheme = some (some n) then some none
      else some (some n)
    else none
  | _ => none

/-- A segment of a path that stands for the one it is in. -/
def isHere (s : List Char) : Bool :=
  let t := String.ofList (s.map Char.toLower)
  t = "." || t = "%2e"

/-- A segment of a path that stands for the one above. -/
def isAbove (s : List Char) : Bool :=
  let t := String.ofList (s.map Char.toLower)
  t = ".." || t = ".%2e" || t = "%2e." || t = "%2e%2e"

/-- The segments of a path without the ones that stand for others; the path so
    far is in reverse order. -/
def resolve (above : List (List Char)) : List (List Char) → List (List Char)
  | [] => above.reverse
  | s :: rest =>
    if isAbove s then
      resolve (if rest.isEmpty then [] :: above.drop 1 else above.drop 1) rest
    else if isHere s then resolve (if rest.isEmpty then [] :: above else above) rest
    else resolve (s :: above) rest

/-- A path, which is empty or begins with a slash. -/
def resolvedPath (special : Bool) (s : List Char) : List Char :=
  let s := if special then s.map fun c => if c = '\\' then '/' else c else s
  match s with
  | [] => if special then ['/'] else []
  | _ :: rest =>
    let segments := (rest.splitOn '/').map (Percent.encode inPath)
    (resolve [] segments).flatMap ('/' :: ·)

/-- The URL with an authority, a path and what follows it. -/
def assemble? (scheme : String) (authority s : List Char) : Option Url := do
  let special := isSpecial scheme
  let (userinfo, place) := (splitUserinfo authority).getD ([], authority)
  let (name, port) := takeHost false place
  let host ← if special then Host.read? name else Host.readForeign? name
  let port ← port? scheme port
  let secret := (userinfo.dropWhile (· ≠ ':')).drop 1
  let beforeFragment := s.takeWhile (· ≠ '#')
  let fragment := s.dropWhile (· ≠ '#')
  let query := beforeFragment.dropWhile (· ≠ '?')
  let part (special : Char → Bool) : List Char → Option (List Char)
    | [] => none
    | _ :: rest => some (Percent.encode special rest)
  some
    { scheme, host, port
      username := Percent.encode inUserinfo (userinfo.takeWhile (· ≠ ':'))
      password := if secret.isEmpty then none else some (Percent.encode inUserinfo secret)
      path := resolvedPath special (beforeFragment.takeWhile (· ≠ '?'))
      query := part (inQuery special) query
      fragment := part inFragment fragment }

/-- Two letters that name a drive. -/
def isDrive : List Char → Bool
  | [c, d] => c.isAlpha && (d = ':' || d = '|')
  | _ => false

/-- What is before the path of a URL, and the path with what follows it, when
    the text can have a host. Any number of slashes, or none, can be before a
    host of the web; two are needed elsewhere. -/
def authority? (scheme : String) (s : List Char) : Option (List Char × List Char) :=
  let special := isSpecial scheme
  let split (t : List Char) :=
    (t.takeWhile fun c => !endsAuthority special c, t.dropWhile fun c => !endsAuthority special c)
  if special && scheme ≠ "file" then some (split (s.dropWhile (isSlash true)))
  else
    match s with
    | a :: b :: rest =>
      let (place, after) := split rest
      if !(isSlash special a && isSlash special b) then none
      else if scheme = "file" then
        let name := String.ofList (place.map Char.toLower)
        if isDrive place || name = "localhost" || place.contains ':' || place.contains '@' then none
        else some (place, after)
      else some (place, after)
    | _ => none

/-- The URL that a text spells. -/
def read? (s : String) : Option Url := do
  let (scheme, rest) ← scheme? (cleaned s.toList)
  let (authority, after) ← authority? scheme rest
  assemble? scheme authority after

/-- What is before the host. -/
def writeUserinfo (u : Url) : List Char :=
  match u.password with
  | some p => u.username ++ [':'] ++ p ++ ['@']
  | none => if u.username.isEmpty then [] else u.username ++ ['@']

/-- A part with the character that begins it, if there is one. -/
def writePart (begin : Char) : Option (List Char) → List Char
  | some s => begin :: s
  | none => []

/-- The text of a URL. -/
def write (u : Url) : String :=
  String.ofList
    (u.scheme.toList ++ "://".toList ++ u.writeUserinfo ++ u.host.write
      ++ writePart ':' (u.port.map Decimal.ofNatText) ++ u.path ++ writePart '?' u.query
      ++ writePart '#' u.fragment)

end Url

end StorageGauges
