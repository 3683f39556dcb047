import StorageGauges.Text.Percent
import StorageGauges.Text.Punycode
import StorageGauges.Url.Address

/-!
# Hosts

The host of a URL. Under the schemes of the web it is a name or an address;
names are lower case, and letters outside ASCII are written in Punycode.
Under any other scheme a host is a text whose control characters are encoded.

Of the characters outside ASCII, letters of the Latin, Greek and Cyrillic
alphabets are brought to lower case, wide forms to ASCII, and soft hyphens
dropped; all others are taken as they are.

## Main definitions

* `Host`: A host.
* `Host.read?`: The host that a text of the web spells.
* `Host.readForeign?`: The host that a text of another scheme spells.
* `Host.write`: A host in a URL.
-/

namespace StorageGauges

namespace Url

/-- A host. -/
inductive Host
  | name (s : List Char)
  | address4 (a : Nat)
  | address6 (pieces : List Nat)
deriving DecidableEq, Repr

namespace Host

/-- A character that no name can have. -/
def isForbidden (c : Char) : Bool :=
  c.toNat ≤ 0x20 || c.toNat = 0x7F || "#%/:<>?@[\\]^|".toList.contains c

/-- A character in lower case. -/
def lowerChar (c : Char) : Char :=
  let n := c.toNat
  if (0xC0 ≤ n ∧ n ≤ 0xDE ∧ n ≠ 0xD7) ∨ (0x391 ≤ n ∧ n ≤ 0x3AB) ∨ (0x410 ≤ n ∧ n ≤ 0x42F) then
    Char.ofNat (n + 32)
  else if 0x400 ≤ n ∧ n ≤ 0x40F then Char.ofNat (n + 80)
  else if ((0x100 ≤ n ∧ n ≤ 0x12F) ∨ (0x132 ≤ n ∧ n ≤ 0x137) ∨ (0x14A ≤ n ∧ n ≤ 0x177)) ∧
      n % 2 = 0 then Char.ofNat (n + 1)
  else if ((0x139 ≤ n ∧ n ≤ 0x148) ∨ (0x179 ≤ n ∧ n ≤ 0x17E)) ∧ n % 2 = 1 then Char.ofNat (n + 1)
  else c.toLower

/-- A character as names have it; some are dropped. -/
def mappedChar (c : Char) : List Char :=
  let n := c.toNat
  if n = 0xAD ∨ n = 0x200B ∨ n = 0x2060 ∨ n = 0xFEFF then []
  else if 0xFF01 ≤ n ∧ n ≤ 0xFF5E then [(Char.ofNat (n - 0xFEE0)).toLower]
  else if n = 0x3002 ∨ n = 0xFF0E ∨ n = 0xFF61 then ['.']
  else [lowerChar c]

/-- A label of a name, in ASCII. -/
def label (s : List Char) : List Char :=
  if s.all fun c => c.toNat < 0x80 then s else "xn--".toList ++ Punycode.encode s

/-- A name in ASCII. -/
def ascii (s : List Char) : List Char :=
  List.intercalate ['.'] (((s.flatMap mappedChar).splitOn '.').map label)

/-- The address in brackets that a text spells. -/
def bracketed? (s : List Char) : Option Host :=
  if s.getLast? = some ']' then (Address6.read? s.dropLast).map .address6 else none

/-- The host that a text of the web spells. -/
def read? : List Char → Option Host
  | '[' :: rest => bracketed? rest
  | s =>
    let decoded := Utf8.decodeLossyChars (Percent.decode (Utf8.encodeChars s))
    let name := ascii decoded
    if name.isEmpty || name.any isForbidden then none
    else if Address4.isNumeric name then (Address4.read? name).map .address4
    else some (.name name)

/-- The host that a text of another scheme spells. -/
def readForeign? : List Char → Option Host
  | '[' :: rest => bracketed? rest
  | s =>
    if s.isEmpty || s.any fun c => c ≠ '%' && (c.toNat = 0 || c = ' ' || c = '\t' || c = '\n'
        || c = '\r' || "#/:<>?@[\\]^|".toList.contains c) then none
    else some (.name (Percent.encode (fun c => c.toNat < 0x20 || c.toNat = 0x7F) s))

/-- A host in a URL. -/
def write : Host → List Char
  | name s => s
  | address4 a => Address4.write a
  | address6 ps => ['['] ++ Address6.write ps ++ [']']

end Host

end Url

end StorageGauges
