import StorageGauges.Text.Base64
import StorageGauges.Text.Utf8

/-!
# Certificate Bundles

A bundle of certificates in a file: between a line that begins a certificate
and one that ends it stands the certificate in Base64. Anything outside is
ignored, and so is a bundle without any certificate. A part that does not end,
or whose text is no Base64, makes the bundle unusable, and so does a
certificate that is none.

A certificate is a sequence of three elements: what is certified, how it is
signed, and the signature.

## Main definitions

* `Certificate.isCertificate`: Some bytes are a certificate.
* `Certificate.Section`: A part of a bundle.
* `Certificate.sections?`: The parts of a bundle.
* `Certificate.isUsable`: A bundle can be used.
-/

namespace StorageGauges

namespace Certificate

/-- The number that bytes spell. -/
def number (bytes : List UInt8) : Nat :=
  bytes.foldl (fun n b => n * 256 + b.toNat) 0

/-- An element at the front of some bytes: its tag, what it holds, and the
    bytes after it. -/
def element? : List UInt8 → Option (Nat × List UInt8 × List UInt8)
  | tag :: size :: rest =>
    let cut (n : Nat) (s : List UInt8) :=
      if n ≤ s.length then some (tag.toNat, s.take n, s.drop n) else none
    if size.toNat < 128 then cut size.toNat rest
    else
      let count := size.toNat - 128
      if count = 0 || 4 < count || rest.length < count then none
      else cut (number (rest.take count)) (rest.drop count)
  | _ => none

/-- The tag of a sequence. -/
def sequenceTag : Nat := 0x30

/-- The tag of bits. -/
def bitsTag : Nat := 0x03

/-- Some bytes are a certificate. -/
def isCertificate (bytes : List UInt8) : Bool :=
  match element? bytes with
  | some (outer, body, []) =>
    match element? body with
    | some (first, _, rest) =>
      match element? rest with
      | some (second, _, rest) =>
        match element? rest with
        | some (third, _, []) =>
          outer = sequenceTag && first = sequenceTag && second = sequenceTag && third = bitsTag
        | _ => false
      | none => false
    | none => false
  | _ => false

/-- A part of a bundle: its kind and its bytes. -/
structure Section where
  kind : List Char
  bytes : List UInt8
deriving DecidableEq, Repr

/-- The five hyphens that frame a line. -/
def frame : List Char := "-----".toList

/-- A line without the blanks at its end. -/
def trimEnd (line : List Char) : List Char :=
  (line.reverse.dropWhile fun c => c = '\r' || c = ' ' || c = '\n').reverse

/-- The text behind a given beginning. -/
def behind? (beginning line : List Char) : Option (List Char) :=
  if beginning.isPrefixOf line then some (line.drop beginning.length) else none

/-- The kind of the part that a line begins: nothing when the line begins
    none, and an error when it does not end in five hyphens. -/
def begins (line : List Char) : Option (Option (List Char)) :=
  (behind? (frame ++ "BEGIN ".toList) line).map fun rest =>
    let rest := trimEnd rest
    let back := rest.reverse
    if (back.takeWhile (· = '-')).length = 5 then some (rest.take (rest.length - 5)) else none

/-- A part that is being read: its kind, and its text so far. -/
structure OpenSection where
  kind : List Char
  text : List Char

/-- What is known after some lines: the parts so far, and the one that is
    open. -/
structure Progress where
  done : List Section
  current : Option OpenSection

/-- A line of a bundle. -/
def step? (p : Progress) (line : List Char) : Option Progress :=
  match begins line with
  | some none => none
  | some (some kind) => some { p with current := some { kind, text := [] } }
  | none =>
    match p.current with
    | none => some p
    | some s =>
      if (frame ++ "END ".toList ++ s.kind ++ frame).isPrefixOf line then
        (Base64.decode? s.text).map fun bytes =>
          { done := p.done ++ [{ kind := s.kind, bytes }], current := none }
      else some { p with current := some { s with text := s.text ++ trimEnd line } }

/-- The parts of a bundle. -/
def sections? (bundle : String) : Option (List Section) :=
  match (bundle.toList.splitOn '\n').foldlM step? { done := [], current := none } with
  | some { done, current := none } => some done
  | _ => none

/-- A bundle can be used. -/
def isUsable (bundle : String) : Bool :=
  match sections? bundle with
  | some parts =>
    (parts.filter fun s => s.kind = "CERTIFICATE".toList).all fun s => isCertificate s.bytes
  | none => false

end Certificate

end StorageGauges
