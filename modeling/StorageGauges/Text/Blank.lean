/-!
# Blank Characters

Settings, quantities and tokens are written by people and by tools that
leave blanks around the text that counts. What is blank is the Unicode
property White_Space, not the six ASCII characters of `Char.isWhitespace`:
a no-break space around a quantity is dropped, a zero-width space is not.

## Main definitions

* `isBlank`: The property White_Space.
* `trim`: A text without the blanks around it.
-/

namespace StorageGauges

namespace Text

/-- The characters with the Unicode property White_Space. -/
def isBlank (c : Char) : Bool :=
  let n := c.toNat
  (9 ≤ n && n ≤ 13) || n == 0x20 || n == 0x85 || n == 0xA0 || n == 0x1680
    || (0x2000 ≤ n && n ≤ 0x200A) || n == 0x2028 || n == 0x2029 || n == 0x202F
    || n == 0x205F || n == 0x3000

/-- The characters between the blanks at both ends. -/
def trim (s : List Char) : List Char :=
  ((s.dropWhile isBlank).reverse.dropWhile isBlank).reverse

/-- A text without the blanks at both ends. -/
def trimmed (s : String) : String :=
  String.ofList (trim s.toList)

/-- A text of blanks only, the empty text included. -/
def isAllBlank (s : String) : Bool :=
  s.toList.all isBlank

end Text

end StorageGauges
