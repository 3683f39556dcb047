import StorageGauges.Text.Hexadecimal
import StorageGauges.Text.Printable

/-!
# Quoted Texts

How a message shows a text that came from outside: between quotation marks,
with a backslash before what would end the quotation or be read as an escape,
and with the code point in hexadecimal for what no reader could see.

## Main definitions

* `quotedChar`: A character inside the quotation marks.
* `quoted`: A text with its quotation marks.
-/

namespace StorageGauges

namespace Text

/-- A character as it stands inside quotation marks. -/
def quotedChar (c : Char) : List Char :=
  match c with
  | '"' => ['\\', '"']
  | '\\' => ['\\', '\\']
  | '\n' => ['\\', 'n']
  | '\t' => ['\\', 't']
  | '\r' => ['\\', 'r']
  | '\x00' => ['\\', '0']
  | _ =>
    if isShownAsIs c then [c]
    else ['\\', 'u', '\x7b'] ++ hexadecimal c.toNat ++ ['\x7d']

/-- A text between quotation marks. -/
def quoted (s : String) : String :=
  String.ofList (['"'] ++ s.toList.flatMap quotedChar ++ ['"'])

end Text

end StorageGauges
