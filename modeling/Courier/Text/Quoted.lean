import Courier.Text.Hex
import Courier.Text.Visible

/-!
# Quoted texts

Messages and displayed literals show a text between double quotes.  Quotes, backslashes and the
usual controls have short escapes; every other hidden character is written as its code point in
braces, so that a quoted text holds visible characters and spaces only.
-/

namespace Courier.Text

/-- One character inside a quoted text. -/
def quotedChar (c : Char) : List Char :=
  match c with
  | '"' => ['\\', '"']
  | '\\' => ['\\', '\\']
  | '\n' => ['\\', 'n']
  | '\r' => ['\\', 'r']
  | '\t' => ['\\', 't']
  | '\x00' => ['\\', '0']
  | c => if isVisible c then [c] else ['\\', 'u', '\x7b'] ++ hexDigits c.toNat ++ ['\x7d']

/-- The text between double quotes, with every hidden character escaped. -/
def quoted (text : String) : String :=
  .ofList ('"' :: text.toList.flatMap quotedChar ++ ['"'])

end Courier.Text
