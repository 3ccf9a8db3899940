import Playgrounds.Text.Hex
import Playgrounds.Text.Unseen

/-!
# Quoted texts

A text in quotation marks, for reports: what would not be seen, or would be mistaken for something
else, is escaped.

* `quotedChar` — a character as it stands there.
* `quoted` — a text in quotation marks.
-/

namespace Playgrounds.Text

/-- A character as it stands in a quoted text. -/
def quotedChar (c : Char) : List Char :=
  match c with
  | '"' => ['\\', '"']
  | '\\' => ['\\', '\\']
  | '\n' => ['\\', 'n']
  | '\r' => ['\\', 'r']
  | '\t' => ['\\', 't']
  | '\x00' => ['\\', '0']
  | c => if isUnseen c then '\\' :: 'u' :: '\x7b' :: Hex.digits c.toNat ++ ['\x7d'] else [c]

/-- A text in quotation marks. -/
def quoted (s : String) : String :=
  String.ofList ('"' :: s.toList.flatMap quotedChar ++ ['"'])

end Playgrounds.Text
