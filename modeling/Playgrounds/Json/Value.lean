import Playgrounds.Json.Node
import Playgrounds.Text.Decimal
import Playgrounds.Text.Hex

/-!
# Writing JSON

`Value` is a JSON value as the service writes it. Its text is compact: no blanks stand between its
parts. In a string only the quotation mark, the backslash and the characters below U+0020 are
escaped.

* `quoted` — a string between quotation marks.
* `Value.writing` — the text of a value.
* `Value.node` — the value as a reader of its text finds it.
-/

namespace Playgrounds.Json

/-- A JSON value to be written. -/
inductive Value where
  | null
  | flag (b : Bool)
  | word (n : UInt64)
  | text (s : String)
  | array (items : List Value)
  | object (members : List (String × Value))

/-- A character as it stands in a string. -/
def escaped (c : Char) : List Char :=
  match c with
  | '"' => ['\\', '"']
  | '\\' => ['\\', '\\']
  | '\n' => ['\\', 'n']
  | '\r' => ['\\', 'r']
  | '\t' => ['\\', 't']
  | '\x08' => ['\\', 'b']
  | '\x0c' => ['\\', 'f']
  | c => if c.toNat < 0x20 then '\\' :: 'u' :: '0' :: '0' :: Hex.ofByte c.toNat.toUInt8 else [c]

/-- The characters of a string in quotation marks. -/
def quoted (s : String) : List Char :=
  '"' :: s.toList.flatMap escaped ++ ['"']

namespace Value

mutual

/-- The characters of a value. -/
def chars : Value → List Char
  | null => "null".toList
  | flag true => "true".toList
  | flag false => "false".toList
  | word n => Decimal.digits n.toNat
  | .text s => quoted s
  | array items => '[' :: itemChars items
  | object members => '\x7b' :: memberChars members

/-- The items of an array and its closing bracket. -/
def itemChars : List Value → List Char
  | [] => [']']
  | [v] => v.chars ++ [']']
  | v :: w :: rest => v.chars ++ ',' :: itemChars (w :: rest)

/-- The members of an object and its closing brace. -/
def memberChars : List (String × Value) → List Char
  | [] => ['\x7d']
  | [(k, v)] => quoted k ++ ':' :: (v.chars ++ ['\x7d'])
  | (k, v) :: m :: rest => quoted k ++ ':' :: (v.chars ++ ',' :: memberChars (m :: rest))

end

/-- The text of a value. -/
def writing (v : Value) : String :=
  String.ofList v.chars

mutual

/-- The value as a reader of its text finds it. -/
def node : Value → Node
  | null => .null
  | flag b => .flag b
  | word n => .number (.word n)
  | .text s => .text s
  | array items => .array (itemNodes items) true
  | object members => .object (memberNodes members) true

/-- The items of an array as a reader finds them. -/
def itemNodes : List Value → List Node
  | [] => []
  | v :: rest => v.node :: itemNodes rest

/-- The members of an object as a reader finds them. -/
def memberNodes : List (String × Value) → List (Node × Node)
  | [] => []
  | (k, v) :: rest => (.text k, v.node) :: memberNodes rest

end

end Value

end Playgrounds.Json
