import OrderDesk.Json.Numeral

/-!
# JSON values

The values that requests and answers are made of.  Numbers stay as they are written, objects keep
their members in order and may repeat a name.  `Json.text` writes a value on one line.
-/

namespace OrderDesk

/-- What a JSON string stands for: a text, or nothing when an escape in it is half of a surrogate
pair. -/
abbrev Json.StringValue := Option String

/-- A JSON value. -/
inductive Json where
  | null
  | bool (b : Bool)
  | number (n : Numeral)
  | string (s : Json.StringValue)
  | array (items : List Json)
  | object (members : List (Json.StringValue × Json))

namespace Json

instance : Inhabited Json := ⟨.null⟩

/-! ## Building values -/

/-- A text. -/
def str (s : String) : Json := .string (some s)

/-- A whole number. -/
def int (n : Int) : Json := .number (.ofInt n)

/-- A floating-point number; one that is infinite or undefined has no JSON form and becomes null. -/
def float (f : Float) : Json := if Binary64.isFinite f then .number (.ofFloat f) else .null

/-- An object with the given names. -/
def obj (members : List (String × Json)) : Json :=
  .object (members.map fun (name, v) => (some name, v))

/-- A text, or null. -/
def optStr (s : Option String) : Json :=
  match s with
  | some s => str s
  | none => null

/-! ## Looking inside -/

/-- The first member of an object with a name. -/
def get? (j : Json) (name : String) : Option Json :=
  match j with
  | .object members => (members.find? fun m => m.1 == some name).map (·.2)
  | _ => none

/-- The text of a string. -/
def str? : Json → Option String
  | .string s => s
  | _ => none

/-- The whole number that a number stands for. -/
def int? : Json → Option Int
  | .number n => n.toInt?
  | _ => none

/-! ## Writing -/

/-- A control character as an escape of four hexadecimal digits. -/
def controlEscape (c : Char) : List Char :=
  '\\' :: 'u' :: (Text.toDigits 16 4 c.toNat).map Text.digit

/-- A character inside a string: quotes, backslashes and control characters are escaped. -/
def escape (c : Char) : List Char :=
  if c = '"' then ['\\', '"']
  else if c = '\\' then ['\\', '\\']
  else if c = '\n' then ['\\', 'n']
  else if c = '\r' then ['\\', 'r']
  else if c = '\t' then ['\\', 't']
  else if c.toNat < 0x20 then controlEscape c
  else [c]

/-- A string in quotes; one without a text is written as a lone escape. -/
def quoted : Json.StringValue → List Char
  | some s => '"' :: s.toList.flatMap escape ++ ['"']
  | none => "\"\\ud800\"".toList

mutual

/-- A value on one line, without blanks. -/
def chars : Json → List Char
  | .null => "null".toList
  | .bool true => "true".toList
  | .bool false => "false".toList
  | .number n => n.chars
  | .string s => quoted s
  | .array items => '[' :: itemChars items
  | .object members => '\x7b' :: memberChars members

/-- The items of an array and its closing bracket. -/
def itemChars : List Json → List Char
  | [] => [']']
  | [j] => chars j ++ [']']
  | j :: rest => chars j ++ ',' :: itemChars rest

/-- The members of an object and its closing brace. -/
def memberChars : List (Json.StringValue × Json) → List Char
  | [] => ['\x7d']
  | [(name, j)] => quoted name ++ ':' :: chars j ++ ['\x7d']
  | (name, j) :: rest => quoted name ++ ':' :: chars j ++ ',' :: memberChars rest

end

/-- A value on one line, without blanks. -/
def text (j : Json) : String := String.ofList j.chars

end Json

end OrderDesk
