import OrderDesk.Json.Token

/-!
# Reading JSON values

The tokens of a text are read one after the other with the open arrays and objects on a stack, so
values may nest to any depth.  `Json.ofTokens?` is the value that a row of tokens writes, and
`Json.parse?` the value of a text; nothing but blanks may follow it.
-/

namespace OrderDesk.Json

/-- An array or object that is not closed yet, with what it holds so far, last item first. -/
inductive Frame where
  | array (items : List Json)
  | object (members : List (Json.StringValue × Json)) (name : Json.StringValue)

/-- What may come next. -/
inductive Expect where
  /-- A value. -/
  | value
  /-- A value, or the end of the array just opened. -/
  | valueOrEnd
  /-- The name of a member; `first` allows the end of the object just opened. -/
  | name (members : List (Json.StringValue × Json)) (first : Bool)
  /-- The colon after a name. -/
  | colon (members : List (Json.StringValue × Json)) (name : Json.StringValue)
  /-- A comma, or the end of the innermost array or object. -/
  | separator
  /-- Nothing: the value is complete. -/
  | nothing (j : Json)

/-- What has been read. -/
structure Progress where
  frames : List Frame
  expect : Expect

/-- The start of a text. -/
def Progress.start : Progress := ⟨[], .value⟩

/-- A value is complete: it goes into the innermost array or object. -/
def Progress.complete (frames : List Frame) (j : Json) : Progress :=
  match frames with
  | [] => ⟨[], .nothing j⟩
  | .array items :: rest => ⟨.array (j :: items) :: rest, .separator⟩
  | .object members name :: rest => ⟨.object ((name, j) :: members) name :: rest, .separator⟩

/-- A token where a value may start. -/
def Progress.value? (frames : List Frame) : Token → Option Progress
  | .null => some (.complete frames .null)
  | .bool b => some (.complete frames (.bool b))
  | .number n => some (.complete frames (.number n))
  | .string s => some (.complete frames (.string s))
  | .beginArray => some ⟨.array [] :: frames, .valueOrEnd⟩
  | .beginObject => some ⟨frames, .name [] true⟩
  | _ => none

/-- One token more. -/
def Progress.feed? (p : Progress) (t : Token) : Option Progress :=
  match p.expect, t, p.frames with
  | .value, t, frames => value? frames t
  | .valueOrEnd, .endArray, .array _ :: rest => some (.complete rest (.array []))
  | .valueOrEnd, t, frames => value? frames t
  | .name members _, .string s, frames => some ⟨frames, .colon members s⟩
  | .name _ true, .endObject, frames => some (.complete frames (.object []))
  | .colon members name, .colon, frames => some ⟨.object members name :: frames, .value⟩
  | .separator, .comma, .array items :: rest => some ⟨.array items :: rest, .value⟩
  | .separator, .endArray, .array items :: rest => some (.complete rest (.array items.reverse))
  | .separator, .comma, .object members _ :: rest => some ⟨rest, .name members false⟩
  | .separator, .endObject, .object members _ :: rest =>
    some (.complete rest (.object members.reverse))
  | _, _, _ => none

/-- Reads tokens to the end. -/
def readTokens? (p : Progress) : List Token → Option Json
  | [] =>
    match p.expect with
    | .nothing j => some j
    | _ => none
  | t :: rest =>
    match p.feed? t with
    | some p => readTokens? p rest
    | none => none

/-- The value that a row of tokens writes. -/
def ofTokens? (ts : List Token) : Option Json := readTokens? .start ts

/-- The value of a text. -/
def parse? (s : String) : Option Json := (Token.scan? s.toList).bind ofTokens?

end OrderDesk.Json
