import OrderDesk.Decimal.Float
import OrderDesk.Json.Basic
import OrderDesk.Number.Bounded
import OrderDesk.Uuid.Spelling

/-!
# Decoding JSON values

A record travels as an object or as an array of its fields in order (`Json.record?`).  In an object
unknown names are passed over and a known name may stand there once only, under any of its
spellings; an array may stop early but not hold more than the fields.  What a missing field means is
then decided field by field (`required?`, `withDefault?`).

Numbers are exact: whole numbers are written without point and exponent (`bounded?`), and a decimal
is the exact whole number or the shortest text of the floating-point number (`decimal?`).
-/

namespace OrderDesk.Json

/-! ## Records -/

/-- Puts the value of a known name into its slot, which has to be free. -/
def fill? (fields : List (List String)) (slots : List (Option Json)) (m : Json.StringValue × Json) :
    Option (List (Option Json)) :=
  match m.1 with
  | none => none
  | some name =>
    match fields.findIdx? (·.contains name) with
    | none => some slots
    | some i =>
      match slots[i]? with
      | some none => some (slots.set i (some m.2))
      | _ => none

/-- The values of the fields of a record, each field with its spellings. -/
def record? (fields : List (List String)) : Json → Option (List (Option Json))
  | .object members => members.foldlM (fill? fields) (fields.map fun _ => none)
  | .array items =>
    if items.length ≤ fields.length then
      some (items.map some ++ List.replicate (fields.length - items.length) none)
    else none
  | _ => none

/-- A field that has to be there. -/
def required? {α : Type} (decode : Json → Option α) (slot : Option Json) : Option α :=
  slot.bind decode

/-- A field that may be missing. -/
def withDefault? {α : Type} (default : α) (decode : Json → Option α) : Option Json → Option α
  | none => some default
  | some j => decode j

/-! ## Values -/

/-- A value, or null. -/
def nullable? {α : Type} (decode : Json → Option α) : Json → Option (Option α)
  | .null => some none
  | j => (decode j).map some

/-- An array of values. -/
def list? {α : Type} (decode : Json → Option α) : Json → Option (List α)
  | .array items => items.mapM decode
  | _ => none

/-- A truth value. -/
def bool? : Json → Option Bool
  | .bool b => some b
  | _ => none

/-- A whole number in a range. -/
def bounded? {lo hi : Int} (j : Json) : Option (Bounded lo hi) := j.int?.bind Bounded.ofInt?

/-- An identifier in any of its spellings. -/
def uuid? (j : Json) : Option Uuid := j.str?.bind Uuid.ofAnySpelling?

/-- A decimal: a number, or its text. -/
def decimal? : Json → Option Decimal
  | .number n =>
    match n.value? with
    | some (.whole i) => Decimal.ofInt? i
    | some (.floating f) => Decimal.ofFloat? f
    | none => none
  | .string s => s.bind Decimal.ofText?
  | _ => none

end OrderDesk.Json
