import OrderDesk.Catalog.Product
import OrderDesk.Json.Decode

/-!
# Products as JSON
-/

namespace OrderDesk.Product

/-- The fields of a product, in the order in which an array lists them. -/
def fields : List (List String) :=
  [["id"], ["name"], ["description"], ["price"], ["category"], ["inStock", "availability"]]

/-- A text field that is left out when there is no text. -/
def optionalMember (name : String) : Option String → List (String × Json)
  | some s => [(name, .str s)]
  | none => []

/-- A product as it is shown. -/
def toJson (p : Product) : Json :=
  .obj ([("id", .str p.id.text), ("name", .str p.name)] ++
    optionalMember "description" p.description ++ [("price", .float p.price.toFloat)] ++
    optionalMember "category" p.category ++ [("inStock", .bool p.available)])

/-- Reads a product. -/
def ofJson? (j : Json) : Option Product := do
  let [id, name, description, price, category, available] ← j.record? fields | none
  return {
    id := ← Json.required? Json.uuid? id
    name := ← Json.required? Json.str? name
    description := ← Json.withDefault? none (Json.nullable? Json.str?) description
    price := ← Json.required? Json.decimal? price
    category := ← Json.withDefault? none (Json.nullable? Json.str?) category
    available := ← Json.required? Json.bool? available }

/-- The fields of a product in the answers of a product service, which leave the identifier out. -/
def payloadFields : List (List String) :=
  [["name"], ["description"], ["price"], ["category"], ["availability", "inStock"]]

/-- Reads the answer of a product service about the product `id`. -/
def ofPayload? (id : ProductId) (j : Json) : Option Product := do
  let [name, description, price, category, available] ← j.record? payloadFields | none
  return {
    id
    name := ← Json.required? Json.str? name
    description := ← Json.withDefault? none (Json.nullable? Json.str?) description
    price := ← Json.required? Json.decimal? price
    category := ← Json.withDefault? none (Json.nullable? Json.str?) category
    available := ← Json.withDefault? false Json.bool? available }

end OrderDesk.Product
