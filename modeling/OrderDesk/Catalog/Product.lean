import OrderDesk.Decimal.Basic
import OrderDesk.Failure
import OrderDesk.Uuid.Kind

/-!
# Products

The desk sells products that a catalog knows.  Every question about a product is answered in one of
three ways: with the product, that there is none, or that the catalog cannot be asked
(`Answer`).  A product can be known and still not be for sale (`Answer.forSale`).
-/

namespace OrderDesk

/-- A product. -/
structure Product where
  id : ProductId
  name : String
  description : Option String
  price : Decimal
  category : Option String
  /-- Is it for sale? -/
  available : Bool
deriving DecidableEq

/-- A failure of a question to the catalog. -/
inductive CatalogError where
  | notFound (id : ProductId)
  | notPurchasable (id : ProductId) (name : String)
  | unavailable (reason : String)
deriving DecidableEq

namespace CatalogError

/-- The kind of a failure. -/
def kind : CatalogError → FailureKind
  | .notFound _ => .notFound
  | .notPurchasable _ _ => .conflict
  | .unavailable _ => .dependencyUnavailable

/-- The code of a failure. -/
def code : CatalogError → String
  | .notFound _ => "PRODUCT_NOT_FOUND"
  | .notPurchasable _ _ => "PRODUCT_NOT_PURCHASABLE"
  | .unavailable _ => "SERVICE_UNAVAILABLE"

/-- The wording of a failure. -/
def message : CatalogError → String
  | .notFound id => "Product " ++ id.text ++ " not found"
  | .notPurchasable id name =>
    "Product " ++ id.text ++ " (" ++ name ++ ") is not available for purchase"
  | .unavailable reason => "Product service unavailable: " ++ reason

instance : Failure CatalogError := ⟨kind, code, message⟩

end CatalogError

/-- What the catalog says about a product. -/
abbrev Answer := Except CatalogError Product

namespace Answer

/-- The answer about the product `id`, refused when the product is not for sale. -/
def forSale (id : ProductId) : Answer → Answer
  | .ok p => if p.available then .ok p else .error (.notPurchasable id p.name)
  | .error e => .error e

/-- No answer came in time. -/
def timedOut : Answer := .error (.unavailable "request timed out")

end Answer

end OrderDesk
