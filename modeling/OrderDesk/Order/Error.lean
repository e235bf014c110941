import OrderDesk.Failure
import OrderDesk.Number.Bounded
import OrderDesk.Uuid.Kind

/-!
# What can go wrong with orders
-/

namespace OrderDesk

/-- Where an order stands. -/
inductive OrderStatus where
  | pending
  | processing
  | shipped
  | delivered
  | cancelled
deriving DecidableEq

namespace OrderStatus

/-- The name of the status. -/
def label : OrderStatus → String
  | .pending => "PENDING"
  | .processing => "PROCESSING"
  | .shipped => "SHIPPED"
  | .delivered => "DELIVERED"
  | .cancelled => "CANCELLED"

/-- The status with a name; cancelled orders have an older spelling as well. -/
def ofLabel? (text : String) : Option OrderStatus :=
  if text = "PENDING" then some .pending
  else if text = "PROCESSING" then some .processing
  else if text = "SHIPPED" then some .shipped
  else if text = "DELIVERED" then some .delivered
  else if text = "CANCELLED" ∨ text = "CANCELED" then some .cancelled
  else none

@[simp] theorem ofLabel?_label (s : OrderStatus) : ofLabel? s.label = some s := by
  cases s <;> decide

end OrderStatus

/-- A failure of an operation on orders. -/
inductive OrderError where
  | emptyItems
  | malformedId (kind : IdKind) (text : String)
  | invalidQuantity (product : ProductId) (quantity : Signed64)
  | notFound (id : OrderId)
  | ownerNotFound (id : UserId)
  | notPending (id : OrderId) (status : OrderStatus)
  | invalidProducts (ids : List ProductId)
  | notPurchasable (ids : List ProductId)
  | catalogUnavailable (reason : String)
  | invalidAction (text : String)
deriving DecidableEq

namespace OrderError

/-- Identifiers in a row. -/
def idList (ids : List Uuid) : String := String.intercalate ", " (ids.map Uuid.text)

/-- The kind of a failure. -/
def kind : OrderError → FailureKind
  | .emptyItems | .malformedId _ _ | .invalidQuantity _ _ | .invalidAction _ => .validation
  | .notFound _ | .ownerNotFound _ | .invalidProducts _ => .notFound
  | .notPending _ _ | .notPurchasable _ => .conflict
  | .catalogUnavailable _ => .dependencyUnavailable

/-- The code of a failure. -/
def code : OrderError → String
  | .emptyItems => "EMPTY_PRODUCTS"
  | .malformedId kind _ => kind.invalidCode
  | .invalidQuantity _ _ => "INVALID_QUANTITY"
  | .notFound _ => "ORDER_NOT_FOUND"
  | .ownerNotFound _ => "USER_NOT_FOUND"
  | .notPending _ _ => "ORDER_NOT_PENDING"
  | .invalidProducts _ => "INVALID_PRODUCTS"
  | .notPurchasable _ => "PRODUCTS_NOT_PURCHASABLE"
  | .catalogUnavailable _ => "SERVICE_UNAVAILABLE"
  | .invalidAction _ => "INVALID_ACTION"

/-- The wording of a failure. -/
def message : OrderError → String
  | .emptyItems => "Order must contain at least one product"
  | .malformedId kind text => kind.invalidMessage text
  | .invalidQuantity product quantity =>
    "Invalid quantity " ++ quantity.text ++ " for product " ++ product.text
  | .notFound id => "Order " ++ id.text ++ " not found"
  | .ownerNotFound id => "User " ++ id.text ++ " not found"
  | .notPending id status =>
    "Order " ++ id.text ++ " is not pending (status: " ++ status.label ++ ")"
  | .invalidProducts ids => "Invalid products: " ++ idList ids
  | .notPurchasable ids => "Products not available for purchase: " ++ idList ids
  | .catalogUnavailable reason => "Product service unavailable: " ++ reason
  | .invalidAction text => "Invalid action '" ++ text ++ "'. Must be CANCEL or SUBMIT"

instance : Failure OrderError := ⟨kind, code, message⟩

end OrderError

/-- The order identifier that a request names. -/
def OrderId.parse (text : String) : Except OrderError OrderId :=
  match Uuid.parse? text with
  | some id => .ok id
  | none => .error (.malformedId .order text)

end OrderDesk
