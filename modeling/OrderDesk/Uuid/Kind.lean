import OrderDesk.Uuid.Basic

/-!
# What an identifier stands for

A text that is no identifier is reported together with what it was meant to name.
-/

namespace OrderDesk

/-- What an identifier was meant to name. -/
inductive IdKind where
  | order
  | user
  | product
deriving DecidableEq

namespace IdKind

/-- The name of the kind. -/
def label : IdKind → String
  | .order => "order"
  | .user => "user"
  | .product => "product"

/-- The code of the failure to read such an identifier. -/
def invalidCode : IdKind → String
  | .order => "INVALID_ORDER_ID"
  | .user => "INVALID_USER_ID"
  | .product => "INVALID_PRODUCT_ID"

/-- The wording of the failure to read such an identifier. -/
def invalidMessage (k : IdKind) (text : String) : String :=
  "Invalid " ++ k.label ++ " ID format: '" ++ text ++ "'"

end IdKind

/-- Orders, users and products are named by identifiers. -/
abbrev OrderId := Uuid

/-- Orders, users and products are named by identifiers. -/
abbrev UserId := Uuid

/-- Orders, users and products are named by identifiers. -/
abbrev ProductId := Uuid

end OrderDesk
