import OrderDesk.Api.Bearer
import OrderDesk.Api.Body
import OrderDesk.Api.Response
import OrderDesk.Api.Route
import OrderDesk.Order.Wire
import OrderDesk.User.Wire

/-!
# Calls

A call is what a request asks for, with everything in it read.  Reading a request looks at the
request alone and never at the state of the service.  It checks, in this order, that the path leads
somewhere, that the method fits, that the request says who it comes from, that the body or the query
can be read, and that identifiers and actions are well formed; the first of these that fails is
answered (`ApiCall.ofRequest`).  Only the health of the service is told to everyone.
-/

namespace OrderDesk

/-- What a request asks for. -/
inductive ApiCall where
  | health
  | listOrders (owner : Option UserId)
  | createOrder (caller : Bearer) (r : OrderRequest)
  | showOrder (id : OrderId)
  | reviseOrder (caller : Bearer) (id : OrderId) (lines : List LineInput)
  | actOnOrder (id : OrderId) (action : OrderAction)
  | createUser (r : Registration)
  | showUser (id : UserId)
  | deleteUser (id : UserId)
  | showPoints (id : UserId)
  | redeemPoints (id : UserId) (points : Signed64)
  | listProducts (limit : Nat)
  | showProduct (id : ProductId)

/-! ## Parts of a request -/

/-- The answer to a query that gives a field twice. -/
def repeatedField (name : String) : ApiResponse :=
  let quote := String.singleton (Char.ofNat 96)
  ⟨400, .text "text/plain; charset=utf-8"
    ("Query deserialize error: duplicate field " ++ quote ++ name ++ quote)⟩

namespace ApiRequest

/-- Who the request comes from. -/
def bearer (r : ApiRequest) : Except ApiResponse Bearer :=
  (Bearer.parse (r.headerText? "authorization")).mapError .ofError

/-- A field of the query, which may be given once. -/
def field? (r : ApiRequest) (name : String) : Except ApiResponse (Option String) :=
  match r.fields.filter (·.1 == name) with
  | [] => .ok none
  | [(_, value)] => .ok (some value)
  | _ => .error (repeatedField name)

/-- The body of a request. -/
def content {α : Type} (decode : Json → Option α) (r : ApiRequest) : Except ApiResponse α :=
  (r.read decode).mapError fun e => .ofError e.toApiError

end ApiRequest

/-- A result whose failure is answered. -/
def orAnswer {ε α : Type} [Failure ε] (result : Except ε α) : Except ApiResponse α :=
  result.mapError .ofFailure

/-- The number of products to list: twenty unless the caller asks for another number up to a
hundred. -/
def listLimit (text : Option String) : Except ApiError Nat :=
  match text.filter (· ≠ "") with
  | none => .ok 20
  | some text =>
    match Text.readNatSigned? text.toList with
    | some n => if 1 ≤ n ∧ n ≤ 100 then .ok n else .error invalid
    | none => .error invalid
where
  invalid := .badRequest "INVALID_LIMIT" "Limit must be between 1 and 100"

/-! ## Whole requests -/

namespace Endpoint

/-- Reads what a request of a known caller asks an endpoint for. -/
def call (caller : Bearer) (r : ApiRequest) : Endpoint → Except ApiResponse ApiCall
  | .health => .ok .health
  | .listOrders => do
    let owner ← r.field? "userId"
    return .listOrders (← orAnswer (UserId.parseOwner owner))
  | .createOrder => do return .createOrder caller (← r.content OrderRequest.ofJson?)
  | .showOrder id => do return .showOrder (← orAnswer (OrderId.parse id))
  | .reviseOrder id => do
    let lines ← r.content revisionOfJson?
    return .reviseOrder caller (← orAnswer (OrderId.parse id)) lines
  | .submitOrder id => do
    let action ← r.content actionOfJson?
    let id ← orAnswer (OrderId.parse id)
    return .actOnOrder id (← orAnswer (OrderAction.parse action))
  | .createUser => do return .createUser (← r.content Registration.ofJson?)
  | .showUser id => do return .showUser (← orAnswer (UserId.parse id))
  | .deleteUser id => do return .deleteUser (← orAnswer (UserId.parse id))
  | .showPoints id => do return .showPoints (← orAnswer (UserId.parse id))
  | .redeemPoints id => do
    let points ← r.content redemptionOfJson?
    return .redeemPoints (← orAnswer (UserId.parse id)) points
  | .listProducts => do
    let limit ← r.field? "limit"
    return .listProducts (← (listLimit limit).mapError .ofError)
  | .showProduct id => do return .showProduct (← orAnswer (ProductId.parse id))

end Endpoint

namespace ApiCall

/-- Reads what a request asks for. -/
def ofRequest (r : ApiRequest) : Except ApiResponse ApiCall :=
  match r.route? with
  | none => .error (.empty 404)
  | some route =>
    match route.endpoint? r.method with
    | none => .error (.empty route.wrongMethodStatus)
    | some .health => .ok .health
    | some endpoint => do
      let caller ← r.bearer
      endpoint.call caller r

end ApiCall

end OrderDesk
