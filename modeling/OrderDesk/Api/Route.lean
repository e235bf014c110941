import OrderDesk.Api.Request

/-!
# Routes

What can be reached, and with which methods.  A route is found by the path alone
(`Route.ofPath?`) and has a pattern by which requests are counted (`Route.pattern`); together with a
method it makes an endpoint (`Route.endpoint?`).

Identifiers in a path are segments that are not empty.  They are kept as they are written, with all
escapes replaced, and read later.
-/

namespace OrderDesk

/-- What a path leads to. -/
inductive Route where
  | health
  | orders
  | order (id : String)
  | submission (order : String)
  | users
  | user (id : String)
  | points (user : String)
  | products
  | product (id : String)
deriving DecidableEq

/-- What a path and a method lead to. -/
inductive Endpoint where
  | health
  | listOrders
  | createOrder
  | showOrder (id : String)
  | reviseOrder (id : String)
  | submitOrder (id : String)
  | createUser
  | showUser (id : String)
  | deleteUser (id : String)
  | showPoints (user : String)
  | redeemPoints (user : String)
  | listProducts
  | showProduct (id : String)
deriving DecidableEq

namespace Route

/-- The identifier in a segment. -/
def identifier? (segment : List Char) : Option String :=
  if segment.isEmpty then none else some (String.ofList (Percent.decode segment))

/-- The route with the given name and segments behind it. -/
def ofSegments? : (name : String) → (rest : List (List Char)) → Option Route
  | "health", [] => some .health
  | "orders", [] => some .orders
  | "orders", [id] => (identifier? id).map .order
  | "orders", [id, last] =>
    if last = "submit".toList then (identifier? id).map .submission else none
  | "user", [] => some .users
  | "user", [id] => (identifier? id).map .user
  | "user", [id, last] => if last = "points".toList then (identifier? id).map .points else none
  | "products", [] => some .products
  | "products", [id] => (identifier? id).map .product
  | _, _ => none

/-- The route of a path. -/
def ofPath? (path : List Char) : Option Route :=
  match path.splitOn '/' with
  | [] :: name :: rest => ofSegments? (String.ofList name) rest
  | _ => none

/-- The pattern of a route. -/
def pattern : Route → String
  | .health => "/health"
  | .orders => "/orders"
  | .order _ => "/orders/\x7border_id\x7d"
  | .submission _ => "/orders/\x7border_id\x7d/submit"
  | .users => "/user"
  | .user _ => "/user/\x7buser_id\x7d"
  | .points _ => "/user/\x7buser_id\x7d/points"
  | .products => "/products"
  | .product _ => "/products/\x7bproduct_id\x7d"

/-- The name under which requests that no route fits are counted. -/
def unmatched : String := "unmatched"

/-- The endpoint of a route for a method. -/
def endpoint? (method : String) : Route → Option Endpoint
  | .health => if method = "GET" then some .health else none
  | .orders =>
    if method = "GET" then some .listOrders
    else if method = "POST" then some .createOrder
    else none
  | .order id =>
    if method = "GET" then some (.showOrder id)
    else if method = "PATCH" then some (.reviseOrder id)
    else none
  | .submission id => if method = "POST" then some (.submitOrder id) else none
  | .users => if method = "POST" then some .createUser else none
  | .user id =>
    if method = "GET" then some (.showUser id)
    else if method = "DELETE" then some (.deleteUser id)
    else none
  | .points id =>
    if method = "GET" then some (.showPoints id)
    else if method = "POST" then some (.redeemPoints id)
    else none
  | .products => if method = "GET" then some .listProducts else none
  | .product id => if method = "GET" then some (.showProduct id) else none

/-- The status of the answer to a method that a route does not have.  Routes with several methods
say that the method is wrong, routes with one method say that there is nothing. -/
def wrongMethodStatus : Route → Nat
  | .orders => 405
  | .order _ => 405
  | .user _ => 405
  | .points _ => 405
  | _ => 404

end Route

/-- The route of a request. -/
def ApiRequest.route? (r : ApiRequest) : Option Route := Route.ofPath? r.path

/-- The pattern under which a request is counted.  It is assumed that whoever looks up the pattern
for the counts compares the same path with the routes as the router does, the one in which escapes
are replaced. -/
def ApiRequest.pattern (r : ApiRequest) : String :=
  match r.route? with
  | some route => route.pattern
  | none => Route.unmatched

end OrderDesk
