import OrderDesk.Api.Call
import OrderDesk.Catalog.Assortment
import OrderDesk.Catalog.Wire
import OrderDesk.Demo
import OrderDesk.Health
import OrderDesk.Metrics.Exposition
import OrderDesk.Service.Flow

/-!
# The order desk

The desk is everything that requests are answered from: the service, a catalog of any kind, the
products that are shown to callers, and the metrics.  A request is read first and carried out only
if nothing in it is wrong (`Desk.answer`); a desk that is open to the public also counts the request
(`Desk.serve`).  The metrics are shown by a desk of their own (`Metrics.answer`).
-/

namespace OrderDesk

/-- How a catalog of the kind `κ` is asked.  Asking may change the catalog and what is
counted about it. -/
structure Supplier (κ : Type) where
  /-- Asks about products at once, with the authorization of the caller. -/
  ask : Option String → κ × CatalogMetrics → List ProductId → (κ × CatalogMetrics) × List Answer
  health : κ → Timestamp → ComponentHealth

/-- Everything that requests are answered from. -/
structure Desk (κ : Type) where
  service : Service
  catalog : κ
  /-- The products that callers are shown, whichever catalog orders are priced with. -/
  products : Assortment
  metrics : Metrics

/-! ## What is shown -/

/-- A list of orders. -/
def ordersJson (orders : List Order) : Json :=
  .obj [("orders", .array (orders.map Order.toJson)), ("total", .int orders.length)]

/-- A user with their orders. -/
def UserOverview.toJson (u : UserOverview) : Json :=
  .obj [("user", u.user.toJson), ("orders", .array (u.orders.map Order.toJson))]

/-- A list of products. -/
def Assortment.listing (c : Assortment) (limit : Nat) : Json :=
  .obj [("products", .array ((c.list limit).map Product.toJson)), ("total", .int c.size),
    ("limit", .int limit)]

/-- The health of the service, which is that of its components.  It is a failure of the service only
if a component is unhealthy. -/
def healthResponse (component : ComponentHealth) (now : Timestamp) : ApiResponse :=
  let overall := HealthStatus.healthy.worst component.status
  let report := Json.obj [("status", .str overall.label), ("timestamp", .str now.text),
    ("components", .array [component.toJson])]
  match overall with
  | .unhealthy _ => .json 503 report
  | _ => .ok report

namespace Desk

variable {κ : Type}

/-- A desk that has just opened, with the demo data if they are wanted. -/
def start (catalog : κ) (products : Assortment) (seed : Bool) (now : Timestamp) :
    Except UserError (Desk κ) := do
  let service ← if seed then Demo.load now .empty else .ok .empty
  return ⟨service, catalog, products, .empty⟩

/-! ## Carrying out calls -/

/-- What may change when the catalog is asked. -/
def asking (d : Desk κ) : κ × CatalogMetrics := (d.catalog, d.metrics.catalog)

/-- The desk after its catalog was asked and its service has changed. -/
def afterAsking (d : Desk κ) (asked : κ × CatalogMetrics) (service : Service) : Desk κ :=
  { d with catalog := asked.1, service, metrics := { d.metrics with catalog := asked.2 } }

/-- Creates an order, and counts it. -/
def createOrder (supplier : Supplier κ) (fresh : Uuid) (now : Timestamp) (d : Desk κ)
    (caller : Bearer) (r : OrderRequest) : Desk κ × ApiResponse :=
  let (asked, service, result) :=
    d.service.createOrder (supplier.ask (some caller.header)) fresh now d.asking r
  match result with
  | .ok o =>
    let d := d.afterAsking asked service
    ({ d with metrics := d.metrics.recordOrder }, .created o.toJson)
  | .error e => (d.afterAsking asked service, .ofFailure e)

/-- Changes the lines of an order. -/
def reviseOrder (supplier : Supplier κ) (now : Timestamp) (d : Desk κ) (caller : Bearer)
    (id : OrderId) (lines : List LineInput) : Desk κ × ApiResponse :=
  let (asked, service, result) :=
    d.service.reviseOrder (supplier.ask (some caller.header)) now d.asking id lines
  (d.afterAsking asked service, .ofResult (fun o => .ok o.toJson) result)

/-- Changes the status of an order, and counts the change. -/
def actOnOrder (now : Timestamp) (d : Desk κ) (id : OrderId) (action : OrderAction) :
    Desk κ × ApiResponse :=
  match d.service.act id action now with
  | (service, .ok o) =>
    ({ d with service, metrics := d.metrics.recordTransition o.status.label }, .ok o.toJson)
  | (service, .error e) => ({ d with service }, .ofFailure e)

/-- Removes a user, and counts the orders that are cancelled with them. -/
def deleteUser (d : Desk κ) (id : UserId) : Desk κ × ApiResponse :=
  match d.service.deleteUser id with
  | (service, .ok cancelled) =>
    let metrics := cancelled.foldl (fun m _ => m.recordTransition OrderStatus.cancelled.label)
      d.metrics
    ({ d with service, metrics }, .empty 204)
  | (service, .error e) => ({ d with service }, .ofFailure e)

/-- Carries out a call.  An order or a user that is created gets the identifier `fresh`. -/
def carryOut (supplier : Supplier κ) (fresh : Uuid) (now : Timestamp) (d : Desk κ) :
    ApiCall → Desk κ × ApiResponse
  | .health => (d, healthResponse (supplier.health d.catalog now) now)
  | .listOrders none => (d, .ok (ordersJson d.service.orders.list))
  | .listOrders (some owner) =>
    (d, .ofResult (fun orders => .ok (ordersJson orders)) (d.service.ordersOf owner))
  | .createOrder caller r => d.createOrder supplier fresh now caller r
  | .showOrder id => (d, .ofResult (fun o => .ok o.toJson) (d.service.order id))
  | .reviseOrder caller id lines => d.reviseOrder supplier now caller id lines
  | .actOnOrder id action => d.actOnOrder now id action
  | .createUser r =>
    let (service, result) := d.service.register fresh now r
    ({ d with service }, .ofResult (fun u => .created u.toJson) result)
  | .showUser id => (d, .ofResult (fun u => .ok u.toJson) (d.service.overview id))
  | .deleteUser id => d.deleteUser id
  | .showPoints id =>
    (d, .ofResult (fun points => .ok (.obj [("loyaltyPoints", .int points.val)]))
      (d.service.points id))
  | .redeemPoints id points =>
    let (service, result) := d.service.redeem id now points
    ({ d with service },
      .ofResult (fun points => .ok (.obj [("remainingPoints", .int points.val)])) result)
  | .listProducts limit => (d, .ok (d.products.listing limit))
  | .showProduct id => (d, .ofResult (fun p => .ok p.toJson) (d.products.answer id))

/-- Answers a request. -/
def answer (supplier : Supplier κ) (fresh : Uuid) (now : Timestamp) (d : Desk κ) (r : ApiRequest) :
    Desk κ × ApiResponse :=
  match ApiCall.ofRequest r with
  | .error response => (d, response)
  | .ok call => d.carryOut supplier fresh now call

/-- Notes that a request was answered, and how many seconds that took. -/
def count (d : Desk κ) (r : ApiRequest) (response : ApiResponse) (seconds : Float) : Desk κ :=
  { d with metrics := d.metrics.recordRequest r.method r.pattern response.status seconds }

/-- Answers a request and counts it. -/
def serve (supplier : Supplier κ) (fresh : Uuid) (now : Timestamp) (seconds : Float) (d : Desk κ)
    (r : ApiRequest) : Desk κ × ApiResponse :=
  let (d, response) := d.answer supplier fresh now r
  (d.count r response seconds, response)

end Desk

/-! ## The metrics -/

/-- The answer of whoever only shows the metrics. -/
def Metrics.answer (m : Metrics) (r : ApiRequest) : ApiResponse :=
  if r.method ≠ "GET" then .empty 404
  else if r.path = "/metrics".toList then ⟨200, .text "text/plain; version=0.0.4" m.text⟩
  else if r.path = "/health".toList then
    .ok (.obj [("status", .str "healthy"), ("service", .str "order-service-metrics")])
  else .empty 404

end OrderDesk
