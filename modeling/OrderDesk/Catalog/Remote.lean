import OrderDesk.Breaker
import OrderDesk.Catalog.Wire
import OrderDesk.Health
import OrderDesk.Json.Reader
import OrderDesk.Metrics.Basic
import OrderDesk.Url.Parser

/-!
# A product service elsewhere

Products may be looked up at a product service, one request each, behind a circuit breaker.

* `Remote.request` builds the request for a product, with the authorization of the caller, or with
  the token of this service if the caller has none.
* `Remote.interpret` turns what came back into an answer: 200 with a readable product, 404 for no
  such product, and anything else means that the service cannot be asked.
* `Remote.lookUp` asks about several products at once: first all of them pass the circuit breaker,
  then the requests are exchanged, and then the outcomes are recorded in the order of the products.
  An outcome is a failure for the circuit only if the service could not be asked.
-/

namespace OrderDesk

/-- What comes back for a request. -/
inductive Reply where
  /-- An answer with a status and a body; the body may have broken off. -/
  | answered (status : Nat) (body : Option String)
  /-- The connection could not be made or was closed without an answer. -/
  | noConnection
  /-- No answer in time. -/
  | noAnswer
deriving DecidableEq

/-- A request to the product service. -/
structure RemoteRequest where
  url : Url
  authorization : Option String
deriving DecidableEq

/-- How the product service is reached. -/
structure RemoteConfig where
  /-- The address of the service, without slashes at the end. -/
  base : String
  /-- The token to use when the caller has none. -/
  token : Option String
  breaker : BreakerConfig
deriving DecidableEq

namespace RemoteConfig

/-- Takes slashes off the end of an address. -/
def trimSlashes (s : String) : String :=
  String.ofList (s.toList.reverse.dropWhile (· = '/')).reverse

/-- A way to reach the service at an address; an empty token is none. -/
def make (base : String) (token : Option String) (breaker : BreakerConfig) : RemoteConfig :=
  ⟨trimSlashes base, token.filter (· ≠ ""), breaker⟩

end RemoteConfig

namespace Remote

/-! ## Requests -/

/-- The authorization to send: that of the caller, unless it is empty. -/
def authorization (c : RemoteConfig) (caller : Option String) : Option String :=
  match caller.filter (· ≠ "") with
  | some header => some header
  | none => c.token.map ("Bearer " ++ ·)

/-- May the text be the value of a header? -/
def isHeaderValue (s : String) : Bool :=
  s.toList.all fun c => (0x20 ≤ c.toNat && c.toNat ≠ 0x7F) || c == '\t'

/-- The largest number of octets of an address that a request can name. -/
def addressLimit : Nat := 65534

/-- Can a request go to an address?  It needs a scheme that is spoken here, a host without quotes
and braces, and it must not be too long. -/
def isRequestable (url : Url) : Bool :=
  let host := (url.host?.map fun h => h.text.toList).getD []
  (url.scheme == "http" || url.scheme == "https") &&
    !host.any ['"', Char.ofNat 96, '\x7b', '\x7d'].contains &&
    url.text.utf8ByteSize ≤ addressLimit

/-- The request for a product, or the reason why there is none.  Credentials in the address are not
shown. -/
def request (c : RemoteConfig) (caller : Option String) (id : ProductId) :
    Except String RemoteRequest :=
  match Url.parse? (c.base ++ "/products/" ++ id.text) with
  | none => .error "request failed: builder error"
  | some given =>
    let url := given.withoutCredentials
    let authorization := authorization c caller
    if url.host?.isNone then .error ("request failed: builder error for url (" ++ url.text ++ ")")
    else if !(authorization.all isHeaderValue) then .error "request failed: builder error"
    else if !isRequestable url then
      .error ("request failed: builder error for url (" ++ url.text ++ ")")
    else .ok ⟨url, authorization⟩

/-! ## Answers -/

/-- The service cannot be asked. -/
def unavailable (reason : String) : Answer := .error (.unavailable reason)

/-- The product in a body. -/
def product (id : ProductId) (body : Option String) : Answer :=
  match (body.bind Json.parse?).bind (Product.ofPayload? id) with
  | none => unavailable "invalid product response: error decoding response body"
  | some p => if p.price.isNegative then unavailable "invalid product price" else .ok p

/-- Does a status stand for an answer?  One below 200 only announces an answer to come, except that
101 is the last one. -/
def isAnswer (status : Nat) : Bool := status == 101 || 200 ≤ status && status < 1000

/-- The answer that a reply stands for. -/
def interpret (r : RemoteRequest) (id : ProductId) : Reply → Answer
  | .noAnswer => unavailable "request timed out"
  | .noConnection =>
    unavailable ("request failed: error sending request for url (" ++ r.url.text ++ ")")
  | .answered status body =>
    if !isAnswer status then
      unavailable ("request failed: error sending request for url (" ++ r.url.text ++ ")")
    else if status = 200 then product id body
    else if status = 404 then .error (.notFound id)
    else if status = 401 then unavailable "unauthorized access"
    else unavailable ("status " ++ toString status)

/-- How an answer counts for the circuit. -/
def outcome : Answer → Outcome
  | .error (.unavailable _) => .failure
  | _ => .success

/-- The name of an answer in the metrics. -/
def outcomeLabel : Answer → String
  | .ok _ => "ok"
  | .error (.notFound _) => "not_found"
  | .error (.notPurchasable _ _) => "not_purchasable"
  | .error (.unavailable _) => "unavailable"

/-! ## Looking up -/

/-- The circuit breaker and the metrics that looking up changes. -/
structure State where
  breaker : Breaker
  metrics : CatalogMetrics

/-- Notes an answer in the metrics, with the state of the circuit. -/
def note (s : State) (a : Answer) : State :=
  { s with metrics := (s.metrics.recordRequest (outcomeLabel a)).setCircuit s.breaker.state }

/-- Records the answer for a product that has passed the circuit breaker. -/
def conclude (c : RemoteConfig) (now : Nat) (s : State) (a : Answer) : State :=
  note { s with breaker := s.breaker.record c.breaker now (outcome a) } a

/-- What became of a product at the circuit breaker: a request is under way, or there is an answer
already. -/
inductive Attempt where
  | sent (r : RemoteRequest)
  | settled (a : Answer)

/-- Brings a product to the circuit breaker. -/
def start (c : RemoteConfig) (caller : Option String) (now : Nat) (s : State) (id : ProductId) :
    State × Attempt :=
  match s.breaker.enter c.breaker now with
  | none =>
    let a := unavailable "circuit breaker open"
    (note s a, .settled a)
  | some breaker =>
    let s := { s with breaker }
    match request c caller id with
    | .ok r => (s, .sent r)
    | .error reason =>
      let a := unavailable reason
      (conclude c now s a, .settled a)

/-- Brings products to the circuit breaker, one after the other. -/
def startAll (c : RemoteConfig) (caller : Option String) (now : Nat) :
    State → List ProductId → State × List (ProductId × Attempt)
  | s, [] => (s, [])
  | s, id :: ids =>
    let (s, attempt) := start c caller now s id
    let (s, rest) := startAll c caller now s ids
    (s, (id, attempt) :: rest)

/-- Takes the reply to a request that is under way. -/
def finish (c : RemoteConfig) (exchange : RemoteRequest → Reply) (now : Nat) (s : State)
    (id : ProductId) : Attempt → State × Answer
  | .settled a => (s, a)
  | .sent r =>
    let a := interpret r id (exchange r)
    (conclude c now s a, a)

/-- Takes the replies to all requests that are under way, in order. -/
def finishAll (c : RemoteConfig) (exchange : RemoteRequest → Reply) (now : Nat) :
    State → List (ProductId × Attempt) → State × List Answer
  | s, [] => (s, [])
  | s, (id, attempt) :: rest =>
    let (s, a) := finish c exchange now s id attempt
    let (s, answers) := finishAll c exchange now s rest
    (s, a :: answers)

/-- Asks about products at once. -/
def lookUp (c : RemoteConfig) (exchange : RemoteRequest → Reply) (caller : Option String)
    (now : Nat) (s : State) (ids : List ProductId) : State × List Answer :=
  let (s, attempts) := startAll c caller now s ids
  finishAll c exchange now s attempts

/-- The requests that are sent when products are asked about. -/
def requests (c : RemoteConfig) (caller : Option String) (now : Nat) (s : State)
    (ids : List ProductId) : List RemoteRequest :=
  (startAll c caller now s ids).2.filterMap fun (_, attempt) =>
    match attempt with
    | .sent r => some r
    | .settled _ => none

/-- The health of the product service as seen from here: it is the state of the circuit. -/
def health (c : RemoteConfig) (b : Breaker) (now : Timestamp) : ComponentHealth where
  name := "catalog"
  status := if b.state = .closed then .healthy else .degraded ("circuit " ++ b.state.label)
  lastCheck := now
  details := some c.base

end Remote

end OrderDesk
