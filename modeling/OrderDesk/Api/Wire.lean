import OrderDesk.Api.Response
import OrderDesk.Api.Request
import OrderDesk.Json.Decode

/-!
# Requests and answers as JSON

A request and its answer can each be written on a line of text.  A request is an object with a
method, a target, headers as pairs, and a body; `GET`, the root, no headers and an empty body are
what a missing member stands for.  The member `monitor` says that the request is for whoever shows
the metrics.
-/

namespace OrderDesk

/-- A request, and whether it is for whoever shows the metrics. -/
structure Incoming where
  request : ApiRequest
  monitor : Bool

/-- Reads a pair of texts. -/
def Json.pair? : Json → Option (String × String)
  | .array [.string (some name), .string (some value)] => some (name, value)
  | _ => none

/-- Reads a request. -/
def Incoming.ofJson? (j : Json) : Option Incoming := do
  let [method, target, headers, body, monitor] ←
    j.record? [["method"], ["target"], ["headers"], ["body"], ["monitor"]] | none
  let request : ApiRequest := {
    method := ← Json.withDefault? "GET" Json.str? method
    target := ← Json.withDefault? "/" Json.str? target
    headers := ← Json.withDefault? [] (Json.list? Json.pair?) headers
    body := ← Json.withDefault? "" Json.str? body }
  return ⟨request, ← Json.withDefault? false Json.bool? monitor⟩

/-- An answer as it is written. -/
def ApiResponse.toJson (r : ApiResponse) : Json :=
  .obj [("status", .int r.status), ("type", .optStr r.body.mediaType?),
    ("body", .str r.body.content)]

end OrderDesk
