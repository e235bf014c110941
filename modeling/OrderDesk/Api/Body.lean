import OrderDesk.Api.MediaType
import OrderDesk.Api.Request
import OrderDesk.Api.Error
import OrderDesk.Json.Reader

/-!
# Bodies of requests

A request with a body has to say that it is JSON, the body may have 65536 bytes at most, and it has
to be readable as what the request needs.  These are looked at in this order; a size that the
request announces counts before the body is read.
-/

namespace OrderDesk

/-- What is wrong with a body. -/
inductive BodyError where
  /-- It is not said to be JSON. -/
  | notJson
  /-- The size that is announced is too large. -/
  | tooLong (size : Nat)
  /-- The body turns out too large. -/
  | overflow
  /-- It cannot be read as what the request needs. -/
  | unreadable
deriving DecidableEq

namespace BodyError

/-- The greatest number of bytes of a body. -/
def limit : Nat := 65536

/-- What is wrong, in words. -/
def details : BodyError → String
  | .notJson => "Content type error"
  | .tooLong size =>
    "JSON payload (" ++ toString size ++ " bytes) is larger than allowed (limit: " ++
      toString limit ++ " bytes)."
  | .overflow => "JSON payload has exceeded limit (" ++ toString limit ++ " bytes)."
  | .unreadable => "Json deserialize error"

/-- The failure that is answered. -/
def toApiError (e : BodyError) : ApiError :=
  (ApiError.badRequest "INVALID_REQUEST_BODY" "Invalid request body").explain e.details

end BodyError

namespace ApiRequest

/-- Does the request say that its body is JSON? -/
def announcesJson (r : ApiRequest) : Bool :=
  ((r.headerText? "content-type").bind MediaType.parse?).any (·.isJson)

/-- The number of bytes that the request announces, if it does so legibly. -/
def announcedSize? (r : ApiRequest) : Option Nat :=
  let size? := (r.headerText? "content-length").bind fun s => Text.readNatSigned? s.toList
  size?.filter (· < Nat.pow 2 64)

/-- Reads the body. -/
def read {α : Type} (decode : Json → Option α) (r : ApiRequest) : Except BodyError α :=
  if !r.announcesJson then .error .notJson
  else if BodyError.limit < r.announcedSize?.getD 0 then
    .error (.tooLong (r.announcedSize?.getD 0))
  else if BodyError.limit < r.body.utf8ByteSize then .error .overflow
  else
    match (Json.parse? r.body).bind decode with
    | some a => .ok a
    | none => .error .unreadable

end ApiRequest

end OrderDesk
