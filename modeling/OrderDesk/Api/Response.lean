import OrderDesk.Api.Error

/-!
# Answers to requests

An answer has a status and a body: none, a JSON value, or plain text of some media type.
-/

namespace OrderDesk

/-- The body of an answer. -/
inductive ApiBody where
  | empty
  | json (j : Json)
  | text (mediaType content : String)

namespace ApiBody

/-- The media type of a body, if there is one. -/
def mediaType? : ApiBody → Option String
  | .empty => none
  | .json _ => some "application/json"
  | .text mediaType _ => some mediaType

/-- The body as it is sent. -/
def content : ApiBody → String
  | .empty => ""
  | .json j => j.text
  | .text _ content => content

end ApiBody

/-- The answer to a request. -/
structure ApiResponse where
  status : Nat
  body : ApiBody

namespace ApiResponse

/-- An answer without a body. -/
def empty (status : Nat) : ApiResponse := ⟨status, .empty⟩

/-- An answer with a JSON value. -/
def json (status : Nat) (j : Json) : ApiResponse := ⟨status, .json j⟩

/-- The request was carried out. -/
def ok (j : Json) : ApiResponse := json 200 j

/-- Something was created. -/
def created (j : Json) : ApiResponse := json 201 j

/-- The answer to a failure. -/
def ofError (e : ApiError) : ApiResponse := json e.status e.toJson

/-- The answer to a failure of any part of the service. -/
def ofFailure {ε : Type} [Failure ε] (e : ε) : ApiResponse := ofError (.ofFailure e)

/-- The answer to a result. -/
def ofResult {ε α : Type} [Failure ε] (success : α → ApiResponse) : Except ε α → ApiResponse
  | .ok a => success a
  | .error e => ofFailure e

end ApiResponse

end OrderDesk
