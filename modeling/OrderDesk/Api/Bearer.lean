import OrderDesk.Api.Error

/-!
# Who a request comes from

Requests carry a token in a header of the form `Bearer token`, with one blank and no other.  Tokens
are not verified beyond their form and a length of at least 20 bytes; the header is kept so that it
can be passed on to the product service.
-/

namespace OrderDesk

/-- A header with a token in it. -/
structure Bearer where
  header : String
deriving DecidableEq

namespace Bearer

/-- The least number of bytes of a token. -/
def minTokenSize : Nat := 20

/-- There is no header. -/
def missingToken : ApiError := .unauthorized "MISSING_TOKEN" "Authorization header is required"

/-- The header has another form. -/
def invalidFormat : ApiError :=
  .unauthorized "INVALID_TOKEN_FORMAT"
    "Authorization header must be in format: Bearer \x7btoken\x7d"

/-- There is nothing behind the blank. -/
def emptyToken : ApiError := .unauthorized "EMPTY_TOKEN" "Token cannot be empty"

/-- The token is too short. -/
def invalidToken : ApiError := .unauthorized "INVALID_TOKEN" "Invalid or expired token"

/-- The word in front of a token. -/
def scheme : List Char := "Bearer".toList

/-- The token of a header with exactly one blank in it, behind the word. -/
def token? (header : String) : Option (List Char) :=
  match header.toList.splitOn ' ' with
  | [word, token] => if word = scheme then some token else none
  | _ => none

/-- The token that a header brings; an empty header is none. -/
def parse (header : Option String) : Except ApiError Bearer :=
  match header with
  | none => .error missingToken
  | some header =>
    if header = "" then .error missingToken
    else
      match token? header with
      | none => .error invalidFormat
      | some token =>
        if token = [] then .error emptyToken
        else if (String.ofList token).utf8ByteSize < minTokenSize then .error invalidToken
        else .ok ⟨header⟩

end Bearer

end OrderDesk
