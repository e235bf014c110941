import OrderDesk.Json.Decode
import OrderDesk.Timestamp.Text
import OrderDesk.User.Basic

/-!
# Users as JSON
-/

namespace OrderDesk

namespace User

/-- A user as it is shown. -/
def toJson (u : User) : Json :=
  .obj [("id", .str u.id.text), ("username", .str u.username.text), ("email", .str u.email.text),
    ("firstname", .str u.firstname), ("lastname", .str u.lastname),
    ("loyaltyPoints", .int u.points.val), ("createdAt", .str u.createdAt.text),
    ("updatedAt", .str u.updatedAt.text)]

end User

namespace Registration

/-- A registration; a missing field is empty. -/
def ofJson? (j : Json) : Option Registration := do
  let [username, email, firstname, lastname] ←
    j.record? [["username"], ["email"], ["firstname"], ["lastname"]] | none
  let field := Json.withDefault? "" Json.str?
  return ⟨← field username, ← field email, ← field firstname, ← field lastname⟩

end Registration

/-- The number of points in a request to redeem them. -/
def redemptionOfJson? (j : Json) : Option Signed64 := do
  let [points] ← j.record? [["points"]] | none
  Json.required? Json.bounded? points

end OrderDesk
