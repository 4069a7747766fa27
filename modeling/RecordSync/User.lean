import RecordSync.Json.Basic
import RecordSync.Text.Blank
import RecordSync.Time.Rfc3339
import RecordSync.Validation

/-!
# Users

A user has an id, a 32-bit whole number other than zero, and a name of 1 to 128 characters that are
not all blank.

Key definitions: `UserId`, `UserId.requireSet`, `Username.parse`, `User`.
-/
namespace RecordSync

/-- The id of a user: a whole number of 32 bits. -/
structure UserId where
  value : Int
  inRange : -2147483648 ≤ value ∧ value ≤ 2147483647

namespace UserId

instance : DecidableEq UserId := fun a b =>
  if h : a.value = b.value then .isTrue (by cases a; cases b; simp_all)
  else .isFalse (fun e => h (e ▸ rfl))

/-- The id of a number in range. -/
def ofInt? (n : Int) : Option UserId :=
  if h : -2147483648 ≤ n ∧ n ≤ 2147483647 then some ⟨n, h⟩ else none

/-- The id that a text spells, with an optional sign. -/
def read? (s : String) : Option UserId :=
  (Decimal.readSigned? (-2147483648) 2147483647 s).bind ofInt?

/-- The id that a JSON value is. -/
def ofJson? (v : Json) : Option UserId :=
  (v.int? (-2147483648) 2147483647).bind ofInt?

/-- The id as text. -/
def text (u : UserId) : String := Decimal.write u.value

/-- The id as JSON. -/
def toJson (u : UserId) : Json := .int u.value

/-- Refuses the id that no user has. -/
def requireSet (u : UserId) : Except ValidationError UserId :=
  if u.value = 0 then .error .zeroUserId else .ok u

end UserId

/-- The most characters that a username has. -/
def Username.limit : Nat := 128

/-- A name that a user may have. -/
structure Username where
  text : String
  notBlank : Text.allBlank text = false
  short : text.length ≤ Username.limit

/-- Accepts a name that is not blank and not too long, as it is. -/
def Username.parse (s : String) : Except ValidationError Username :=
  if hb : Text.allBlank s = false then
    if hl : s.length ≤ Username.limit then .ok ⟨s, hb, hl⟩
    else .error (.tooLong "username" Username.limit)
  else .error (.empty "username")

/-- A user as the store has it. -/
structure User where
  id : UserId
  username : String
  passwordHash : String
  createdAt : Instant

/-- The user as JSON; the password hash is left out. -/
def User.toJson (u : User) : Json :=
  .obj [("id", u.id.toJson), ("username", .str u.username),
    ("created_at", .str (Rfc3339.shortest u.createdAt))]

end RecordSync
