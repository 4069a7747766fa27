/-!
# JSON values

A value keeps what a reader of settings and shapes has to tell apart: a whole number is one that is
written without point and exponent (and is not `-0`), and the members of an object keep their order.

Key definitions: `Json`, `Json.readMembers?`.
-/
namespace RecordSync

/-- A JSON value. -/
inductive Json where
  | null
  | bool (b : Bool)
  | int (n : Int)
  /-- A number with a point or an exponent, or `-0`, by its spelling. -/
  | real (spelling : String)
  | str (s : String)
  | arr (items : List Json)
  | obj (members : List (String × Json))
  deriving Inhabited

namespace Json

/-- The text of a string value. -/
def text? : Json → Option String
  | .str s => some s
  | _ => none

/-- The whole number from `least` to `largest` that a value is. -/
def int? (least largest : Int) : Json → Option Int
  | .int n => if least ≤ n ∧ n ≤ largest then some n else none
  | _ => none

/-- The truth value that a value is. -/
def bool? : Json → Option Bool
  | .bool b => some b
  | _ => none

/-- A string as text, and null as no text. -/
def optionalText? : Json → Option (Option String)
  | .null => some none
  | .str s => some (some s)
  | _ => none

/-- The member of a name: `some none` if there is none, and nothing if there are several. -/
def member? (members : List (String × Json)) (name : String) : Option (Option Json) :=
  match members.filter fun m => m.1 == name with
  | [] => some none
  | [m] => some (some m.2)
  | _ => none

/-- The last value under a name. -/
def get? (members : List (String × Json)) (name : String) : Option Json :=
  (members.findRev? fun m => m.1 == name).map Prod.snd

/--
The values of the declared members, in declared order, each `none` when it is left out. An object
gives them by name, in any order and among other members, each at most once. An array gives them by
position: at least `least` of them, and none beyond the declared ones.
-/
def readMembers? (names : List String) (least : Nat) : Json → Option (List (Option Json))
  | .obj members => names.mapM (member? members)
  | .arr items =>
    if least ≤ items.length ∧ items.length ≤ names.length then
      some (items.map some ++ List.replicate (names.length - items.length) none)
    else none
  | _ => none

/-- The variant of a closed set that a value names: its name as a string, or an object whose one
member has that name and the value null. -/
def variantName? : Json → Option String
  | .str s => some s
  | .obj [(name, .null)] => some name
  | _ => none

end Json
end RecordSync
