import FocusJournal.Decimal.Binary64

/-!
# JSON values

The values that messages are made of. An object is a list of members; `canonical` brings written members into the order
of their keys and keeps the last of several with one key, which is how an object is read.

* `Json.member?` looks a key up, `Json.ofMembers` builds an object from written members.
-/

namespace FocusJournal

/-- A JSON value. Integers and other numbers are kept apart. -/
inductive Json where
  | null
  | bool (b : Bool)
  | integer (n : Int)
  | float (x : Binary64)
  | string (s : String)
  | array (items : List Json)
  | object (members : List (String × Json))

namespace Json

/-- Puts a member before others that follow it in order, unless the first of them has its key. -/
def keepLast (member : String × Json) (kept : List (String × Json)) : List (String × Json) :=
  match kept with
  | [] => [member]
  | next :: _ => if member.1 = next.1 then kept else member :: kept

/-- Members in the order of their keys, of each key the one written last. -/
def canonical (written : List (String × Json)) : List (String × Json) :=
  (written.mergeSort fun a b => decide (a.1 ≤ b.1)).foldr keepLast []

/-- The object with the members written. -/
def ofMembers (written : List (String × Json)) : Json := .object (canonical written)

/-- The value of a key in an object. -/
def member? (key : String) : Json → Option Json
  | .object members => members.lookup key
  | _ => none

/-- A member that is left out where there is no value. -/
def optionalMember (key : String) : Option Json → List (String × Json)
  | none => []
  | some value => [(key, value)]

/-- The truth value of a boolean. -/
def asBool? : Json → Option Bool
  | .bool b => some b
  | _ => none

end Json

end FocusJournal
