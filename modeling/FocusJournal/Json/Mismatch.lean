import FocusJournal.Json.Basic
import FocusJournal.Decimal.Shortest
import FocusJournal.Text.Escaped
import FocusJournal.Text.Numeral

/-!
# Mismatches

What is wrong with a JSON value that is well formed but is not what a message needs there.

* `Found` names the value that stands in the wrong place.
* `Mismatch.message` words each cause.
-/

namespace FocusJournal

/-- A value as a message names it. -/
inductive Found where
  | null
  | bool (b : Bool)
  | integer (n : Int)
  | float (x : Binary64)
  | string (s : String)
  | sequence
  | map

namespace Found

/-- How a value is named. -/
def ofJson : Json → Found
  | .null => .null
  | .bool b => .bool b
  | .integer n => .integer n
  | .float x => .float x
  | .string s => .string s
  | .array _ => .sequence
  | .object _ => .map

/-- The name of a value. -/
def text : Found → String
  | .null => "null"
  | .bool true => "boolean `true`"
  | .bool false => "boolean `false`"
  | .integer n => "integer `" ++ Text.integerText n ++ "`"
  | .float x => "floating point `" ++ String.ofList (Decimal.text x) ++ "`"
  | .string s => "string " ++ Text.quote s
  | .sequence => "sequence"
  | .map => "map"

end Found

/-- Why a value is not what a message needs. -/
inductive Mismatch where
  /-- A value of another kind. -/
  | kind (found : Found) (expected : String)
  /-- A number of the right kind that does not fit. -/
  | range (found : Found) (expected : String)
  /-- A list that ends before the field it should give next. -/
  | short (length : Nat) (expected : String)
  /-- A list with more items than the record has fields. -/
  | long (length taken : Nat)
  /-- A field that must be there and is not. -/
  | missing (field : String)
  /-- A field written twice. -/
  | duplicate (field : String)
  /-- A field that the record does not have. -/
  | unknownField (field : String) (known : List String)
  /-- A tag that names none of the variants. -/
  | unknownVariant (name : String) (known : List String)

namespace Mismatch

/-- Names in back quotes, separated by commas. -/
def listed : List String → String
  | [] => ""
  | [name] => "`" ++ name ++ "`"
  | name :: rest => "`" ++ name ++ "`, " ++ listed rest

/-- A count of elements. -/
def elements (n : Nat) : String :=
  Text.integerText n ++ (if n = 1 then " element" else " elements")

/-- The wording of a cause. Inside a tagged value a long list is measured by the items that were taken. -/
def message (tagged : Bool) : Mismatch → String
  | .kind found expected => "invalid type: " ++ found.text ++ ", expected " ++ expected
  | .range found expected => "invalid value: " ++ found.text ++ ", expected " ++ expected
  | .short length expected => "invalid length " ++ Text.integerText length ++ ", expected " ++ expected
  | .long length taken =>
    "invalid length " ++ Text.integerText length ++ ", expected "
      ++ (if tagged then elements taken ++ " in sequence" else "fewer elements in array")
  | .missing field => "missing field `" ++ field ++ "`"
  | .duplicate field => "duplicate field `" ++ field ++ "`"
  | .unknownField field known => "unknown field `" ++ field ++ "`, expected one of " ++ listed known
  | .unknownVariant name known => "unknown variant `" ++ name ++ "`, expected one of " ++ listed known

end Mismatch

end FocusJournal
