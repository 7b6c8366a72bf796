import ApiGateway.Binary64.Decimal
import ApiGateway.Fields

/-!
# JSON values

Integers and doubles are different values, as documents keep what they were written as.
-/

set_option autoImplicit false

namespace ApiGateway

inductive Json where
  | null
  | bool (b : Bool)
  | integer (n : Int)
  | float (x : Binary64)
  | string (s : String)
  | array (items : List Json)
  | object (fields : List (String × Json))

namespace Json

instance : Inhabited Json := ⟨null⟩

/-- An object with its fields in order of their keys. -/
def ofFields (pairs : List (String × Json)) : Json := object (Fields.ofList pairs)

def strings (items : List String) : Json := array (items.map string)

/-- A double, which is null where JSON has no number for it. -/
def ofBinary64 (x : Binary64) : Json := if x.isFinite then float x else null

/-- The name of a value's type. -/
def kind : Json → String
  | null => "null"
  | bool _ => "boolean"
  | integer _ | float _ => "number"
  | string _ => "string"
  | array _ => "array"
  | object _ => "object"

/-- The double nearest to a number. -/
def number? : Json → Option Binary64
  | integer n => some (Binary64.ofInt n)
  | float x => some x
  | _ => none

def isNull : Json → Bool
  | null => true
  | _ => false

end Json

end ApiGateway
