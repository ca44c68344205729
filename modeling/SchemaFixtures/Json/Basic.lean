import SchemaFixtures.Entries

/-!
# JSON values

Whole numbers of 64 bits and floating-point numbers are kept apart, and the members of
an object keep their order.
-/

namespace SchemaFixtures

/-- A JSON value. -/
inductive Json where
  | null
  | bool (value : Bool)
  | int (value : Int64)
  | float (value : Float)
  | string (text : String)
  | array (items : List Json)
  | object (members : List (String × Json))
deriving Inhabited, Repr

namespace Json

/-- A whole number, if a signed 64-bit word holds it. -/
def whole? (value : Int) : Option Json :=
  if Int64.minValue.toInt ≤ value ∧ value ≤ Int64.maxValue.toInt then
    some (.int (Int64.ofInt value))
  else none

/-- The members of an object. -/
def members? : Json → Option (Entries Json)
  | object members => some members
  | _ => none

/-- The text of a string. -/
def text? : Json → Option String
  | string text => some text
  | _ => none

/-- Whether the value is a string. -/
def isString (json : Json) : Bool := json.text?.isSome

/-- The member of an object under a name. -/
def member? (json : Json) (name : String) : Option Json :=
  json.members?.bind fun members => Entries.value? members name

end Json

end SchemaFixtures
