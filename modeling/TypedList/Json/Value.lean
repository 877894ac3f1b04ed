import TypedList.Text.Basic

/-!
# JSON values

The values that reports are made of.  An object keeps its fields in the order in which they are
written; the only numbers are natural ones.
-/

namespace TypedList

/-- A JSON value. -/
inductive Json
  | bool (value : Bool)
  | number (value : Nat)
  | string (text : Text)
  | array (items : List Json)
  | object (fields : List (Text × Json))

namespace Json

/-- The value of the first field of an object with the given name. -/
def field? (name : Text) : Json → Option Json
  | object fields => fields.lookup name
  | _ => none

end Json

end TypedList
