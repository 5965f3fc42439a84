namespace RouteTree

/-- The types that route data can have. -/
inductive DatumType where
  | text
  | integer
  | boolean
deriving DecidableEq, Repr

namespace DatumType

/-- The full type name, as error messages show it. -/
def name : DatumType → String
  | .text => "alloc::string::String"
  | .integer => "i64"
  | .boolean => "bool"

/-- The values of a type. -/
def Value : DatumType → Type
  | .text => String
  | .integer => Int
  | .boolean => Bool

end DatumType

/-- Data that a loader or an action left for a route. -/
inductive Datum where
  | text (value : String)
  | integer (value : Int)
  | boolean (value : Bool)
deriving DecidableEq, Repr

namespace Datum

def type : Datum → DatumType
  | .text _ => .text
  | .integer _ => .integer
  | .boolean _ => .boolean

/-- The value, if it is of the given type. -/
def read? : Datum → (type : DatumType) → Option type.Value
  | .text value, .text => some value
  | .integer value, .integer => some value
  | .boolean value, .boolean => some value
  | _, _ => none

end Datum

end RouteTree
