namespace RouteTree

/-- A JSON value. The fields of an object keep their order and may repeat. -/
inductive Json where
  | null
  | bool (value : Bool)
  /-- A number without fraction and exponent. -/
  | integer (value : Int)
  /-- Any other number, by its text. -/
  | decimal (literal : String)
  | text (value : String)
  | array (items : List Json)
  | object (fields : List (String × Json))
  /-- A text, or an object with a field name, that holds half a surrogate pair.
  It is well formed, but there is nothing that it could be read as. -/
  | broken
deriving Repr, Inhabited

namespace Json

/-- The value of the first field with a name. -/
def field? (name : String) : Json → Option Json
  | .object fields => findEntry name fields
  | _ => none
where
  findEntry (name : String) : List (String × Json) → Option Json
    | [] => none
    | (other, value) :: rest => if other = name then some value else findEntry name rest

end Json

end RouteTree
