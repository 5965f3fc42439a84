import RouteTree.Params.Shape

/-!
# Parameter values

Values come from a matched URL as raw text. They are accepted when every
required name has a value, and only the names of the shape are kept.
-/

namespace RouteTree.Params

abbrev RawValues := SortedMap String String

structure Values where
  shape : Shape
  map : SortedMap String String
deriving DecidableEq, Repr

namespace Values

/-- The first required name without a value. -/
def firstMissing? (shape : Shape) (raw : RawValues) : Option String :=
  shape.requiredNames.find? fun name => !raw.contains name

/-- Checks raw values against a shape and drops the names it does not have. -/
def ofRaw (shape : Shape) (raw : RawValues) : Except RouteError Values :=
  match firstMissing? shape raw with
  | some name => .error (.missingParam name)
  | none => .ok ⟨shape, raw.filterKeys shape.contains⟩

def get? (values : Values) (name : String) : Option String :=
  values.map.get? name

/-- The value of a required name. An optional name is refused even when it has
a value, so that nobody takes it for granted. -/
def require (values : Values) (name : String) : Except RouteError String :=
  match values.shape.get? name, values.get? name with
  | some .required, some value => .ok value
  | _, _ => .error (.missingParam name)

/-- What the catch-all matched. -/
def splat? (values : Values) : Option String :=
  values.get? "*"

end Values

end RouteTree.Params
