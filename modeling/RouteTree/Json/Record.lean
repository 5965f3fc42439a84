import RouteTree.Json.Value

/-!
# Records in JSON

A record with named fields is read from an object, in which unknown names are
passed over and a known name must not repeat, or from an array that gives the
fields in their order.
-/

namespace RouteTree.Json

/-- What becomes of array items beyond the last field of a record. -/
inductive Surplus where
  | refused
  | ignored
deriving DecidableEq, Repr

namespace Surplus

/-- Whether the items beyond the last field are acceptable. -/
def admits : Surplus → List Json → Bool
  | .ignored, _ => true
  | .refused, items => items.isEmpty

end Surplus

/-- The value of a field, `some none` if it is missing; repeated fields are
refused. -/
def uniqueField? (fields : List (String × Json)) (name : String) : Option (Option Json) :=
  match fields.filter (·.1 = name) with
  | [] => some none
  | [(_, value)] => some (some value)
  | _ => none

/-- The items for a number of fields in order, with `none` for those that are
missing, and the items beyond. -/
def positionalFields : Nat → List Json → List (Option Json) × List Json
  | 0, items => ([], items)
  | count + 1, [] => (List.replicate (count + 1) none, [])
  | count + 1, item :: rest =>
      let (fields, beyond) := positionalFields count rest
      (some item :: fields, beyond)

/-- The values of the named fields of a record, in the order of the names. -/
def recordFields? (surplus : Surplus) (names : List String) :
    Json → Option (List (Option Json))
  | .object fields => names.mapM (uniqueField? fields)
  | .array items =>
      let (fields, beyond) := positionalFields names.length items
      if surplus.admits beyond then some fields else none
  | _ => none

/-! ## Field types

Each reader accepts exactly the values of its type. -/

def text? : Json → Option String
  | .text value => some value
  | _ => none

def bool? : Json → Option Bool
  | .bool value => some value
  | _ => none

/-- A value of some type, or null for its absence. -/
def nullable? {α : Type} (read : Json → Option α) : Json → Option (Option α)
  | .null => some none
  | value => (read value).map some

/-- A text, or null for its absence. -/
def nullableText? : Json → Option (Option String) := nullable? text?

/-- A number of at most sixteen bits. -/
def word16? : Json → Option UInt16
  | .integer value =>
      if 0 ≤ value ∧ value ≤ 65535 then some (UInt16.ofNat value.toNat) else none
  | _ => none

/-- Any value, where null is its absence. -/
def nullable : Json → Option Json
  | .null => none
  | value => some value

/-- A field with a default for its absence. -/
def fieldOr? {α : Type} (absent : α) (read : Json → Option α) : Option Json → Option α
  | none => some absent
  | some value => read value

/-- A field that must be there. -/
def requiredField? {α : Type} (read : Json → Option α) (field : Option Json) : Option α :=
  field.bind read

/-- An array with one reader for its items. -/
def list? {α : Type} (read : Json → Option α) : Json → Option (List α)
  | .array items => items.mapM read
  | _ => none

/-- A pair of texts. -/
def textPair? : Json → Option (String × String)
  | .array [.text first, .text second] => some (first, second)
  | _ => none

end RouteTree.Json
