import RouteTree.Codegen.Naming
import RouteTree.Table

/-!
# What is generated for a table

Every route becomes a variant of one enum, and its merged parameters become
the fields of a record. Variants are distinct in the table, fields in their
record.
-/

namespace RouteTree.Codegen

open Params

/-- A field of a record of parameters. -/
structure Field where
  param : String
  name : String
  need : Need
deriving DecidableEq, Repr

/-- What is generated for one route. -/
structure Item where
  id : String
  variant : String
  parentId : Option String
  shape : Shape
  fields : List Field
deriving DecidableEq, Repr

/-- The fields for a shape, in the order of the parameters. -/
def fieldsOf (shape : Shape) : List Field :=
  let names := freeNames [] (shape.entries.map fun entry => fieldName entry.1)
  List.zipWith (fun (param, need) name => ⟨param, name, need⟩) shape.entries names

def itemOf (table : Table) (record : Record) (variant : String) : Except RouteError Item :=
  (table.params record.id).map fun alternatives =>
    let shape := alternatives.merged
    ⟨record.id, variant, record.parentId, shape, fieldsOf shape⟩

/-- The variants of the routes of a table, in preorder. -/
def variantsOf (table : Table) : List String :=
  freeNames [] (table.ids.map variantName)

/-- The items of a table, in preorder. -/
def itemsOf (table : Table) : Except RouteError (List Item) :=
  (List.zip table.records.toList (variantsOf table)).mapM fun (record, variant) =>
    itemOf table record variant

/-- The variant of the route with an id. -/
def variantOf? (items : List Item) (id : String) : Option String :=
  (items.find? (·.id = id)).map Item.variant

/-- The name of the record of parameters of a route. -/
def Item.recordName (item : Item) : String := item.variant ++ "Params"

/-! ## Serialization of fields -/

/-- What tells a serializer how to treat a field. -/
structure SerializationOptions where
  /-- The key to use in place of the name of the field. -/
  rename : Option String
  /-- Whether the field may be missing, and is left out when it is empty. -/
  optional : Bool
deriving DecidableEq, Repr

def Field.serialization (field : Field) : SerializationOptions where
  rename := if field.name = field.param then none else some field.param
  optional := field.need = .optional

/-- The key under which a field is serialized. -/
def Field.serializedName (field : Field) : String :=
  field.serialization.rename.getD field.name

end RouteTree.Codegen
