import RouteTree.Json.Value
import RouteTree.Tree.Record

namespace RouteTree

/-- A shape as an object of needs by name. -/
def Params.Shape.toJson (shape : Params.Shape) : Json :=
  .object (shape.entries.map fun (name, need) => (name, .text need.name))

/-- The written form of a record. Only the id and the parameters are always
there. -/
def Record.toJson (record : Record) : Json :=
  let texts (items : List String) : Json := .array (items.map Json.text)
  .object <|
    [("id", .text record.id)] ++
    (record.path.toList.map fun path => ("path", .text path)) ++
    (if record.paths.isEmpty then [] else [("paths", texts record.paths)]) ++
    (if record.index then [("index", .bool true)] else []) ++
    (record.parentId.toList.map fun parent => ("parentId", .text parent)) ++
    (if record.childIds.isEmpty then [] else [("childIds", texts record.childIds)]) ++
    [("params", Params.Shape.toJson record.params)]

end RouteTree
