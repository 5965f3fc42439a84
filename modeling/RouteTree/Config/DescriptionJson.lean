import RouteTree.Json.Record
import RouteTree.Tree.Description

/-!
# Route descriptions in JSON

What a description does not say is not written: an absent id or path, a false
index flag and an empty list of children have no field. Reading supplies them
again, so every description is read back from its written form.
-/

namespace RouteTree

open Json (Surplus)

/-- The fields of a description that have been read so far. -/
structure DescriptionDraft where
  id : Option (Option String) := none
  path : Option (Option String) := none
  index : Option Bool := none
  children : Option (List Description) := none

namespace DescriptionDraft

def finish (draft : DescriptionDraft) : Description where
  id := draft.id.getD none
  path := draft.path.getD none
  index := draft.index.getD false
  children := draft.children.getD []

end DescriptionDraft

namespace Description

mutual

/-- Reads one description. -/
def ofJson? (surplus : Surplus) : Json → Option Description
  | .object fields => (ofFields? surplus {} fields).map DescriptionDraft.finish
  | .array items => ofItems? surplus items
  | _ => none

/-- Reads the fields of an object one after the other. -/
def ofFields? (surplus : Surplus) (draft : DescriptionDraft) :
    List (String × Json) → Option DescriptionDraft
  | [] => some draft
  | (name, value) :: rest =>
      if name = "id" then
        if draft.id.isSome then none
        else (Json.nullableText? value).bind fun id =>
          ofFields? surplus { draft with id := some id } rest
      else if name = "path" then
        if draft.path.isSome then none
        else (Json.nullableText? value).bind fun path =>
          ofFields? surplus { draft with path := some path } rest
      else if name = "index" then
        if draft.index.isSome then none
        else (Json.bool? value).bind fun index =>
          ofFields? surplus { draft with index := some index } rest
      else if name = "children" then
        if draft.children.isSome then none
        else (listOfJson? surplus value).bind fun children =>
          ofFields? surplus { draft with children := some children } rest
      else ofFields? surplus draft rest

/-- Reads the items of an array as the fields in order. -/
def ofItems? (surplus : Surplus) : List Json → Option Description
  | [] => some {}
  | [id] => (Json.nullableText? id).map fun id => { id }
  | [id, path] =>
      (Json.nullableText? id).bind fun id =>
        (Json.nullableText? path).map fun path => { id, path }
  | [id, path, index] =>
      (Json.nullableText? id).bind fun id =>
        (Json.nullableText? path).bind fun path =>
          (Json.bool? index).map fun index => { id, path, index }
  | id :: path :: index :: children :: beyond =>
      (Json.nullableText? id).bind fun id =>
        (Json.nullableText? path).bind fun path =>
          (Json.bool? index).bind fun index =>
            (listOfJson? surplus children).bind fun children =>
              if surplus.admits beyond then some { id, path, index, children } else none

/-- Reads an array of descriptions. -/
def listOfJson? (surplus : Surplus) : Json → Option (List Description)
  | .array items => listOfItems? surplus items
  | _ => none

def listOfItems? (surplus : Surplus) : List Json → Option (List Description)
  | [] => some []
  | item :: rest =>
      (ofJson? surplus item).bind fun first =>
        (listOfItems? surplus rest).map (first :: ·)

end

mutual

/-- The written form of a description. -/
def toJson : Description → Json
  | ⟨id, path, index, children⟩ =>
      .object <|
        (id.toList.map fun id => ("id", Json.text id)) ++
        (path.toList.map fun path => ("path", Json.text path)) ++
        (if index then [("index", .bool true)] else []) ++
        (if children.isEmpty then [] else [("children", .array (listToJson children))])

def listToJson : List Description → List Json
  | [] => []
  | first :: rest => toJson first :: listToJson rest

end

/-! ## Nesting -/

mutual

/-- The arrays and objects that are open at once while a description is read. -/
def nesting : Json → Nat
  | .object fields => fieldNesting fields + 1
  | .array items => itemNesting items + 1
  | _ => 0

/-- Only children are read further. -/
def fieldNesting : List (String × Json) → Nat
  | [] => 0
  | (name, value) :: rest =>
      max (if name = "children" then listNesting value else 0) (fieldNesting rest)

def itemNesting : List Json → Nat
  | _ :: _ :: _ :: children :: _ => listNesting children
  | _ => 0

def listNesting : Json → Nat
  | .array items => largestNesting items + 1
  | _ => 0

def largestNesting : List Json → Nat
  | [] => 0
  | item :: rest => max (nesting item) (largestNesting rest)

end

end Description

end RouteTree
