import RouteTree.RouteError
import RouteTree.Text.Slashes
import RouteTree.Tree.Description

/-!
# Normalized route trees

Normalization strips the outer slashes of every path and gives every route an
id. A route without an id of its own extends the id of its parent by its path,
or by a fixed segment when it has none.
-/

namespace RouteTree

/-- A route with its final id and a path without outer slashes. -/
structure Node where
  id : String
  path : Option String
  index : Bool
  children : List Node
deriving Repr, Inhabited

/-- The last segment of the id of a route that does not name itself. -/
def idSegment (path : Option String) (index : Bool) : String :=
  match path with
  | some path => path
  | none => if index then "_index" else "_"

/-- What a child puts before its own segment. The root adds nothing of its own,
so that ids never start with two slashes. -/
def idLead (parentId : Option String) : String :=
  match parentId with
  | none => ""
  | some parent => if parent = "/" then "" else parent

/-- The id of a route: its own if it is not empty, else one that extends the
id of the parent. -/
def routeId (explicit path : Option String) (index : Bool)
    (parentId : Option String) : String :=
  let synthesized := idLead parentId ++ "/" ++ idSegment path index
  match explicit with
  | some id => if id.isEmpty then synthesized else id
  | none => synthesized

namespace Node

/-- Whether the route has neither a path nor the index flag. -/
def isLayout (node : Node) : Bool :=
  node.path.isNone && !node.index

mutual

/-- Normalizes one route below a parent; a route is checked before its
children. -/
def ofDescription (parentId : Option String) : Description → Except RouteError Node
  | ⟨explicit, path, index, children⟩ =>
      let trimmed := path.map Text.trimSlashes
      let id := routeId explicit trimmed index parentId
      if index && trimmed.isSome then .error (.indexRoute id .path)
      else if index && !children.isEmpty then .error (.indexRoute id .children)
      else (ofDescriptions (some id) children).map fun nodes =>
        ⟨id, trimmed, index, nodes⟩

/-- Normalizes siblings in order. -/
def ofDescriptions (parentId : Option String) :
    List Description → Except RouteError (List Node)
  | [] => .ok []
  | first :: rest =>
      (ofDescription parentId first).bind fun node =>
        (ofDescriptions parentId rest).map (node :: ·)

end

end Node

/-- Normalizes the routes at the top of a tree. -/
def normalize (descriptions : List Description) : Except RouteError (List Node) :=
  Node.ofDescriptions none descriptions

end RouteTree
