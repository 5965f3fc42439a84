import RouteTree.Params.Shape
import RouteTree.Pattern.Expansion
import RouteTree.Tree.Node

/-!
# Route records

A record is a route lifted out of its tree: what the route says itself, and
the ids of its parent and its children. The records of a tree stand in
preorder, so a parent stands before its children.
-/

namespace RouteTree

structure Record where
  id : String
  path : Option String
  /-- The concrete paths of the pattern, none without a pattern. -/
  paths : List String
  index : Bool
  parentId : Option String
  childIds : List String
  /-- The parameters of the route's own pattern. -/
  params : Params.Shape
deriving DecidableEq, Repr

namespace Record

def isLayout (record : Record) : Bool :=
  record.path.isNone && !record.index

def isRoot (record : Record) : Bool := record.parentId.isNone

def isLeaf (record : Record) : Bool := record.childIds.isEmpty

/-- The record of a route. It fails when the pattern cannot be read. -/
def ofNode (parentId : Option String) (node : Node) : Except RouteError Record :=
  let childIds := node.children.map Node.id
  match node.path with
  | none => .ok ⟨node.id, none, [], node.index, parentId, childIds, ∅⟩
  | some path =>
      (Params.ofPattern path).map fun params =>
        ⟨node.id, some path, concretePaths path, node.index, parentId, childIds, params⟩

mutual

/-- The records found so far, followed by those of one subtree. A pattern is
read before the id is compared with the earlier ones. -/
def addNode (known : List Record) (parentId : Option String) :
    Node → Except RouteError (List Record)
  | ⟨id, path, index, children⟩ =>
      (ofNode parentId ⟨id, path, index, children⟩).bind fun record =>
        if known.any (·.id = id) then .error (.duplicateId id)
        else addNodes (known ++ [record]) (some id) children

/-- The records found so far, followed by those of siblings in order. -/
def addNodes (known : List Record) (parentId : Option String) :
    List Node → Except RouteError (List Record)
  | [] => .ok known
  | first :: rest =>
      (addNode known parentId first).bind fun more => addNodes more parentId rest

end

end Record

/-- The records of a tree, in preorder. -/
structure Records where
  toList : List Record
deriving DecidableEq, Repr

/-- Lifts every route out of a tree. -/
def flatten (forest : List Node) : Except RouteError Records :=
  (Record.addNodes [] none forest).map Records.mk

namespace Record

/-- The first record with an id, among records in preorder. -/
def find (records : List Record) (id : String) : Except RouteError Record :=
  match records.find? (·.id = id) with
  | some record => .ok record
  | none => .error (.unknownRoute id)

/-- A record and the chain of its ancestors, nearest first, found by walking
towards the front of the list; the list is given last record first. -/
def chain : List Record → String → Except RouteError (List Record)
  | [], id => .error (.unknownRoute id)
  | record :: earlier, id =>
      if record.id = id then
        match record.parentId with
        | none => .ok [record]
        | some parent => (chain earlier parent).map (record :: ·)
      else chain earlier id

end Record

namespace Records

def get? (records : Records) (id : String) : Option Record :=
  records.toList.find? (·.id = id)

/-- Looks a record up, failing for an unknown id. -/
def get (records : Records) (id : String) : Except RouteError Record :=
  Record.find records.toList id

def contains (records : Records) (id : String) : Bool :=
  (records.get? id).isSome

def ids (records : Records) : List String := records.toList.map Record.id

/-- The records without a parent. -/
def roots (records : Records) : List Record :=
  records.toList.filter Record.isRoot

/-- The records of the immediate children, in the order of the author. -/
def children (records : Records) (id : String) : Except RouteError (List Record) :=
  (records.get id).bind fun record => record.childIds.mapM records.get

/-- The ancestors of a route, nearest first. -/
def ancestors (records : Records) (id : String) : Except RouteError (List Record) :=
  (Record.chain records.toList.reverse id).map List.tail

end Records

end RouteTree
