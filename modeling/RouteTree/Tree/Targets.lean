import RouteTree.Tree.Hops

/-!
# Navigation targets

The texts by which one route can lead to another: absolute paths from the top
of the tree, paths relative to the routes above, and paths relative to the
route itself.
-/

namespace RouteTree

namespace Record

/-- Continues every start by every concrete path of the route; a route without
a path leaves the starts as they are. -/
def extend (record : Record) (starts : List String) : List String :=
  match record.path with
  | none => starts
  | some _ => starts.flatMap fun start => record.paths.map (Text.joinPaths start)

/-- The targets below a route, continued from the given starts. Children stand
later in preorder, so the walk only looks at the records that are left. -/
def targetsBelow : List Record → String → List String → Except RouteError (List String)
  | [], id, _ => .error (.unknownRoute id)
  | record :: later, id, starts =>
      if record.id = id then
        (record.childIds.mapM fun childId =>
          (find later childId).bind fun child =>
            let reached := child.extend starts
            (targetsBelow later childId reached).map
              (reached.filter (!·.isEmpty) ++ ·)).map List.flatten
      else targetsBelow later id starts

/-- The absolute targets of a subtree whose ancestors have no path. -/
def absoluteTargets : List Record → String → Except RouteError (List String)
  | [], id => .error (.unknownRoute id)
  | record :: later, id =>
      if record.id = id then
        match record.path with
        | none => (record.childIds.mapM (absoluteTargets later)).map List.flatten
        | some _ =>
            (targetsBelow (record :: later) id record.paths).map fun below =>
              (record.paths ++ below).map ("/" ++ ·)
      else absoluteTargets later id

end Record

namespace Records

/-- The targets below a route, relative to given starts. -/
def descendantTargets (records : Records) (id : String) (starts : List String) :
    Except RouteError (SortedSet String) :=
  (Record.targetsBelow records.toList id starts).map SortedSet.ofList

/-- One hop and everything below the route that it leads to. -/
def hopTargets (records : Records) (hop : String × Record) :
    Except RouteError (List String) :=
  (Record.targetsBelow records.toList hop.2.id [hop.1]).map (hop.1 :: ·)

/-- The targets reached by climbing. -/
def ancestorTargets (records : Records) (id : String) :
    Except RouteError (SortedSet String) :=
  (records.get id).bind fun _ =>
    ((Hops.start records id).toList.mapM records.hopTargets).map fun found =>
      SortedSet.ofList found.flatten

/-- The absolute targets of the whole tree. -/
def absoluteTargets (records : Records) : Except RouteError (SortedSet String) :=
  (records.roots.mapM fun root => Record.absoluteTargets records.toList root.id).map
    fun found => SortedSet.ofList found.flatten

/-- The route from which relative targets count: an index route renders at the
URL of its parent. -/
def anchor (record : Record) : String :=
  match record.index, record.parentId with
  | true, some parent => parent
  | _, _ => record.id

/-- Every target that a route may lead to. -/
def targets (records : Records) (id : String) : Except RouteError (SortedSet String) :=
  (records.get id).bind fun record =>
    records.absoluteTargets.bind fun absolute =>
      (records.ancestorTargets (anchor record)).bind fun above =>
        (records.descendantTargets (anchor record) [""]).map fun below =>
          absolute ∪ above ∪ below

end Records

end RouteTree
