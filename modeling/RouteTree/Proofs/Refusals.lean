import RouteTree.Proofs.Acceptance
import RouteTree.Proofs.Faults

/-!
# Refused trees

A tree is checked in two passes over its preorder. The first looks at the index
routes alone and sees the whole tree before the second starts; the second
reads the pattern of each route and then compares its id with the earlier
ones. Each pass stops at the first route that it refuses, so the error of a
tree with many faults can be told from the preorder.
-/

namespace RouteTree

namespace Description

mutual

/-- The route that a description stands for below a parent, whether or not the
tree is accepted. -/
def toNode (parentId : Option String) : Description → Node
  | ⟨explicit, path, index, children⟩ =>
      let trimmed := path.map Text.trimSlashes
      let id := routeId explicit trimmed index parentId
      ⟨id, trimmed, index, toNodes (some id) children⟩

def toNodes (parentId : Option String) : List Description → List Node
  | [] => []
  | first :: rest => toNode parentId first :: toNodes parentId rest

end

theorem isEmpty_toNodes (parentId : Option String) (descriptions : List Description) :
    (toNodes parentId descriptions).isEmpty = descriptions.isEmpty := by
  cases descriptions <;> rfl

end Description

/-- The routes of a tree in preorder, each with the id of its parent. -/
def placesOf (descriptions : List Description) : List (Option String × Node) :=
  Node.preorders none (Description.toNodes none descriptions)

/-! ## Index routes -/

namespace Node

/-- An index route has neither a path nor children. -/
def Proper (node : Node) : Prop :=
  node.index → node.path = none ∧ node.children = []

/-- What an index route has too much. Its children only count if it has no path. -/
inductive Exceeds (node : Node) : IndexExcess → Prop
  | path : node.index → node.path.isSome → node.Exceeds .path
  | children : node.index → node.path = none → node.children ≠ [] → node.Exceeds .children

/-- Refuses an index route that has something too much. -/
def checkIndex (node : Node) : Except RouteError Unit :=
  if node.index && node.path.isSome then .error (.indexRoute node.id .path)
  else if node.index && !node.children.isEmpty then .error (.indexRoute node.id .children)
  else .ok ()

theorem checkIndex_eq_ok_iff {node : Node} : node.checkIndex = .ok () ↔ node.Proper := by
  rw [checkIndex, Proper]
  cases index : node.index with
  | false => simp
  | true =>
      cases path : node.path with
      | some pattern => simp
      | none => simp [List.isEmpty_eq_false_iff]

theorem checkIndex_eq_error_iff {node : Node} {error : RouteError} :
    node.checkIndex = .error error ↔
      ∃ excess, node.Exceeds excess ∧ error = .indexRoute node.id excess := by
  constructor
  · intro refused
    rw [checkIndex] at refused
    by_cases withPath : node.index && node.path.isSome
    · rw [if_pos withPath] at refused
      cases refused
      rw [Bool.and_eq_true] at withPath
      exact ⟨.path, .path withPath.1 withPath.2, rfl⟩
    · rw [if_neg withPath] at refused
      by_cases withChildren : node.index && !node.children.isEmpty
      · rw [if_pos withChildren] at refused
        cases refused
        rw [Bool.and_eq_true] at withChildren
        have absent : node.path = none := by
          simpa [withChildren.1] using withPath
        exact ⟨.children, .children withChildren.1 absent (by simpa using withChildren.2), rfl⟩
      · rw [if_neg withChildren] at refused
        cases refused
  · rintro ⟨excess, exceeds, rfl⟩
    cases exceeds with
    | path index present => simp [checkIndex, index, present]
    | children index absent present => simp [checkIndex, index, absent, present]

/-- Checks routes in order, up to the first that is refused. -/
def checkIndexes (places : List (Option String × Node)) : Except RouteError Unit :=
  places.foldlM (fun _ place => place.2.checkIndex) ()

theorem checkIndexes_cons (place : Option String × Node) (rest : List (Option String × Node)) :
    checkIndexes (place :: rest) = place.2.checkIndex.bind fun _ => checkIndexes rest := by
  rw [checkIndexes, List.foldlM_cons]
  rfl

theorem checkIndexes_append (first second : List (Option String × Node)) :
    checkIndexes (first ++ second) = (checkIndexes first).bind fun _ => checkIndexes second := by
  rw [checkIndexes, List.foldlM_append]
  rfl

mutual

/-- Normalizing fails only as the check of the routes in preorder does. -/
theorem ofDescription_eq_checkIndexes :
    ∀ (description : Description) (parentId : Option String),
      ofDescription parentId description =
        (checkIndexes ((description.toNode parentId).preorder parentId)).map fun _ =>
          description.toNode parentId
  | ⟨explicit, path, index, children⟩, parentId => by
      simp only [ofDescription, Description.toNode, preorder, checkIndexes_cons, checkIndex,
        ofDescriptions_eq_checkIndexes children, Description.isEmpty_toNodes]
      split
      · rfl
      · split
        · rfl
        · simp only [Except.bind]
          cases checkIndexes _ <;> rfl

theorem ofDescriptions_eq_checkIndexes :
    ∀ (descriptions : List Description) (parentId : Option String),
      ofDescriptions parentId descriptions =
        (checkIndexes (preorders parentId (Description.toNodes parentId descriptions))).map
          fun _ => Description.toNodes parentId descriptions
  | [], parentId => by
      simp [ofDescriptions, Description.toNodes, preorders, checkIndexes, pure, Except.pure,
        Except.map]
  | first :: rest, parentId => by
      simp only [ofDescriptions, Description.toNodes, preorders, checkIndexes_append,
        ofDescription_eq_checkIndexes first, ofDescriptions_eq_checkIndexes rest]
      cases checkIndexes ((first.toNode parentId).preorder parentId) with
      | error failure => rfl
      | ok passed =>
          simp only [Except.map, Except.bind]
          cases checkIndexes (preorders parentId (Description.toNodes parentId rest)) <;> rfl

end

end Node

/-- The error of the first index route with something too much. -/
def FirstExcess (places : List (Option String × Node)) (error : RouteError) : Prop :=
  ∃ before place after, places = before ++ place :: after ∧
    (∀ other ∈ before, other.2.Proper) ∧
    ∃ excess, place.2.Exceeds excess ∧ error = .indexRoute place.2.id excess

theorem normalize_eq_ok_iff {descriptions : List Description} {forest : List Node} :
    normalize descriptions = .ok forest ↔
      (∀ place ∈ placesOf descriptions, place.2.Proper) ∧
        forest = Description.toNodes none descriptions := by
  have allProper : Node.checkIndexes (placesOf descriptions) = .ok () ↔
      ∀ place ∈ placesOf descriptions, place.2.Proper := by
    rw [Node.checkIndexes, foldlM_check_eq_ok_iff]
    simp only [Node.checkIndex_eq_ok_iff]
  rw [normalize, Node.ofDescriptions_eq_checkIndexes, ← placesOf, ← allProper, map_eq_ok_iff]
  constructor
  · rintro ⟨_, passed, rfl⟩
    exact ⟨passed, rfl⟩
  · rintro ⟨passed, rfl⟩
    exact ⟨(), passed, rfl⟩

theorem normalize_eq_error_iff {descriptions : List Description} {error : RouteError} :
    normalize descriptions = .error error ↔ FirstExcess (placesOf descriptions) error := by
  rw [normalize, Node.ofDescriptions_eq_checkIndexes, ← placesOf, map_eq_error_iff,
    Node.checkIndexes, foldlM_eq_error_iff]
  constructor
  · rintro ⟨before, place, after, _, split, passed, refused⟩
    have proper := foldlM_check_eq_ok_iff.mp passed
    simp only [Node.checkIndex_eq_ok_iff] at proper
    exact ⟨before, place, after, split, proper, Node.checkIndex_eq_error_iff.mp refused⟩
  · rintro ⟨before, place, after, split, proper, excess⟩
    have passed : before.foldlM (fun _ place => place.2.checkIndex) () = .ok () := by
      apply foldlM_check_eq_ok_iff.mpr
      intro other member
      exact Node.checkIndex_eq_ok_iff.mpr (proper other member)
    exact ⟨before, place, after, (), split, passed, Node.checkIndex_eq_error_iff.mpr excess⟩

/-! ## Patterns and ids -/

/-- What a route is refused for when the ids are taken: its pattern for its first
faulty piece, or its id, but only if the pattern can be read. -/
inductive Node.RefusedFor (node : Node) (taken : List String) : RouteError → Prop
  | pattern {pattern : String} {fault : PatternFault} : node.path = some pattern →
      Pattern.FirstFault (Text.cutAtSlashes pattern) fault →
      node.RefusedFor taken (.invalidPattern pattern fault)
  | id : node.Readable → node.id ∈ taken → node.RefusedFor taken (.duplicateId node.id)

theorem Record.ofNode_eq_error_iff {parentId : Option String} {node : Node}
    {error : RouteError} :
    ofNode parentId node = .error error ↔
      ∃ pattern fault, node.path = some pattern ∧
        Pattern.FirstFault (Text.cutAtSlashes pattern) fault ∧
        error = .invalidPattern pattern fault := by
  rw [ofNode]
  cases path : node.path with
  | none => simp
  | some pattern =>
      simp only [map_eq_error_iff, Params.ofPattern, Pattern.parse_eq_error_iff]
      simp

theorem Record.addPlace_eq_error_iff {known : List Record} {place : Option String × Node}
    {error : RouteError} :
    addPlace known place = .error error ↔
      place.2.RefusedFor (known.map Record.id) error := by
  have taken : known.any (·.id = place.2.id) ↔ place.2.id ∈ known.map Record.id := by
    simp [List.any_eq_true]
  rw [addPlace]
  cases made : ofNode place.1 place.2 with
  | error failure =>
      obtain ⟨pattern, fault, path, first, rfl⟩ := ofNode_eq_error_iff.mp made
      constructor
      · intro refused
        cases refused
        exact .pattern path first
      · intro refused
        cases refused with
        | pattern otherPath otherFirst =>
            have same : ofNode place.1 place.2 = _ :=
              ofNode_eq_error_iff.mpr ⟨_, _, otherPath, otherFirst, rfl⟩
            rw [made] at same
            exact same.symm ▸ rfl
        | id readable _ =>
            rw [ofNode_eq_ok_iff.mpr ⟨readable, rfl⟩] at made
            cases made
  | ok record =>
      obtain ⟨readable, _⟩ := ofNode_eq_ok_iff.mp made
      simp only [Except.bind]
      constructor
      · intro refused
        by_cases member : place.2.id ∈ known.map Record.id
        · rw [if_pos (taken.mpr member)] at refused
          cases refused
          exact .id readable member
        · rw [if_neg (mt taken.mp member)] at refused
          cases refused
      · intro refused
        cases refused with
        | pattern path first =>
            have failed : ofNode place.1 place.2 = _ :=
              ofNode_eq_error_iff.mpr ⟨_, _, path, first, rfl⟩
            rw [made] at failed
            cases failed
        | id _ member => rw [if_pos (taken.mpr member)]

/-- The error of the first route whose pattern cannot be read, or whose id has
occurred before. -/
def FirstRefusal (places : List (Option String × Node)) (error : RouteError) : Prop :=
  ∃ before place after, places = before ++ place :: after ∧
    (∀ other ∈ before, other.2.Readable) ∧ (before.map (·.2.id)).Nodup ∧
    place.2.RefusedFor (before.map (·.2.id)) error

theorem flatten_eq_error_iff {forest : List Node} {error : RouteError} :
    flatten forest = .error error ↔ FirstRefusal (Node.preorders none forest) error := by
  have sameIds : ∀ before : List (Option String × Node),
      (([] : List Record) ++ before.map fun place => place.2.record place.1).map Record.id =
        before.map (·.2.id) := by
    simp [Function.comp_def]
  have noneKnown : (([] : List Record).map Record.id).Nodup := List.nodup_nil
  rw [flatten, Record.addNodes_eq_foldlM, map_eq_error_iff, foldlM_eq_error_iff]
  constructor
  · rintro ⟨before, place, after, known, split, added, refused⟩
    obtain ⟨readable, rfl, distinct⟩ :=
      (Record.foldlM_addPlace_eq_ok_iff noneKnown).mp added
    rw [Record.addPlace_eq_error_iff, sameIds] at refused
    rw [sameIds] at distinct
    exact ⟨before, place, after, split, readable, distinct, refused⟩
  · rintro ⟨before, place, after, split, readable, distinct, refused⟩
    rw [← sameIds] at distinct refused
    have added := (Record.foldlM_addPlace_eq_ok_iff noneKnown).mpr ⟨readable, rfl, distinct⟩
    exact ⟨before, place, after, _, split, added, Record.addPlace_eq_error_iff.mpr refused⟩

/-! ## Whole trees -/

theorem Table.ofForest_eq_ok_iff {forest : List Node} {table : Table} :
    Table.ofForest forest = .ok table ↔ table.forest = forest := by
  constructor
  · intro made
    unfold Table.ofForest at made
    split at made
    · cases made
      rfl
    · cases made
  · rintro rfl
    exact Table.ofForest_eq_ok table.flatten_forest

theorem Table.ofForest_eq_error_iff {forest : List Node} {error : RouteError} :
    Table.ofForest forest = .error error ↔ flatten forest = .error error := by
  unfold Table.ofForest
  split
  · rename_i found accepted
    simp [accepted]
  · rename_i failure refused
    simp [refused]

section Described

variable {descriptions : List Description}

theorem Table.ofDescriptions_eq_ok_iff {table : Table} :
    Table.ofDescriptions descriptions = .ok table ↔
      (∀ place ∈ placesOf descriptions, place.2.Proper) ∧
        table.forest = Description.toNodes none descriptions := by
  rw [Table.ofDescriptions]
  constructor
  · intro made
    cases normalized : normalize descriptions with
    | error failure =>
        rw [normalized] at made
        cases made
    | ok forest =>
        obtain ⟨proper, rfl⟩ := normalize_eq_ok_iff.mp normalized
        rw [normalized] at made
        exact ⟨proper, Table.ofForest_eq_ok_iff.mp made⟩
  · rintro ⟨proper, same⟩
    rw [normalize_eq_ok_iff.mpr ⟨proper, rfl⟩]
    exact Table.ofForest_eq_ok_iff.mpr same

theorem Table.ofDescriptions_eq_error_iff {error : RouteError} :
    Table.ofDescriptions descriptions = .error error ↔
      FirstExcess (placesOf descriptions) error ∨
        (∀ place ∈ placesOf descriptions, place.2.Proper) ∧
          FirstRefusal (placesOf descriptions) error := by
  rw [Table.ofDescriptions, ← normalize_eq_error_iff]
  cases normalized : normalize descriptions with
  | error failure =>
      have improper : ¬ ∀ place ∈ placesOf descriptions, place.2.Proper := by
        intro proper
        rw [normalize_eq_ok_iff.mpr ⟨proper, rfl⟩] at normalized
        cases normalized
      have noSecond : ¬ ((∀ place ∈ placesOf descriptions, place.2.Proper) ∧
          FirstRefusal (placesOf descriptions) error) := fun second => improper second.1
      rw [or_iff_left noSecond]
      simp only [Except.bind, Except.error.injEq]
  | ok forest =>
      obtain ⟨proper, rfl⟩ := normalize_eq_ok_iff.mp normalized
      have refused : Table.ofForest (Description.toNodes none descriptions) = .error error ↔
          FirstRefusal (placesOf descriptions) error := by
        rw [Table.ofForest_eq_error_iff, flatten_eq_error_iff, placesOf]
      rw [and_iff_right proper, ← refused]
      simp only [Except.bind, reduceCtorEq, false_or]

theorem Table.answered_ofDescriptions_iff :
    Answered (Table.ofDescriptions descriptions) ↔
      (∀ place ∈ placesOf descriptions, place.2.Proper) ∧
        ∃ records, flatten (Description.toNodes none descriptions) = .ok records := by
  simp only [Answered, Table.ofDescriptions_eq_ok_iff, exists_and_left]
  refine and_congr_right fun _ => ?_
  constructor
  · rintro ⟨table, same⟩
    rw [← same]
    exact ⟨table.records, table.flatten_forest⟩
  · rintro ⟨records, flattened⟩
    exact ⟨⟨_, records, flattened⟩, rfl⟩

/-- The routes are accepted: index routes have nothing too much, every pattern can
be read, and no id comes twice. -/
structure Acceptable (places : List (Option String × Node)) : Prop where
  proper : ∀ place ∈ places, place.2.Proper
  readable : ∀ place ∈ places, place.2.Readable
  distinct : (places.map (·.2.id)).Nodup

theorem acceptable_iff_exists_flatten :
    Acceptable (placesOf descriptions) ↔
      (∀ place ∈ placesOf descriptions, place.2.Proper) ∧
        ∃ records, flatten (Description.toNodes none descriptions) = .ok records := by
  rw [exists_flatten_iff, Node.singles, List.forall_mem_map, List.map_map]
  constructor
  · rintro ⟨proper, readable, distinct⟩
    exact ⟨proper, readable, distinct⟩
  · rintro ⟨proper, readable, distinct⟩
    exact ⟨proper, readable, distinct⟩

end Described

/-- A tree makes a table exactly if it is acceptable. The error of any other tree is
that of the first index route with something too much, wherever it stands;
without one it is that of the first route whose pattern cannot be read or whose
id is taken. -/
theorem ofDescriptions_outcome (descriptions : List Description) :
    (Answered (Table.ofDescriptions descriptions) ↔ Acceptable (placesOf descriptions)) ∧
      ∀ error, Table.ofDescriptions descriptions = .error error ↔
        FirstExcess (placesOf descriptions) error ∨
          (∀ place ∈ placesOf descriptions, place.2.Proper) ∧
            FirstRefusal (placesOf descriptions) error := by
  refine ⟨?_, fun error => Table.ofDescriptions_eq_error_iff⟩
  rw [acceptable_iff_exists_flatten, Table.answered_ofDescriptions_iff]

namespace Sample

/-- A pattern that cannot be read stands before an index route with a child. -/
def twoFaults : List Description :=
  [Description.ofPath "*/a", { path := some "x", children :=
    [{ index := true, children := [Description.layout] }] }]

/-- The second route repeats the id of the first, under a pattern without a name. -/
def twoFaultsAtOnce : List Description :=
  [(Description.ofPath "x").withId "a", (Description.ofPath "/:/y/").withId "a"]

end Sample

/-- An index route is refused before an earlier pattern, and of two faults at one
route the pattern is reported, without its outer slashes. -/
theorem refusals_in_order :
    Table.ofDescriptions Sample.twoFaults = .error (.indexRoute "/x/_index" .children) ∧
      Table.ofDescriptions Sample.twoFaultsAtOnce =
        .error (.invalidPattern ":/y" .unnamedParam) ∧
      Answered (Table.ofDescriptions [Description.layout, Description.indexRoute]) := by
  have indexPlaces : placesOf Sample.twoFaults =
      [(none, ⟨"/*/a", some "*/a", false, []⟩)] ++ [(none, ⟨"/x", some "x", false,
        [⟨"/x/_index", none, true, [⟨"/x/_index/_", none, false, []⟩]⟩]⟩)] ++
        (some "/x", ⟨"/x/_index", none, true, [⟨"/x/_index/_", none, false, []⟩]⟩) ::
        [(some "/x/_index", ⟨"/x/_index/_", none, false, []⟩)] := by rfl
  have patternPlaces : placesOf Sample.twoFaultsAtOnce =
      [(none, ⟨"a", some "x", false, []⟩)] ++
        (none, ⟨"a", some ":/y", false, []⟩) :: [] := by rfl
  have plainPlaces : placesOf [Description.layout, Description.indexRoute] =
      [(none, ⟨"/_", none, false, []⟩), (none, ⟨"/_index", none, true, []⟩)] := by rfl
  refine ⟨((ofDescriptions_outcome _).2 _).mpr (Or.inl ?_),
    ((ofDescriptions_outcome _).2 _).mpr (Or.inr ⟨?_, ?_⟩), (ofDescriptions_outcome _).1.mpr ?_⟩
  · refine ⟨_, _, _, indexPlaces, ?_, .children, .children rfl rfl (by simp), rfl⟩
    simp [Node.Proper]
  · rw [patternPlaces]
    simp [Node.Proper]
  · refine ⟨_, _, _, patternPlaces, ?_, by simp, .pattern rfl ?_⟩
    · intro other member pattern path
      rw [List.mem_singleton.mp member] at path
      cases path
      exact ⟨_, rfl⟩
    · exact ⟨[], ":", ["y"], rfl, Or.inl rfl, by simp⟩
  · rw [plainPlaces]
    constructor
    · simp [Node.Proper]
    · simp [Node.Readable]
    · decide

end RouteTree
