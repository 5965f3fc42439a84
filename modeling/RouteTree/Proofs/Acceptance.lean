import RouteTree.Proofs.Legible
import RouteTree.Proofs.Representation
import RouteTree.Table

/-!
# Accepted trees

Flattening meets the routes in preorder and adds one record for each. A tree is
accepted exactly if every pattern in it can be read and no id comes twice.
-/

namespace RouteTree

namespace Node

/-- The pattern of the route, if it has one, can be read. -/
def Readable (node : Node) : Prop :=
  ∀ pattern, node.path = some pattern → ∃ segments, Pattern.parse pattern = .ok segments

/-- The routes below a route stand right after it. -/
theorem preorder_eq (parentId : Option String) (node : Node) :
    node.preorder parentId = (parentId, node) :: preorders (some node.id) node.children := by
  obtain ⟨id, path, index, children⟩ := node
  rw [preorder]

theorem preorders_append (parentId : Option String) (first second : List Node) :
    preorders parentId (first ++ second) =
      preorders parentId first ++ preorders parentId second := by
  induction first with
  | nil => rfl
  | cons node rest ih => rw [List.cons_append, preorders, ih, preorders, List.append_assoc]

theorem mem_preorders_cons_iff {parentId : Option String} {first : Node} {rest : List Node}
    {place : Option String × Node} :
    place ∈ preorders parentId (first :: rest) ↔
      place = (parentId, first) ∨ place ∈ preorders (some first.id) first.children ∨
        place ∈ preorders parentId rest := by
  rw [preorders, preorder_eq, List.mem_append, List.mem_cons, or_assoc]

/-- A chain into siblings ends at the first of them, below it or after it. -/
theorem exists_descends_cons_iff {first : Node} {rest : List Node} {parentId : Option String}
    {place : Option String × Node} :
    (∃ above, Descends (first :: rest) (above ++ [place.2]) ∧ place.1 = lastId parentId above) ↔
      place = (parentId, first) ∨
        (∃ above, Descends first.children (above ++ [place.2]) ∧
          place.1 = lastId (some first.id) above) ∨
        ∃ above, Descends rest (above ++ [place.2]) ∧ place.1 = lastId parentId above := by
  obtain ⟨placeId, node⟩ := place
  constructor
  · rintro ⟨above, inside, rfl⟩
    rcases descends_cons_iff.mp inside with
      ⟨rfl, rfl⟩ | ⟨others, rfl, inBelow⟩ | inRest
    · exact Or.inl rfl
    · exact Or.inr (Or.inl ⟨others, inBelow, rfl⟩)
    · exact Or.inr (Or.inr ⟨above, inRest, rfl⟩)
  · rintro (same | ⟨others, inBelow, rfl⟩ | ⟨above, inRest, rfl⟩)
    · cases same
      exact ⟨[], descends_cons_iff.mpr (Or.inl ⟨rfl, rfl⟩), rfl⟩
    · exact ⟨first :: others, descends_cons_iff.mpr (Or.inr (Or.inl ⟨others, rfl, inBelow⟩)), rfl⟩
    · exact ⟨above, descends_cons_iff.mpr (Or.inr (Or.inr inRest)), rfl⟩

/-- The preorder has a place for the last route of every chain. -/
theorem mem_preorders_iff_exists_descends {place : Option String × Node} :
    ∀ (siblings : List Node) {parentId : Option String},
      place ∈ preorders parentId siblings ↔
        ∃ above, Descends siblings (above ++ [place.2]) ∧ place.1 = lastId parentId above
  | [], parentId => by
      constructor
      · intro member
        cases member
      · rintro ⟨above, inside, _⟩
        cases above <;> cases inside.1
  | ⟨id, path, index, children⟩ :: rest, parentId => by
      rw [mem_preorders_cons_iff, exists_descends_cons_iff,
        mem_preorders_iff_exists_descends children, mem_preorders_iff_exists_descends rest]

/-- The routes of a tree, each by itself, in preorder. -/
def singles (siblings : List Node) : List Node :=
  (preorders none siblings).map fun place => place.2.alone

theorem map_alone_preorders (parentId : Option String) (siblings : List Node) :
    (preorders parentId siblings).map (fun place => place.2.alone) = singles siblings := by
  induction siblings with
  | nil => rfl
  | cons node rest ih =>
      rw [singles, preorders, preorders, List.map_append, List.map_append, ih, ← singles,
        preorder_eq, preorder_eq]
      rfl

@[simp]
theorem singles_nil : singles [] = [] := rfl

theorem singles_append (first second : List Node) :
    singles (first ++ second) = singles first ++ singles second := by
  rw [singles, preorders_append, List.map_append]
  rfl

theorem singles_cons (node : Node) (rest : List Node) :
    singles (node :: rest) = node.alone :: (singles node.children ++ singles rest) := by
  rw [singles, preorders, preorder_eq, List.map_append, List.map_cons, map_alone_preorders,
    map_alone_preorders, List.cons_append]

theorem alone_mem_singles_of_descends {siblings above : List Node} {node : Node}
    (inside : Descends siblings (above ++ [node])) : node.alone ∈ singles siblings := by
  have member : (lastId none above, node) ∈ preorders none siblings :=
    (mem_preorders_iff_exists_descends siblings).mpr ⟨above, inside, rfl⟩
  exact List.mem_map.mpr ⟨_, member, rfl⟩

theorem singles_append_cons (front : List Node) (node : Node) (back : List Node) :
    singles (front ++ node :: back) = singles front ++
      node.alone :: (singles node.children ++ singles back) := by
  rw [singles_append, singles_cons]

theorem id_mem_singles {siblings : List Node} {other : Node} (member : other ∈ siblings) :
    other.id ∈ (singles siblings).map id := by
  have inside : Descends siblings ([] ++ [other]) := descends_singleton.mpr member
  exact List.mem_map.mpr ⟨other.alone, alone_mem_singles_of_descends inside, rfl⟩

/-- The ids of the siblings of a route, and of the routes below it, are not its own. -/
theorem fresh_of_distinct {front back : List Node} {node : Node}
    (distinct : ((singles (front ++ node :: back)).map id).Nodup) :
    (∀ other ∈ front, other.id ≠ node.id) ∧ (∀ other ∈ back, other.id ≠ node.id) ∧
      ((singles node.children).map id).Nodup := by
  rw [singles_append_cons, List.map_append, List.map_cons, List.map_append, alone_id,
    List.nodup_append, List.nodup_cons, List.nodup_append] at distinct
  obtain ⟨_, ⟨nodeFresh, childrenDistinct, _⟩, frontFresh⟩ := distinct
  refine ⟨?_, ?_, childrenDistinct⟩
  · intro other member
    exact frontFresh _ (id_mem_singles member) _ List.mem_cons_self
  · intro other member same
    have inBack := id_mem_singles member
    rw [same] at inBack
    exact nodeFresh (List.mem_append_right _ inBack)

end Node

namespace Record

theorem ofNode_eq_ok_iff {parentId : Option String} {node : Node} {record : Record} :
    ofNode parentId node = .ok record ↔ node.Readable ∧ record = node.record parentId := by
  constructor
  · intro made
    refine ⟨?_, ofNode_eq_record made⟩
    intro pattern path
    rw [ofNode, path] at made
    simp only [Params.ofPattern] at made
    cases read : Pattern.parse pattern with
    | error failure =>
        rw [read] at made
        cases made
    | ok segments => exact ⟨segments, rfl⟩
  · rintro ⟨readable, rfl⟩
    have made : ∃ record, ofNode parentId node = .ok record := by
      rw [ofNode]
      cases path : node.path with
      | none => exact ⟨_, rfl⟩
      | some pattern =>
          obtain ⟨segments, read⟩ := readable pattern path
          simp only [Params.ofPattern, read]
          exact ⟨_, rfl⟩
    obtain ⟨record, made⟩ := made
    rw [made, ofNode_eq_record made]

/-- Adds the record of one route to those before it. -/
def addPlace (known : List Record) (place : Option String × Node) :
    Except RouteError (List Record) :=
  (ofNode place.1 place.2).bind fun record =>
    if known.any (·.id = place.2.id) then .error (.duplicateId place.2.id)
    else .ok (known ++ [record])

theorem addPlace_eq_ok_iff {known all : List Record} {place : Option String × Node} :
    addPlace known place = .ok all ↔
      place.2.Readable ∧ place.2.id ∉ known.map Record.id ∧
        all = known ++ [place.2.record place.1] := by
  have taken : known.any (·.id = place.2.id) ↔ place.2.id ∈ known.map Record.id := by
    simp [List.any_eq_true]
  rw [addPlace]
  cases made : ofNode place.1 place.2 with
  | error failure =>
      have unreadable : ¬ place.2.Readable := by
        intro readable
        rw [ofNode_eq_ok_iff.mpr ⟨readable, rfl⟩] at made
        cases made
      simp [Except.bind, unreadable]
  | ok record =>
      obtain ⟨readable, rfl⟩ := ofNode_eq_ok_iff.mp made
      simp only [Except.bind]
      by_cases known : place.2.id ∈ known.map Record.id
      · rw [if_pos (taken.mpr known)]
        simp [known]
      · rw [if_neg (mt taken.mp known)]
        simp [known, readable, eq_comm]

mutual

theorem addNode_eq_foldlM : ∀ (node : Node) (known : List Record) (parentId : Option String),
    addNode known parentId node = (node.preorder parentId).foldlM addPlace known
  | ⟨id, path, index, children⟩, known, parentId => by
      rw [addNode, Node.preorder, List.foldlM_cons, addPlace]
      cases ofNode parentId ⟨id, path, index, children⟩ with
      | error failure => rfl
      | ok record =>
          simp only [Except.bind]
          split
          · rfl
          · exact addNodes_eq_foldlM children (known ++ [record]) (some id)

theorem addNodes_eq_foldlM :
    ∀ (siblings : List Node) (known : List Record) (parentId : Option String),
      addNodes known parentId siblings = (Node.preorders parentId siblings).foldlM addPlace known
  | [], known, parentId => rfl
  | first :: rest, known, parentId => by
      rw [addNodes, Node.preorders, List.foldlM_append, addNode_eq_foldlM first]
      cases (first.preorder parentId).foldlM addPlace known with
      | error failure => rfl
      | ok more => exact addNodes_eq_foldlM rest more parentId

end

theorem foldlM_addPlace_eq_ok_iff {places : List (Option String × Node)}
    {known all : List Record} (distinct : (known.map Record.id).Nodup) :
    places.foldlM addPlace known = .ok all ↔
      (∀ place ∈ places, place.2.Readable) ∧
        all = known ++ places.map (fun place => place.2.record place.1) ∧
        (all.map Record.id).Nodup := by
  induction places generalizing known with
  | nil =>
      constructor
      · intro added
        cases added
        simp [distinct]
      · rintro ⟨_, rfl, _⟩
        simp [pure, Except.pure]
  | cons place rest ih =>
      rw [List.foldlM_cons]
      constructor
      · intro added
        cases firstAdded : addPlace known place with
        | error failure =>
            rw [firstAdded] at added
            cases added
        | ok more =>
            rw [firstAdded] at added
            obtain ⟨readable, fresh, rfl⟩ := addPlace_eq_ok_iff.mp firstAdded
            have moreDistinct : ((known ++ [place.2.record place.1]).map Record.id).Nodup :=
              nodup_ids_concat_iff.mpr ⟨distinct, fresh⟩
            obtain ⟨restReadable, rfl, allDistinct⟩ := (ih moreDistinct).mp added
            exact ⟨List.forall_mem_cons.mpr ⟨readable, restReadable⟩, by simp, allDistinct⟩
      · rintro ⟨readable, rfl, allDistinct⟩
        obtain ⟨firstReadable, restReadable⟩ := List.forall_mem_cons.mp readable
        have moreDistinct :
            ((known ++ [place.2.record place.1]).map Record.id).Nodup := by
          rw [List.map_cons, List.append_cons, List.map_append] at allDistinct
          exact (List.nodup_append.mp allDistinct).1
        have fresh := (nodup_ids_concat_iff.mp moreDistinct).2
        rw [addPlace_eq_ok_iff.mpr ⟨firstReadable, fresh, rfl⟩]
        exact (ih moreDistinct).mpr ⟨restReadable, by simp, allDistinct⟩

end Record

section Flattened

variable {forest : List Node} {records : Records}

theorem ids_of_flatten (flattened : flatten forest = .ok records) :
    records.ids = (Node.singles forest).map Node.id := by
  rw [Records.ids, (listing_of_flatten flattened).1.eq_map_preorders, Node.singles, List.map_map,
    List.map_map]
  rfl

/-- A tree is accepted exactly if all its patterns can be read and the ids of its
routes differ. -/
theorem exists_flatten_iff :
    (∃ records, flatten forest = .ok records) ↔
      (∀ route ∈ Node.singles forest, route.Readable) ∧
        ((Node.singles forest).map Node.id).Nodup := by
  have added : ∀ all, (Node.preorders none forest).foldlM Record.addPlace [] = .ok all ↔
      (∀ place ∈ Node.preorders none forest, place.2.Readable) ∧
        all = (Node.preorders none forest).map (fun place => place.2.record place.1) ∧
        (all.map Record.id).Nodup :=
    fun _ => Record.foldlM_addPlace_eq_ok_iff List.nodup_nil
  have sameIds : ((Node.preorders none forest).map fun place => place.2.record place.1).map
      Record.id = (Node.singles forest).map Node.id := by
    rw [Node.singles, List.map_map, List.map_map]
    rfl
  have sameReadable : (∀ route ∈ Node.singles forest, route.Readable) ↔
      ∀ place ∈ Node.preorders none forest, place.2.Readable :=
    List.forall_mem_map
  rw [sameReadable]
  simp only [flatten, Record.addNodes_eq_foldlM]
  constructor
  · rintro ⟨records, flattened⟩
    cases outcome : (Node.preorders none forest).foldlM Record.addPlace [] with
    | error failure =>
        rw [outcome] at flattened
        cases flattened
    | ok all =>
        obtain ⟨readable, rfl, distinct⟩ := (added all).mp outcome
        rw [sameIds] at distinct
        exact ⟨readable, distinct⟩
  · rintro ⟨readable, distinct⟩
    rw [← sameIds] at distinct
    rw [(added _).mpr ⟨readable, rfl, distinct⟩]
    exact ⟨_, rfl⟩

theorem readable_of_descends (flattened : flatten forest = .ok records) {above : List Node}
    {node : Node} (inside : Descends forest (above ++ [node])) : node.Readable := by
  obtain ⟨readable, _⟩ := exists_flatten_iff.mp ⟨records, flattened⟩
  exact readable node.alone (Node.alone_mem_singles_of_descends inside)

theorem Table.ofForest_eq_ok (flattened : flatten forest = .ok records) :
    Table.ofForest forest = .ok ⟨forest, records, flattened⟩ := by
  unfold Table.ofForest
  split
  · rename_i found accepted
    cases accepted.symm.trans flattened
    rfl
  · rename_i failure refused
    cases refused.symm.trans flattened

end Flattened

end RouteTree
