import RouteTree.Tree.Record

/-!
# Chains of routes

The routes that are on screen together form a chain: it starts at the top of
the tree and leads from each route to one of its children. What a route
contributes to a chain, its concrete paths and its parameters, can be read off
the route itself.
-/

namespace RouteTree

namespace Node

/-- What holds of a route whenever it holds of its children holds of all routes. -/
theorem induction {motive : Node → Prop}
    (step : ∀ node, (∀ child ∈ node.children, motive child) → motive node) :
    ∀ node, motive node
  | ⟨id, path, index, children⟩ =>
      step ⟨id, path, index, children⟩ fun child _member => induction step child
termination_by node => sizeOf node
decreasing_by
  have smaller : sizeOf child < sizeOf children := List.sizeOf_lt_of_mem _member
  rw [mk.sizeOf_spec]
  omega

/-- The pieces of the pattern of a route, read one by one. -/
def segments (node : Node) : List Segment :=
  match node.path with
  | none => []
  | some pattern => (Text.cutAtSlashes pattern).map Segment.ofText

theorem mem_segments_iff {node : Node} {segment : Segment} :
    segment ∈ node.segments ↔
      ∃ pattern, node.path = some pattern ∧
        ∃ piece ∈ Text.cutAtSlashes pattern, Segment.ofText piece = segment := by
  rw [segments]
  cases node.path <;> simp

def shape (node : Node) : Params.Shape :=
  Params.ofSegments node.segments

def paths (node : Node) : List String :=
  match node.path with
  | none => []
  | some pattern => concretePaths pattern

theorem mem_paths_iff {node : Node} {path : String} :
    path ∈ node.paths ↔ ∃ pattern, node.path = some pattern ∧ path ∈ concretePaths pattern := by
  rw [paths]
  cases node.path <;> simp

/-- The record of a route whose pattern can be read. -/
def record (parentId : Option String) (node : Node) : Record where
  id := node.id
  path := node.path
  paths := node.paths
  index := node.index
  parentId := parentId
  childIds := node.children.map Node.id
  params := node.shape

section Record

variable (parentId : Option String) (node : Node)

@[simp]
theorem record_id : (node.record parentId).id = node.id := rfl

@[simp]
theorem record_path : (node.record parentId).path = node.path := rfl

@[simp]
theorem record_paths : (node.record parentId).paths = node.paths := rfl

@[simp]
theorem record_parentId : (node.record parentId).parentId = parentId := rfl

@[simp]
theorem record_childIds :
    (node.record parentId).childIds = node.children.map Node.id := rfl

@[simp]
theorem record_params : (node.record parentId).params = node.shape := rfl

end Record

/-- The route without what is below it. -/
def alone (node : Node) : Node :=
  { node with children := [] }

@[simp]
theorem alone_id (node : Node) : node.alone.id = node.id := rfl

theorem alone_eq_iff {node other : Node} :
    node.alone = other.alone ↔
      node.id = other.id ∧ node.path = other.path ∧ node.index = other.index := by
  simp [alone]

@[simp]
theorem shape_alone (node : Node) : node.alone.shape = node.shape := rfl

end Node

/-! ## Reading patterns -/

theorem Pattern.ofPieces_eq_map {pieces : List String} {segments : Pattern}
    (read : Pattern.ofPieces pieces = .ok segments) :
    segments = pieces.map Segment.ofText := by
  induction pieces generalizing segments with
  | nil =>
      cases read
      rfl
  | cons piece rest ih =>
      rw [Pattern.ofPieces] at read
      split at read
      · cases read
      · split at read
        · cases read
        · cases restRead : Pattern.ofPieces rest with
          | error fault =>
              rw [restRead] at read
              cases read
          | ok others =>
              rw [restRead] at read
              cases read
              rw [List.map_cons, ih restRead]

theorem Params.ofPattern_eq_ofSegments {pattern : String} {shape : Params.Shape}
    (read : Params.ofPattern pattern = .ok shape) :
    shape = Params.ofSegments ((Text.cutAtSlashes pattern).map Segment.ofText) := by
  rw [Params.ofPattern, Pattern.parse] at read
  by_cases empty : pattern.isEmpty
  · rw [if_pos empty] at read
    cases read
    rw [String.isEmpty_iff.mp empty]
    rfl
  · rw [if_neg empty] at read
    cases segmentsRead : Pattern.ofPieces (Text.cutAtSlashes pattern) with
    | error fault =>
        rw [segmentsRead] at read
        cases read
    | ok segments =>
        rw [segmentsRead] at read
        cases read
        rw [Pattern.ofPieces_eq_map segmentsRead]

theorem Record.ofNode_eq_record {parentId : Option String} {node : Node} {record : Record}
    (made : Record.ofNode parentId node = .ok record) : record = node.record parentId := by
  obtain ⟨id, path, index, children⟩ := node
  cases path with
  | none =>
      cases made
      rfl
  | some pattern =>
      simp only [Record.ofNode] at made
      cases read : Params.ofPattern pattern with
      | error failure =>
          rw [read] at made
          cases made
      | ok shape =>
          rw [read] at made
          cases made
          rw [Params.ofPattern_eq_ofSegments read]
          rfl

/-! ## Chains -/

/-- The chain starts at one of the siblings and leads from each route to one of
its children. -/
def Descends : List Node → List Node → Prop
  | _, [] => True
  | siblings, node :: below => node ∈ siblings ∧ Descends node.children below

theorem descends_singleton {siblings : List Node} {node : Node} :
    Descends siblings [node] ↔ node ∈ siblings := by
  simp [Descends]

/-- A chain through a route is a chain to the route, continued below it. -/
theorem descends_append_cons {siblings above below : List Node} {node : Node} :
    Descends siblings (above ++ node :: below) ↔
      Descends siblings (above ++ [node]) ∧ Descends node.children below := by
  induction above generalizing siblings with
  | nil => simp [Descends]
  | cons first rest ih =>
      simp only [List.cons_append, Descends, ih, and_assoc]

theorem descends_append_iff {siblings above below : List Node} {node : Node} :
    Descends siblings ((above ++ [node]) ++ below) ↔
      Descends siblings (above ++ [node]) ∧ Descends node.children below := by
  rw [List.append_assoc, List.singleton_append, descends_append_cons]

theorem exists_descends_iff (siblings : List Node) (holds : List Node → Prop) :
    (∃ chain, Descends siblings chain ∧ holds chain) ↔
      holds [] ∨
        ∃ node ∈ siblings, ∃ below, Descends node.children below ∧ holds (node :: below) := by
  constructor
  · rintro ⟨chain, inside, held⟩
    cases chain with
    | nil => exact Or.inl held
    | cons node below => exact Or.inr ⟨node, inside.1, below, inside.2, held⟩
  · rintro (held | ⟨node, member, below, inside, held⟩)
    · exact ⟨[], trivial, held⟩
    · exact ⟨node :: below, ⟨member, inside⟩, held⟩

theorem Descends.of_append {siblings above below : List Node}
    (inside : Descends siblings (above ++ below)) : Descends siblings above := by
  induction above generalizing siblings with
  | nil => trivial
  | cons node rest ih => exact ⟨inside.1, ih inside.2⟩

/-- More siblings leave the chains that there are. -/
theorem Descends.of_subset {siblings others chain : List Node}
    (inside : Descends siblings chain) (contained : siblings ⊆ others) :
    Descends others chain := by
  cases chain with
  | nil => trivial
  | cons first below => exact ⟨contained inside.1, inside.2⟩

/-- The last route of a chain that goes on from a given route. -/
theorem exists_concat_of_cons (above : List Node) (node : Node) (below : List Node) :
    ∃ up last, above ++ node :: below = up ++ [last] := by
  rcases List.eq_nil_or_concat (above ++ node :: below) with empty | ⟨up, last, split⟩
  · cases above <;> cases empty
  · exact ⟨up, last, by rw [split, List.concat_eq_append]⟩

theorem Descends.of_mem {siblings chain : List Node} {node : Node}
    (inside : Descends siblings chain) (member : node ∈ chain) :
    ∃ above, Descends siblings (above ++ [node]) := by
  obtain ⟨above, below, rfl⟩ := List.mem_iff_append.mp member
  exact ⟨above, (descends_append_cons.mp inside).1⟩

/-- What holds of the last route of every chain holds all along a chain. -/
theorem Descends.forall_mem {siblings chain : List Node} {holds : Node → Prop}
    (inside : Descends siblings chain)
    (everywhere : ∀ above node, Descends siblings (above ++ [node]) → holds node) :
    ∀ node ∈ chain, holds node := by
  intro node member
  obtain ⟨above, nodeInside⟩ := inside.of_mem member
  exact everywhere above node nodeInside

theorem Descends.append_child {siblings above : List Node} {node child : Node}
    (inside : Descends siblings (above ++ [node])) (member : child ∈ node.children) :
    Descends siblings ((above ++ [node]) ++ [child]) := by
  exact descends_append_iff.mpr ⟨inside, descends_singleton.mpr member⟩

/-! ## Choices along a chain -/

/-- One of the paths of every route on the chain that has a path at all, in the
order of the chain. -/
inductive Chosen (paths : Node → List String) : List Node → List String → Prop
  | nil : Chosen paths [] []
  | pathless {node : Node} {below : List Node} {pieces : List String} :
      node.path = none → Chosen paths below pieces → Chosen paths (node :: below) pieces
  | path {node : Node} {below : List Node} {piece : String} {pieces : List String} :
      node.path.isSome → piece ∈ paths node → Chosen paths below pieces →
      Chosen paths (node :: below) (piece :: pieces)

namespace Chosen

variable {paths : Node → List String} {above below : List Node} {pieces : List String}

theorem append {first second : List String} (upper : Chosen paths above first)
    (lower : Chosen paths below second) : Chosen paths (above ++ below) (first ++ second) := by
  induction upper with
  | nil => exact lower
  | pathless absent _ ih => exact .pathless absent ih
  | path present member _ ih => exact .path present member ih

theorem exists_of_append (chosen : Chosen paths (above ++ below) pieces) :
    ∃ first second, pieces = first ++ second ∧ Chosen paths above first ∧
      Chosen paths below second := by
  induction above generalizing pieces with
  | nil => exact ⟨[], pieces, rfl, .nil, chosen⟩
  | cons node rest ih =>
      cases chosen with
      | pathless absent chosen =>
          obtain ⟨first, second, rfl, upper, lower⟩ := ih chosen
          exact ⟨first, second, rfl, .pathless absent upper, lower⟩
      | path present member chosen =>
          obtain ⟨first, second, rfl, upper, lower⟩ := ih chosen
          exact ⟨_ :: first, second, rfl, .path present member upper, lower⟩

theorem pieces_eq_nil {chain : List Node} (chosen : Chosen paths chain pieces)
    (pathless : ∀ node ∈ chain, node.path = none) : pieces = [] := by
  induction chosen with
  | nil => rfl
  | pathless _ _ ih => exact ih fun node member => pathless node (List.mem_cons_of_mem _ member)
  | path present _ _ _ => simp [pathless _ List.mem_cons_self] at present

theorem exists_node_of_mem {chain : List Node} (chosen : Chosen paths chain pieces)
    {piece : String} (member : piece ∈ pieces) : ∃ node ∈ chain, piece ∈ paths node := by
  induction chosen with
  | nil => cases member
  | @pathless first _ _ _ _ ih =>
      obtain ⟨node, nodeMember, listed⟩ := ih member
      exact ⟨node, List.mem_cons_of_mem first nodeMember, listed⟩
  | @path first _ _ _ _ pieceMember _ ih =>
      rcases List.mem_cons.mp member with rfl | member
      · exact ⟨first, List.mem_cons_self, pieceMember⟩
      · obtain ⟨node, nodeMember, listed⟩ := ih member
        exact ⟨node, List.mem_cons_of_mem first nodeMember, listed⟩

theorem exists_piece_of_mem {chain : List Node} (chosen : Chosen paths chain pieces) {node : Node}
    (member : node ∈ chain) (present : node.path.isSome) : ∃ piece ∈ pieces, piece ∈ paths node := by
  induction chosen with
  | nil => cases member
  | pathless absent _ ih =>
      rcases List.mem_cons.mp member with rfl | member
      · simp [absent] at present
      · exact ih member
  | @path _ _ piece _ _ pieceMember _ ih =>
      rcases List.mem_cons.mp member with rfl | member
      · exact ⟨piece, List.mem_cons_self, pieceMember⟩
      · obtain ⟨other, otherMember, listed⟩ := ih member
        exact ⟨other, List.mem_cons_of_mem piece otherMember, listed⟩

/-- The routes after the last one with a path do not count. -/
theorem exists_last {chain : List Node} (chosen : Chosen paths chain pieces)
    (present : ∃ route ∈ chain, route.path.isSome) :
    ∃ above node below, chain = above ++ node :: below ∧ node.path.isSome ∧
      Chosen paths (above ++ [node]) pieces := by
  induction chosen with
  | nil =>
      obtain ⟨route, member, _⟩ := present
      cases member
  | @pathless first rest _ absent _ ih =>
      have later : ∃ route ∈ rest, route.path.isSome := by
        simpa [absent] using present
      obtain ⟨above, node, below, rfl, nodePresent, chosen⟩ := ih later
      exact ⟨first :: above, node, below, rfl, nodePresent, .pathless absent chosen⟩
  | @path first rest _ _ firstPresent pieceMember chosen ih =>
      by_cases later : ∃ route ∈ rest, route.path.isSome
      · obtain ⟨above, node, below, rfl, nodePresent, chosen⟩ := ih later
        exact ⟨first :: above, node, below, rfl, nodePresent,
          .path firstPresent pieceMember chosen⟩
      · have pathless : ∀ route ∈ rest, route.path = none := by
          simpa using later
        rw [chosen.pieces_eq_nil pathless]
        exact ⟨[], first, rest, rfl, firstPresent, .path firstPresent pieceMember .nil⟩

private theorem imp_congr {others : Node → List String} {chain : List Node}
    (same : ∀ node ∈ chain, paths node = others node) (chosen : Chosen paths chain pieces) :
    Chosen others chain pieces := by
  induction chosen with
  | nil => exact .nil
  | pathless absent _ ih =>
      exact .pathless absent (ih fun node member => same node (List.mem_cons_of_mem _ member))
  | path present member _ ih =>
      rw [same _ List.mem_cons_self] at member
      exact .path present member
        (ih fun node member => same node (List.mem_cons_of_mem _ member))

theorem congr {others : Node → List String} {chain : List Node}
    (same : ∀ node ∈ chain, paths node = others node) :
    Chosen paths chain pieces ↔ Chosen others chain pieces :=
  ⟨imp_congr same, imp_congr fun node member => (same node member).symm⟩

end Chosen

end RouteTree
