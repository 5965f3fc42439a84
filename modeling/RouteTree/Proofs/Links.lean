import RouteTree.Proofs.Alternatives
import RouteTree.Proofs.Filling
import RouteTree.Proofs.Hopping
import RouteTree.Proofs.Variants
import RouteTree.View.Basic

/-!
# Links between routes

The shortest absolute target of a route leaves out every optional segment. It
asks for the same parameters as the merged alternatives of the route require,
apart from the catch-all, which may stay without a value. So whoever has the
required parameters of a route can link to it from anywhere.
-/

namespace RouteTree

open Params

/-- The absolute target of a chain without any optional segment. -/
def bareTarget (chain : List Node) : String :=
  "/" ++ Text.joinPieces ((chain.filterMap Node.path).map barePattern)

/-! ## The target is listed -/

theorem chosen_barePatterns (chain : List Node) :
    Chosen Node.paths chain ((chain.filterMap Node.path).map barePattern) := by
  induction chain with
  | nil => exact .nil
  | cons node rest ih =>
      cases path : node.path with
      | none =>
          rw [List.filterMap_cons, path]
          exact .pathless path ih
      | some pattern =>
          have listed : barePattern pattern ∈ node.paths := by
            rw [Node.paths, path]
            exact barePattern_mem_concretePaths pattern
          rw [List.filterMap_cons, path]
          exact .path (by simp [path]) listed ih

theorem spells_bareTarget {chain : List Node} (present : ∃ route ∈ chain, route.path.isSome) :
    Spells chain (bareTarget chain) :=
  ⟨present, _, ⟨"", by simp, _, chosen_barePatterns chain, rfl⟩, by simp [bareTarget]⟩

/-! ## What the target asks for -/

theorem mem_solidPieces_barePattern {pattern piece : String} :
    piece ∈ Url.solidPieces (barePattern pattern) ↔
      piece ∈ Text.cutAtSlashes pattern ∧ (Segment.ofText piece).isOptional = false ∧
        piece ≠ "" := by
  have free : ∀ piece ∈ barePieces pattern, '/' ∉ piece.toList := fun piece member =>
    Text.slash_not_mem_of_mem_cutAtSlashes (List.mem_filter.mp member).1
  rw [barePattern, Url.solidPieces_joinWithSlashes free, Url.nonempty, List.mem_filter,
    barePieces, List.mem_filter, and_assoc]
  simp

theorem mem_solidPieces_bareTarget {chain : List Node} {piece : String} :
    piece ∈ Url.solidPieces (bareTarget chain) ↔
      ∃ node ∈ chain, ∃ pattern, node.path = some pattern ∧
        piece ∈ Url.solidPieces (barePattern pattern) := by
  rw [bareTarget, Url.solidPieces_slash_append, Url.solidPieces_joinPieces]
  simp only [List.mem_flatMap, List.mem_map, List.mem_filterMap]
  constructor
  · rintro ⟨_, ⟨pattern, ⟨node, member, path⟩, rfl⟩, inPattern⟩
    exact ⟨node, member, pattern, path, inPattern⟩
  · rintro ⟨node, member, pattern, path, inPattern⟩
    exact ⟨_, ⟨pattern, ⟨node, member, path⟩, rfl⟩, inPattern⟩

/-- The target has a piece for every plain parameter on the chain, and for no
other parameter. -/
theorem exists_piece_bareTarget_iff {chain : List Node} {name : String} :
    (∃ piece ∈ Url.solidPieces (bareTarget chain), Segment.ofText piece = .param name) ↔
      ∃ node ∈ chain, Segment.param name ∈ node.segments := by
  simp only [mem_solidPieces_bareTarget, mem_solidPieces_barePattern, Node.mem_segments_iff]
  constructor
  · rintro ⟨piece, ⟨node, member, pattern, path, pieceMember, _⟩, reads⟩
    exact ⟨node, member, pattern, path, piece, pieceMember, reads⟩
  · rintro ⟨node, member, pattern, path, piece, pieceMember, reads⟩
    have needed : (Segment.ofText piece).isOptional = false := by
      rw [reads]
      rfl
    have solid : piece ≠ "" := by
      rintro rfl
      cases reads
    exact ⟨piece, ⟨node, member, pattern, path, pieceMember, needed, solid⟩, reads⟩

/-- Every parameter that the target asks for is required along the chain. -/
theorem requires_of_piece {chain : List Node} {piece name : String}
    (member : piece ∈ Url.solidPieces (bareTarget chain))
    (reads : Segment.ofText piece = .param name) : (shapeAlong chain).Requires name := by
  obtain ⟨node, nodeMember, segmentMember⟩ :=
    exists_piece_bareTarget_iff.mp ⟨piece, member, reads⟩
  refine requires_shapeAlong.mpr ⟨node, nodeMember, ?_⟩
  exact Node.requires_shape.mpr
    ⟨_, segmentMember, segmentEntry?_eq_required_iff.mpr (Or.inl rfl)⟩

/-- The target asks for everything that is required along the chain, except for
the catch-all. -/
theorem exists_piece_of_requires {chain : List Node} {name : String}
    (required : (shapeAlong chain).Requires name) (named : name ≠ "*") :
    ∃ piece ∈ Url.solidPieces (bareTarget chain), Segment.ofText piece = .param name := by
  obtain ⟨node, nodeMember, nodeRequires⟩ := requires_shapeAlong.mp required
  obtain ⟨segment, segmentMember, entry⟩ := Node.requires_shape.mp nodeRequires
  rcases segmentEntry?_eq_required_iff.mp entry with rfl | ⟨_, catchAll⟩
  · exact exists_piece_bareTarget_iff.mpr ⟨node, nodeMember, segmentMember⟩
  · exact absurd catchAll named

theorem exists_build_bareTarget {chain : List Node} {filling : Url.Filling}
    (given : ∀ name, (shapeAlong chain).Requires name → filling.params.contains name) :
    ∃ url, Url.build (bareTarget chain) filling = .ok url := by
  apply Url.exists_build_eq_ok
  intro piece member name reads
  exact given name (requires_of_piece member reads)

theorem build_bareTarget_fails {chain : List Node} {filling : Url.Filling} {name : String}
    (named : name ≠ "*") (required : (shapeAlong chain).Requires name)
    (absent : filling.params.contains name = false) :
    ∃ missing, (shapeAlong chain).Requires missing ∧
      filling.params.contains missing = false ∧
      Url.build (bareTarget chain) filling = .error (.missingParam missing) := by
  obtain ⟨piece, member, reads⟩ := exists_piece_of_requires required named
  have unfilled : ¬ Url.Filled filling.params piece := by
    intro filled
    have given := filled name reads
    rw [absent] at given
    cases given
  obtain ⟨first, firstMember, missing, firstReads, firstAbsent, fails⟩ :=
    Url.exists_build_eq_error member unfilled
  exact ⟨missing, requires_of_piece firstMember firstReads, firstAbsent, fails⟩

/-! ## Following a link -/

namespace Table

variable {table : Table} {source target : String} {targets : SortedSet String}

/-- A target that is listed is built without further checks. -/
theorem href_eq_build (listed : table.targets source = .ok targets) (member : target ∈ targets)
    (filling : Url.Filling) : table.href source target filling = Url.build target filling := by
  have accepted : table.checkTarget source target = .ok () := by
    rw [checkTarget]
    split
    · rfl
    · simp [reaches, listed, member, Except.map, Except.bind]
  rw [href, accepted]
  rfl

theorem absolute_mem_targets (known : source ∈ table.ids) {chain : List Node}
    (inside : Descends table.forest chain) (spells : Spells chain target) :
    ∃ targets, table.targets source = .ok targets ∧ target ∈ targets := by
  obtain ⟨up, node, sourceInside, rfl⟩ := (mem_ids_iff table.flatten_forest).mp known
  obtain ⟨absolute, climbing, below, absoluteSucceeds, _, _, succeeds⟩ :=
    targets_of_descends table.flatten_forest sourceInside
  obtain ⟨found, foundSucceeds, members⟩ := absoluteTargets_of_flatten table.flatten_forest
  rw [absoluteSucceeds] at foundSucceeds
  cases foundSucceeds
  refine ⟨_, succeeds, ?_⟩
  simp only [SortedSet.mem_union]
  exact Or.inl (Or.inl ((members target).mpr ⟨chain, inside, spells⟩))

end Table

/-- From any route, the target without optional segments of any other route
whose chain has a path is listed. It can be built as soon as the required
parameters of that route have values, and never while one of them, apart from
the catch-all, has none. -/
theorem href_bareTarget (table : Table) {source : String} (known : source ∈ table.ids)
    {above : List Node} {goal : Node} (inside : Descends table.forest (above ++ [goal]))
    (present : ∃ route ∈ above ++ [goal], route.path.isSome) :
    ∃ targets alternatives, table.targets source = .ok targets ∧
      bareTarget (above ++ [goal]) ∈ targets ∧
      table.params goal.id = .ok alternatives ∧
      ∀ (page : Page) (filling : Url.Filling),
        ((∀ name, alternatives.merged.get? name = some .required →
            filling.params.contains name) →
          ∃ url, Url.build (bareTarget (above ++ [goal])) filling = .ok url ∧
            View.href ⟨source, table, page⟩ (bareTarget (above ++ [goal])) filling = .ok url) ∧
        ∀ name, name ≠ "*" → alternatives.merged.get? name = some .required →
          filling.params.contains name = false →
          ∃ missing, alternatives.merged.get? missing = some .required ∧
            filling.params.contains missing = false ∧
            Url.build (bareTarget (above ++ [goal])) filling = .error (.missingParam missing) ∧
            View.href ⟨source, table, page⟩ (bareTarget (above ++ [goal])) filling =
              .error (.missingParam missing) := by
  obtain ⟨targets, listed, member⟩ :=
    table.absolute_mem_targets known inside (spells_bareTarget present)
  obtain ⟨alternatives, succeeds, members⟩ := params_of_descends table.flatten_forest inside
  have required : ∀ name, alternatives.merged.get? name = some .required ↔
      (shapeAlong (above ++ [goal])).Requires name :=
    fun name => requires_merged_iff_shapeAlong members
  refine ⟨targets, alternatives, listed, member, succeeds, ?_⟩
  intro page filling
  have followed : View.href ⟨source, table, page⟩ (bareTarget (above ++ [goal])) filling =
      Url.build (bareTarget (above ++ [goal])) filling :=
    Table.href_eq_build listed member filling
  rw [followed]
  simp only [required]
  constructor
  · intro given
    obtain ⟨url, built⟩ := exists_build_bareTarget given
    exact ⟨url, built, built⟩
  · intro name named nameRequired absent
    obtain ⟨missing, missingRequired, missingAbsent, fails⟩ :=
      build_bareTarget_fails named nameRequired absent
    exact ⟨missing, missingRequired, missingAbsent, fails, fails⟩

/-- The small tree as a table. -/
def Sample.table : Table := ⟨[home], records, flatten_home⟩

/-- What the page of the small tree needs. -/
def Sample.filling : Url.Filling where
  params := SortedMap.ofList [("id", "7"), ("*", "notes")]

/-- From the index route of the small tree, the page can be linked to with an id
and a rest, and cannot be linked to with neither. -/
theorem index_links_to_page :
    "index" ∈ Sample.table.ids ∧
      Descends Sample.table.forest
        ([Sample.home, Sample.frame, Sample.project] ++ [Sample.page]) ∧
      View.href ⟨"index", Sample.table, {}⟩ "/:id/*" Sample.filling = .ok "/7/notes" ∧
      View.href ⟨"index", Sample.table, {}⟩ "/:id/*" {} = .error (.missingParam "id") := by
  have known : "index" ∈ Sample.table.ids := by decide
  have inside : Descends Sample.table.forest
      ([Sample.home, Sample.frame, Sample.project] ++ [Sample.page]) := Sample.descends_page
  have present : ∃ route ∈ [Sample.home, Sample.frame, Sample.project] ++ [Sample.page],
      route.path.isSome := ⟨Sample.page, by simp, rfl⟩
  have spelled : bareTarget ([Sample.home, Sample.frame, Sample.project] ++ [Sample.page]) =
      "/:id/*" := by decide
  obtain ⟨targets, alternatives, _, _, succeeds, links⟩ :=
    href_bareTarget Sample.table known inside present
  have merged : alternatives.merged =
      Shape.ofEntries [("id", .required), ("*", .required)] := by
    have computed : (Sample.table.params Sample.page.id).toOption.map Alternatives.merged =
        some (Shape.ofEntries [("id", .required), ("*", .required)]) := by decide +kernel
    rw [succeeds] at computed
    exact Option.some.inj computed
  rw [spelled, merged] at links
  refine ⟨known, inside, ?_, ?_⟩
  · have given : ∀ name, (Shape.ofEntries [("id", .required), ("*", .required)]).get? name =
        some .required → Sample.filling.params.contains name := by
      intro name required
      have member := Shape.requires_ofEntries.mp required
      simp only [List.mem_cons, Prod.mk.injEq, and_true, List.not_mem_nil, or_false] at member
      rcases member with rfl | rfl <;> decide
    obtain ⟨url, built, followed⟩ := (links {} Sample.filling).1 given
    have computed : Url.build "/:id/*" Sample.filling = .ok "/7/notes" := rfl
    rw [built] at computed
    rw [followed, computed]
  · obtain ⟨missing, _, _, fails, followed⟩ :=
      (links {} {}).2 "id" (by decide) (by decide) (by decide)
    have computed : Url.build "/:id/*" {} = .error (.missingParam "id") := rfl
    rw [fails] at computed
    rw [followed, computed]

end RouteTree
