import Mathlib.Data.List.Basic
import RouteTree.Proofs.Acceptance
import RouteTree.Proofs.Traces

/-!
# Putting routes into a layout

A list of siblings can be moved into a new layout that takes its place. The
layout has no path, so every chain spells what it spelled before, and the tree
derives the same targets and parameters for its routes. Only an index route
that is moved itself may lead elsewhere: it counts its relative targets from
its parent, which is now the layout.
-/

namespace RouteTree

/-- A layout around the given routes. -/
def Node.frame (id : String) (children : List Node) : Node :=
  ⟨id, none, false, children⟩

/-- The list of siblings below a chain, or the given one below no chain. -/
def siblingsAt (siblings : List Node) : List Node → List Node
  | [] => siblings
  | node :: below => siblingsAt node.children below

/-- Puts the list of siblings below a chain into a new layout. -/
def insertFrame (frameId : String) : List Node → List Node → List Node
  | [], siblings => [Node.frame frameId siblings]
  | node :: below, siblings =>
      siblings.map fun other =>
        if other.id = node.id then
          { other with children := insertFrame frameId below other.children }
        else other

/-- The route is an index route of the list below a chain, and the list is at the
top of the tree or below a route with a path. -/
def Reanchored (forest place : List Node) (id : String) : Prop :=
  ∃ node ∈ siblingsAt forest place, node.id = id ∧ node.index ∧
    ∀ parent, place.getLast? = some parent → parent.path.isSome

theorem siblingsAt_concat (siblings above : List Node) (node : Node) :
    siblingsAt siblings (above ++ [node]) = node.children := by
  induction above generalizing siblings with
  | nil => rfl
  | cons first rest ih => exact ih first.children

theorem descends_concat_iff {siblings place : List Node} {node : Node}
    (inside : Descends siblings place) :
    Descends siblings (place ++ [node]) ↔ node ∈ siblingsAt siblings place := by
  induction place generalizing siblings with
  | nil => exact descends_singleton
  | cons first rest ih =>
      rw [List.cons_append, siblingsAt, ← ih inside.2]
      exact and_iff_right inside.1

/-! ## Acceptance -/

section Acceptance

variable {frameId : String} {siblings place below front back : List Node} {node : Node}

theorem insertFrame_of_distinct
    (distinct : ((Node.singles (front ++ node :: back)).map Node.id).Nodup) :
    insertFrame frameId (node :: below) (front ++ node :: back) =
      front ++ { node with children := insertFrame frameId below node.children } :: back := by
  obtain ⟨frontFresh, backFresh, _⟩ := Node.fresh_of_distinct distinct
  -- The siblings are left as they are, since they have other ids.
  have unchanged : ∀ {others : List Node}, (∀ other ∈ others, other.id ≠ node.id) →
      others.map (fun other =>
        if other.id = node.id then
          { other with children := insertFrame frameId below other.children }
        else other) = others := by
    intro others fresh
    refine (List.map_congr_left fun other member => if_neg (fresh other member)).trans ?_
    exact List.map_id others
  rw [insertFrame, List.map_append, List.map_cons, unchanged frontFresh, unchanged backFresh,
    if_pos rfl]

/-- The new layout is the only route that is added. -/
theorem singles_insertFrame (frameId : String) (inside : Descends siblings place)
    (distinct : ((Node.singles siblings).map Node.id).Nodup) :
    (Node.singles (insertFrame frameId place siblings)).Perm
      (Node.frame frameId [] :: Node.singles siblings) := by
  induction place generalizing siblings with
  | nil =>
      rw [insertFrame, Node.singles_cons, Node.singles_nil, List.append_nil]
      exact List.Perm.refl _
  | cons node below ih =>
      obtain ⟨front, back, rfl⟩ := List.mem_iff_append.mp inside.1
      have inner := ih inside.2 (Node.fresh_of_distinct distinct).2.2
      rw [insertFrame_of_distinct distinct, Node.singles_append_cons, Node.singles_append_cons]
      calc
        (Node.singles front ++ node.alone :: (Node.singles
            (insertFrame frameId below node.children) ++ Node.singles back)).Perm
            (Node.singles front ++ node.alone ::
              (Node.frame frameId [] :: (Node.singles node.children ++ Node.singles back))) :=
          ((inner.append_right _).cons _).append_left _
        _ = (Node.singles front ++ [node.alone]) ++
              Node.frame frameId [] :: (Node.singles node.children ++ Node.singles back) := by
          simp
        List.Perm _ (Node.frame frameId [] :: ((Node.singles front ++ [node.alone]) ++
              (Node.singles node.children ++ Node.singles back))) := List.perm_middle
        _ = Node.frame frameId [] :: (Node.singles front ++ node.alone ::
              (Node.singles node.children ++ Node.singles back)) := by
          simp

theorem exists_flatten_insertFrame {forest : List Node} {records : Records}
    (flattened : flatten forest = .ok records) (inside : Descends forest place)
    (fresh : frameId ∉ records.ids) :
    ∃ framed, flatten (insertFrame frameId place forest) = .ok framed := by
  obtain ⟨readable, distinct⟩ := exists_flatten_iff.mp ⟨records, flattened⟩
  rw [ids_of_flatten flattened] at fresh
  have added := singles_insertFrame frameId inside distinct
  refine exists_flatten_iff.mpr ⟨?_, ?_⟩
  · intro route member
    rcases List.mem_cons.mp (added.mem_iff.mp member) with rfl | member
    · intro pattern path
      cases path
    · exact readable route member
  · rw [(added.map Node.id).nodup_iff]
    exact List.nodup_cons.mpr ⟨fresh, distinct⟩

end Acceptance

/-! ## Chains -/

section Chains

variable {keep : String → Bool} {siblings : List Node}

/-- A layout that is skipped leaves no trace. -/
theorem sameTraces_frame {frameId : String} (skipped : keep frameId = false) :
    SameTraces keep siblings [Node.frame frameId siblings] := by
  intro steps
  constructor
  · rintro ⟨chain, inside, rfl⟩
    exact ⟨Node.frame frameId siblings :: chain, ⟨List.mem_cons_self, inside⟩,
      trace_cons_of_skipped skipped⟩
  · rintro ⟨chain, inside, rfl⟩
    cases chain with
    | nil => exact ⟨[], trivial, rfl⟩
    | cons first below =>
        obtain rfl := List.mem_singleton.mp inside.1
        exact ⟨below, inside.2, (trace_cons_of_skipped skipped).symm⟩

end Chains

theorem sameTraces_insertFrame {keep : String → Bool} {frameId : String}
    (skipped : keep frameId = false) (siblings place : List Node) :
    SameTraces keep siblings (insertFrame frameId place siblings) := by
  induction place generalizing siblings with
  | nil => exact sameTraces_frame skipped
  | cons node below ih =>
      apply sameTraces_map
      · intro other
        split <;> rfl
      · intro other
        split
        · exact ih other.children
        · exact fun steps => Iff.rfl

/-- The new layout stands where the siblings stood. -/
theorem exists_descends_frame (frameId : String) {siblings place : List Node}
    (inside : Descends siblings place) :
    ∃ above, Descends (insertFrame frameId place siblings)
        (above ++ [Node.frame frameId (siblingsAt siblings place)]) ∧
      above.map Node.alone = place.map Node.alone := by
  induction place generalizing siblings with
  | nil => exact ⟨[], descends_singleton.mpr List.mem_cons_self, rfl⟩
  | cons node below ih =>
      obtain ⟨above, frameInside, shown⟩ := ih inside.2
      refine ⟨{ node with children := insertFrame frameId below node.children } :: above,
        ⟨?_, frameInside⟩, ?_⟩
      · exact List.mem_map.mpr ⟨node, inside.1, if_pos rfl⟩
      · rw [List.map_cons, shown]
        rfl

/-! ## Targets and parameters -/

/-- Whether a route is another one than the new layout. -/
def otherThan (frameId id : String) : Bool := id != frameId

theorem otherThan_eq_false_iff {frameId id : String} :
    otherThan frameId id = false ↔ id = frameId := by
  simp [otherThan]

theorem otherThan_of_ne {frameId id : String} (different : id ≠ frameId) :
    otherThan frameId id := by
  simpa [otherThan] using different

section Framed

variable {forest place above up : List Node} {node route : Node} {records framed : Records}
  {frameId : String}

theorem exists_alike_insertFrame (flattened : flatten forest = .ok records)
    (inside : Descends forest place) (fresh : frameId ∉ records.ids) :
    ∃ framed, Alike (otherThan frameId) forest (insertFrame frameId place forest) records framed := by
  obtain ⟨framed, framedFlattened⟩ := exists_flatten_insertFrame flattened inside fresh
  have skipped : otherThan frameId frameId = false := otherThan_eq_false_iff.mpr rfl
  refine ⟨framed, flattened, framedFlattened, sameTraces_insertFrame skipped forest place, ?_, ?_⟩
  · intro chain chainInside
    refine chainInside.forall_mem ?_
    intro above route routeInside isFrame
    have sameId : route.id = frameId := otherThan_eq_false_iff.mp isFrame
    exact absurd ((mem_ids_iff flattened).mpr ⟨above, route, routeInside, sameId⟩) fresh
  · intro chain chainInside
    refine chainInside.forall_mem ?_
    intro above route routeInside isFrame
    obtain ⟨frameAbove, frameInside, _⟩ := exists_descends_frame frameId inside
    have sameId : route.id = frameId := otherThan_eq_false_iff.mp isFrame
    obtain ⟨_, rfl⟩ := chain_unique framedFlattened routeInside frameInside sameId
    rfl

theorem kept_of_descends (flattened : flatten forest = .ok records)
    (fresh : frameId ∉ records.ids) {chain : List Node} (inside : Descends forest chain) :
    ∀ route ∈ chain, otherThan frameId route.id := by
  refine inside.forall_mem ?_
  intro above route routeInside
  apply otherThan_of_ne
  rintro rfl
  exact fresh ((mem_ids_iff flattened).mpr ⟨above, route, routeInside, rfl⟩)

/-- A route that is not moved keeps its parent. -/
theorem lastId_eq_of_trace_eq (flattened : flatten forest = .ok records)
    (fresh : frameId ∉ records.ids) (inside : Descends forest place)
    (framedFlattened : flatten (insertFrame frameId place forest) = .ok framed)
    (aboveInside : Descends forest above)
    (upInside : Descends (insertFrame frameId place forest) up)
    (shown : trace (otherThan frameId) up = above.map Node.alone) (elsewhere : above ≠ place) :
    lastId none up = lastId none above := by
  rcases List.eq_nil_or_concat' up with rfl | ⟨front, last, rfl⟩
  · rw [List.map_eq_nil_iff.mp shown.symm]
  · cases kept : otherThan frameId last.id with
    | true =>
        rw [trace_concat_of_kept kept] at shown
        rcases List.eq_nil_or_concat' above with rfl | ⟨otherFront, parent, rfl⟩
        · simp at shown
        · rw [List.map_append] at shown
          have sameLast := (List.append_singleton_inj.mp shown).2
          rw [lastId_concat, lastId_concat, (Node.alone_eq_iff.mp sameLast).1]
    | false =>
        -- The new layout has one place only, and what is above it stood above the siblings.
        obtain ⟨frameAbove, frameInside, frameShown⟩ := exists_descends_frame frameId inside
        have isFrame := otherThan_eq_false_iff.mp kept
        obtain ⟨rfl, _⟩ := chain_unique framedFlattened upInside frameInside isFrame
        have frontKept : ∀ route ∈ front, otherThan frameId route.id := by
          intro route member
          have aloneMember := List.mem_map_of_mem (f := Node.alone) member
          rw [frameShown] at aloneMember
          obtain ⟨other, otherMember, same⟩ := List.mem_map.mp aloneMember
          rw [← (Node.alone_eq_iff.mp same).1]
          exact kept_of_descends flattened fresh inside other otherMember
        rw [trace_append, trace_cons_of_skipped kept, trace_nil, List.append_nil,
          trace_eq_map_alone frontKept, frameShown] at shown
        exact absurd (eq_of_map_alone_eq flattened inside aboveInside shown).symm elsewhere

section Inserted

variable (inside : Descends forest place)
  (alike : Alike (otherThan frameId) forest (insertFrame frameId place forest) records framed)
  (fresh : frameId ∉ records.ids)

include inside alike

/-- An index route that moves below the new layout gets its targets. -/
theorem exists_targets_frame (member : node ∈ siblingsAt forest place) (index : node.index) :
    ∃ targets, framed.targets frameId = .ok targets ∧ framed.targets node.id = .ok targets := by
  obtain ⟨frameAbove, frameInside, _⟩ := exists_descends_frame frameId inside
  have moved : node ∈ (Node.frame frameId (siblingsAt forest place)).children := member
  have nodeInside := frameInside.append_child moved
  have sameAnchor : Records.anchor
      ((Node.frame frameId (siblingsAt forest place)).record (lastId none frameAbove)) =
      Records.anchor (node.record
        (lastId none (frameAbove ++ [Node.frame frameId (siblingsAt forest place)]))) := by
    rw [anchor_of_not_index rfl, anchor_concat_of_index frameAbove index]
  exact exists_targets_eq alike.otherFlattened alike.otherFlattened frameInside nodeInside rfl
    (by rw [sameAnchor]) (by rw [sameAnchor])

include fresh

/-- A route that is not an index route of the moved list keeps its targets. -/
theorem exists_targets_of_elsewhere (nodeInside : Descends forest (above ++ [node]))
    (elsewhere : node.index → above ≠ place) :
    ∃ targets, records.targets node.id = .ok targets ∧ framed.targets node.id = .ok targets := by
  have aboveInside : Descends forest above := nodeInside.of_append
  have kept : otherThan frameId node.id :=
    kept_of_descends alike.flattened fresh nodeInside node (by simp)
  obtain ⟨up, route, routeInside, shown, sameRoute⟩ := alike.exists_match nodeInside kept
  rw [trace_eq_map_alone (kept_of_descends alike.flattened fresh aboveInside)] at shown
  have sameAnchor : Records.anchor (route.record (lastId none up)) =
      Records.anchor (node.record (lastId none above)) := by
    apply anchor_eq sameRoute
    intro index
    exact lastId_eq_of_trace_eq alike.flattened fresh inside alike.otherFlattened aboveInside
      routeInside.of_append shown (elsewhere index)
  obtain ⟨anchorAbove, anchorNode, anchorInside, anchored⟩ := exists_descends_anchor nodeInside
  have known : anchorNode.id ∈ records.ids :=
    (mem_ids_iff alike.flattened).mpr ⟨anchorAbove, anchorNode, anchorInside, rfl⟩
  have anchorKept : otherThan frameId anchorNode.id :=
    kept_of_descends alike.flattened fresh anchorInside anchorNode (by simp)
  have climbing := alike.ancestorTargets_eq known anchorKept
  have below := alike.descendantTargets_eq known anchorKept
  rw [← anchored] at climbing below
  obtain ⟨targets, succeeds, framedSucceeds⟩ := exists_targets_eq alike.flattened
    alike.otherFlattened nodeInside routeInside alike.absoluteTargets_eq
    (by rw [sameAnchor, climbing]) (by rw [sameAnchor, below])
  rw [(Node.alone_eq_iff.mp sameRoute).1] at framedSucceeds
  exact ⟨targets, succeeds, framedSucceeds⟩

/-- Below a layout an index route counts from a layout before and after. -/
theorem exists_targets_of_layout {front : List Node} {parent : Node}
    (isPlace : place = front ++ [parent]) (absent : parent.path = none)
    (member : node ∈ parent.children) (index : node.index) :
    ∃ targets, records.targets node.id = .ok targets ∧ framed.targets node.id = .ok targets := by
  subst isPlace
  have nodeInside := inside.append_child member
  obtain ⟨frameAbove, frameInside, shown⟩ := exists_descends_frame frameId inside
  rw [siblingsAt_concat] at frameInside
  have moved : node ∈ (Node.frame frameId parent.children).children := member
  have framedNodeInside := frameInside.append_child moved
  have present : frameAbove ≠ [] := by
    rintro rfl
    simp at shown
  obtain ⟨framedFront, framedParent, rfl⟩ :=
    (List.eq_nil_or_concat' frameAbove).resolve_left present
  rw [List.map_append, List.map_append] at shown
  have sameParent := (List.append_singleton_inj.mp shown).2
  obtain ⟨sameId, samePath, _⟩ := Node.alone_eq_iff.mp sameParent
  have known : parent.id ∈ records.ids :=
    (mem_ids_iff alike.flattened).mpr ⟨front, parent, inside, rfl⟩
  have kept : otherThan frameId parent.id :=
    kept_of_descends alike.flattened fresh inside parent (by simp)
  have climbing : records.ancestorTargets parent.id = framed.ancestorTargets frameId := by
    rw [alike.ancestorTargets_eq known kept, ← sameId]
    exact (ancestorTargets_of_pathless_parent alike.otherFlattened frameInside
      (samePath.trans absent)).symm
  have below : records.descendantTargets parent.id [""] =
      framed.descendantTargets frameId [""] :=
    eq_of_same_members (descendantTargets_of_descends alike.flattened inside [""])
      (descendantTargets_of_descends alike.otherFlattened frameInside [""]) fun _ => Iff.rfl
  have before := anchor_concat_of_index front index parent
  have after := anchor_concat_of_index (framedFront ++ [framedParent]) index
    (Node.frame frameId parent.children)
  exact exists_targets_eq alike.flattened alike.otherFlattened nodeInside framedNodeInside
    alike.absoluteTargets_eq (by rw [before, after]; exact climbing)
    (by rw [before, after]; exact below)

end Inserted

/-- A list of siblings can be put into a new layout. All routes keep their
alternatives, and all but index routes of that list keep their targets. So do
these if the list is that of a layout already; otherwise they get the targets of
the new layout. -/
theorem insertFrame_transparent (flattened : flatten forest = .ok records)
    (inside : Descends forest place) (fresh : frameId ∉ records.ids) :
    ∃ framed, flatten (insertFrame frameId place forest) = .ok framed ∧
      ∀ id ∈ records.ids,
        (∃ alternatives, records.params id = .ok alternatives ∧
          framed.params id = .ok alternatives) ∧
        (¬ Reanchored forest place id →
          ∃ targets, records.targets id = .ok targets ∧ framed.targets id = .ok targets) ∧
        (Reanchored forest place id →
          ∃ targets, framed.targets frameId = .ok targets ∧ framed.targets id = .ok targets) := by
  obtain ⟨framed, alike⟩ := exists_alike_insertFrame flattened inside fresh
  refine ⟨framed, alike.otherFlattened, ?_⟩
  intro id known
  obtain ⟨above, node, nodeInside, rfl⟩ := (mem_ids_iff flattened).mp known
  have kept : otherThan frameId node.id :=
    kept_of_descends flattened fresh nodeInside node (by simp)
  refine ⟨?_, ?_, ?_⟩
  · obtain ⟨alternatives, succeeds, _⟩ := params_of_descends flattened nodeInside
    exact ⟨alternatives, succeeds, (alike.params_eq known kept).symm.trans succeeds⟩
  · intro anchored
    by_cases moved : node.index ∧ above = place
    · obtain ⟨index, rfl⟩ := moved
      have member := (descends_concat_iff inside).mp nodeInside
      rcases List.eq_nil_or_concat' above with rfl | ⟨front, parent, isPlace⟩
      · exact absurd ⟨node, member, rfl, index, by simp⟩ anchored
      · cases path : parent.path with
        | none =>
            rw [isPlace, siblingsAt_concat] at member
            exact exists_targets_of_layout inside alike fresh isPlace path member index
        | some pattern =>
            refine absurd ⟨node, member, rfl, index, ?_⟩ anchored
            intro last isLast
            rw [isPlace, List.getLast?_concat] at isLast
            cases isLast
            rw [path]
            rfl
    · refine exists_targets_of_elsewhere inside alike fresh nodeInside ?_
      intro index same
      exact moved ⟨index, same⟩
  · rintro ⟨other, member, sameId, index, _⟩
    rw [← sameId]
    exact exists_targets_frame inside alike member index

/-- In the small tree the routes below the top can be put into a layout, and the page
keeps its targets. -/
theorem insertFrame_transparent_page :
    flatten [Sample.home] = .ok Sample.records ∧ Descends [Sample.home] [Sample.home] ∧
      "shell" ∉ Sample.records.ids ∧
      ∃ framed targets, flatten (insertFrame "shell" [Sample.home] [Sample.home]) = .ok framed ∧
        Sample.records.targets "page" = .ok targets ∧ framed.targets "page" = .ok targets := by
  have inside : Descends [Sample.home] [Sample.home] := by simp [Descends]
  have fresh : "shell" ∉ Sample.records.ids := by decide
  have known : "page" ∈ Sample.records.ids := by decide
  obtain ⟨framed, framedFlattened, transparent⟩ :=
    insertFrame_transparent Sample.flatten_home inside fresh
  have elsewhere : ¬ Reanchored [Sample.home] [Sample.home] "page" := by
    rintro ⟨node, member, isPage, _⟩
    simp only [siblingsAt, Sample.home, List.mem_cons, List.not_mem_nil, or_false] at member
    rcases member with rfl | rfl <;> exact absurd isPage (by decide)
  obtain ⟨targets, succeeds, framedSucceeds⟩ := (transparent "page" known).2.1 elsewhere
  exact ⟨Sample.flatten_home, inside, fresh, framed, targets, framedFlattened, succeeds,
    framedSucceeds⟩

namespace Sample

def start : Node := ⟨"start", none, true, []⟩

def about : Node := ⟨"about", some "about", false, [start]⟩

def framedAbout : Node := ⟨"about", some "about", false, [Node.frame "shell" [start]]⟩

def aboutRecords : Records where
  toList := [about.record none, start.record (some "about")]

def framedRecords : Records where
  toList := [framedAbout.record none, (Node.frame "shell" [start]).record (some "about"),
    start.record (some "shell")]

end Sample

/-- A layout between a route with a path and its index route gives the index route a
hop that it did not have before. -/
theorem insertFrame_reanchors_start :
    ∃ records framed targets framedTargets, flatten [Sample.about] = .ok records ∧
      Descends [Sample.about] [Sample.about] ∧ "shell" ∉ records.ids ∧
      flatten (insertFrame "shell" [Sample.about] [Sample.about]) = .ok framed ∧
      records.targets "start" = .ok targets ∧ framed.targets "start" = .ok framedTargets ∧
      ".." ∉ targets ∧ ".." ∈ framedTargets := by
  have inside : Descends [Sample.about] [Sample.about] := by simp [Descends]
  have framedFlattened : flatten (insertFrame "shell" [Sample.about] [Sample.about]) =
      .ok Sample.framedRecords := by rfl
  have targets : Sample.aboutRecords.targets "start" = .ok (SortedSet.ofList ["/about"]) := by rfl
  have framedTargets : Sample.framedRecords.targets "start" =
      .ok (SortedSet.ofList ["..", "/about"]) := by rfl
  exact ⟨Sample.aboutRecords, Sample.framedRecords, _, _, rfl, inside, by decide,
    framedFlattened, targets, framedTargets, by decide, by decide⟩

end Framed

end RouteTree
