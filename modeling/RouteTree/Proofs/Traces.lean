import RouteTree.Proofs.Alternatives
import RouteTree.Proofs.Resolving

/-!
# Traces of chains

What can be derived for a route is decided by the chains through it, and of
every chain only the routes themselves matter, without what is below them. A
route without a path may even be passed over. Two trees whose chains leave the
same traces therefore have the same targets and parameters.
-/

namespace RouteTree

/-- The routes of a chain whose ids are kept, each by itself. -/
def trace (keep : String → Bool) (chain : List Node) : List Node :=
  (chain.filter fun node => keep node.id).map Node.alone

section Trace

variable {keep : String → Bool} {node : Node} {chain above below first second : List Node}

@[simp]
theorem trace_nil : trace keep [] = [] := rfl

theorem trace_cons_of_kept (kept : keep node.id) :
    trace keep (node :: chain) = node.alone :: trace keep chain := by
  simp [trace, kept]

theorem trace_cons_of_skipped (skipped : keep node.id = false) :
    trace keep (node :: chain) = trace keep chain := by
  simp [trace, skipped]

theorem trace_append : trace keep (above ++ below) = trace keep above ++ trace keep below := by
  rw [trace, List.filter_append, List.map_append]
  rfl

theorem trace_concat_of_kept (kept : keep node.id) :
    trace keep (chain ++ [node]) = trace keep chain ++ [node.alone] := by
  rw [trace_append, trace_cons_of_kept kept, trace_nil]

theorem trace_eq_map_alone (kept : ∀ route ∈ chain, keep route.id) :
    trace keep chain = chain.map Node.alone := by
  rw [trace, List.filter_eq_self.mpr kept]

/-- A chain can be divided at every route that its trace shows. -/
theorem exists_of_trace_eq (split : trace keep chain = first ++ node :: second) :
    ∃ above route below, chain = above ++ route :: below ∧ trace keep above = first ∧
      route.alone = node ∧ trace keep below = second := by
  obtain ⟨upper, rest, divided, rfl, lower⟩ := List.map_eq_append_iff.mp split
  obtain ⟨route, after, rfl, rfl, rfl⟩ := List.map_eq_cons_iff.mp lower
  obtain ⟨above, tail, rfl, rfl, tailSplit⟩ := List.filter_eq_append_iff.mp divided
  obtain ⟨passed, below, rfl, skipped, _, rfl⟩ := List.filter_eq_cons_iff.mp tailSplit
  have nothing : passed.filter (fun node => keep node.id) = [] := List.filter_eq_nil_iff.mpr skipped
  refine ⟨above ++ passed, route, below, by simp, ?_, rfl, rfl⟩
  rw [trace, List.filter_append, nothing, List.append_nil]

/-! ## What a trace decides -/

/-- The routes of the chain that are skipped have no path. -/
def SkipsPathless (keep : String → Bool) (chain : List Node) : Prop :=
  ∀ route ∈ chain, keep route.id = false → route.path = none

theorem skipsPathless_cons_iff :
    SkipsPathless keep (node :: chain) ↔
      (keep node.id = false → node.path = none) ∧ SkipsPathless keep chain :=
  List.forall_mem_cons

theorem chosen_trace_iff (skips : SkipsPathless keep chain) {pieces : List String} :
    Chosen Node.paths (trace keep chain) pieces ↔ Chosen Node.paths chain pieces := by
  induction chain generalizing pieces with
  | nil => rfl
  | cons node rest ih =>
      obtain ⟨nodeSkips, restSkips⟩ := skipsPathless_cons_iff.mp skips
      cases kept : keep node.id with
      | false =>
          have absent := nodeSkips kept
          rw [trace_cons_of_skipped kept, ih restSkips]
          constructor
          · intro chosen
            exact .pathless absent chosen
          · intro chosen
            cases chosen with
            | pathless _ chosen => exact chosen
            | path present _ _ => simp [absent] at present
      | true =>
          rw [trace_cons_of_kept kept]
          constructor
          · intro chosen
            cases chosen with
            | pathless absent chosen => exact .pathless absent ((ih restSkips).mp chosen)
            | path present member chosen => exact .path present member ((ih restSkips).mp chosen)
          · intro chosen
            cases chosen with
            | pathless absent chosen => exact .pathless absent ((ih restSkips).mpr chosen)
            | path present member chosen => exact .path present member ((ih restSkips).mpr chosen)

theorem continues_trace_iff (skips : SkipsPathless keep chain) {starts : List String}
    {text : String} : Continues starts (trace keep chain) text ↔ Continues starts chain text := by
  simp only [Continues, chosen_trace_iff skips]

theorem exists_path_trace_iff (skips : SkipsPathless keep chain) :
    (∃ route ∈ trace keep chain, route.path.isSome) ↔ ∃ route ∈ chain, route.path.isSome := by
  constructor
  · rintro ⟨route, member, present⟩
    obtain ⟨source, sourceMember, rfl⟩ := List.mem_map.mp member
    exact ⟨source, (List.mem_filter.mp sourceMember).1, present⟩
  · rintro ⟨route, member, present⟩
    have kept : keep route.id := by
      cases shown : keep route.id with
      | true => rfl
      | false => simp [skips route member shown] at present
    have shown : route.alone ∈ trace keep chain :=
      List.mem_map_of_mem (List.mem_filter.mpr ⟨member, kept⟩)
    exact ⟨route.alone, shown, present⟩

theorem spells_trace_iff (skips : SkipsPathless keep chain) {target : String} :
    Spells (trace keep chain) target ↔ Spells chain target := by
  simp only [Spells, exists_path_trace_iff skips, continues_trace_iff skips]

theorem shapeAlong_trace (skips : SkipsPathless keep chain) :
    shapeAlong (trace keep chain) = shapeAlong chain := by
  induction chain with
  | nil => rfl
  | cons node rest ih =>
      obtain ⟨nodeSkips, restSkips⟩ := skipsPathless_cons_iff.mp skips
      cases kept : keep node.id with
      | false =>
          have nothing : node.shape = ∅ := by
            rw [Node.shape, Node.segments, nodeSkips kept]
            rfl
          rw [trace_cons_of_skipped kept, ih restSkips, shapeAlong_cons, nothing,
            Params.Shape.empty_merge]
      | true =>
          rw [trace_cons_of_kept kept, shapeAlong_cons, ih restSkips, shapeAlong_cons,
            Node.shape_alone]

theorem stops_trace (skips : SkipsPathless keep chain) :
    stops (trace keep chain) = (stops chain).map Node.alone := by
  have keptWithPath : (chain.filter fun node => keep node.id).filter (·.path.isSome) =
      chain.filter (·.path.isSome) := by
    rw [List.filter_filter]
    apply List.filter_congr
    intro route member
    cases kept : keep route.id with
    | true => simp
    | false => simp [skips route member kept]
  rw [stops, stops, trace, ← List.map_reverse, List.filter_map, List.filter_reverse,
    List.filter_reverse, ← keptWithPath]
  rfl

end Trace

theorem leadsBelow_iff_exists_continues {node : Node} {text : String} :
    LeadsBelow node text ↔
      text ≠ "" ∧ ∃ chain, Descends node.children chain ∧ Continues [""] chain text := by
  constructor
  · rintro ⟨present, chain, inside, _, continues⟩
    exact ⟨present, chain, inside, continues⟩
  · rintro ⟨present, chain, inside, continues⟩
    refine ⟨present, chain, inside, ?_, continues⟩
    rintro rfl
    exact present (List.mem_singleton.mp (continues_nil.mp continues))

/-! ## Trees with the same traces -/

/-- Whatever a chain of one tree shows, a chain of the other shows as well. -/
def SameTraces (keep : String → Bool) (forest others : List Node) : Prop :=
  ∀ steps, (∃ chain, Descends forest chain ∧ trace keep chain = steps) ↔
    ∃ chain, Descends others chain ∧ trace keep chain = steps

/-- No chain into the tree skips a path. -/
def SkipsPathlessBelow (keep : String → Bool) (forest : List Node) : Prop :=
  ∀ chain, Descends forest chain → SkipsPathless keep chain

theorem SkipsPathlessBelow.children {keep : String → Bool} {forest above : List Node}
    {node : Node} (skips : SkipsPathlessBelow keep forest)
    (inside : Descends forest (above ++ [node])) : SkipsPathlessBelow keep node.children := by
  intro chain chainInside route member
  have whole := descends_append_iff.mpr ⟨inside, chainInside⟩
  exact skips _ whole route (List.mem_append_right _ member)

theorem SkipsPathlessBelow.above {keep : String → Bool} {forest above : List Node}
    {node : Node} (skips : SkipsPathlessBelow keep forest)
    (inside : Descends forest (above ++ [node])) : SkipsPathless keep above :=
  fun route member => skips _ inside route (List.mem_append_left [node] member)

namespace SameTraces

variable {keep : String → Bool} {forest others : List Node}

theorem symm (same : SameTraces keep forest others) : SameTraces keep others forest :=
  fun steps => (same steps).symm

theorem exists_of_exists (same : SameTraces keep forest others)
    (skips : SkipsPathlessBelow keep forest) (otherSkips : SkipsPathlessBelow keep others)
    {holds : List Node → Prop}
    (decided : ∀ chain, SkipsPathless keep chain → (holds (trace keep chain) ↔ holds chain)) :
    (∃ chain, Descends forest chain ∧ holds chain) →
      ∃ chain, Descends others chain ∧ holds chain := by
  rintro ⟨chain, inside, held⟩
  obtain ⟨other, otherInside, shown⟩ := (same _).mp ⟨chain, inside, rfl⟩
  have shownHeld := (decided chain (skips chain inside)).mpr held
  rw [← shown] at shownHeld
  exact ⟨other, otherInside, (decided other (otherSkips other otherInside)).mp shownHeld⟩

/-- What the trace decides holds of a chain in both trees or in neither. -/
theorem exists_iff (same : SameTraces keep forest others)
    (skips : SkipsPathlessBelow keep forest) (otherSkips : SkipsPathlessBelow keep others)
    {holds : List Node → Prop}
    (decided : ∀ chain, SkipsPathless keep chain → (holds (trace keep chain) ↔ holds chain)) :
    (∃ chain, Descends forest chain ∧ holds chain) ↔
      ∃ chain, Descends others chain ∧ holds chain :=
  ⟨same.exists_of_exists skips otherSkips decided,
    same.symm.exists_of_exists otherSkips skips decided⟩

end SameTraces

section Siblings

variable {keep : String → Bool} {siblings : List Node}

theorem exists_trace_cons {node other : Node} (alone : other.alone = node.alone)
    (same : SameTraces keep node.children other.children) {steps : List Node}
    (shows : ∃ below, Descends node.children below ∧ trace keep (node :: below) = steps) :
    ∃ below, Descends other.children below ∧ trace keep (other :: below) = steps := by
  obtain ⟨chain, inside, rfl⟩ := shows
  obtain ⟨below, belowInside, shown⟩ := (same _).mp ⟨chain, inside, rfl⟩
  have sameId : other.id = node.id := (Node.alone_eq_iff.mp alone).1
  refine ⟨below, belowInside, ?_⟩
  cases kept : keep node.id with
  | true =>
      rw [trace_cons_of_kept kept, trace_cons_of_kept (sameId ▸ kept), alone, shown]
  | false =>
      rw [trace_cons_of_skipped kept, trace_cons_of_skipped (sameId ▸ kept), shown]

/-- Siblings have the same traces when only their children differ, and the children
have the same traces. -/
theorem sameTraces_map {change : Node → Node}
    (alone : ∀ node, (change node).alone = node.alone)
    (below : ∀ node, SameTraces keep node.children (change node).children) :
    SameTraces keep siblings (siblings.map change) := by
  intro steps
  rw [exists_descends_iff siblings fun chain => trace keep chain = steps,
    exists_descends_iff (siblings.map change) fun chain => trace keep chain = steps]
  refine or_congr_right ?_
  constructor
  · rintro ⟨node, member, shows⟩
    exact ⟨change node, List.mem_map_of_mem member, exists_trace_cons (alone node) (below node) shows⟩
  · rintro ⟨other, member, shows⟩
    obtain ⟨node, nodeMember, rfl⟩ := List.mem_map.mp member
    exact ⟨node, nodeMember, exists_trace_cons (alone node).symm (below node).symm shows⟩

end Siblings

/-- Two accepted trees have the same traces, and in neither does a skipped route
have a path. -/
structure Alike (keep : String → Bool) (forest others : List Node)
    (records otherRecords : Records) : Prop where
  flattened : flatten forest = .ok records
  otherFlattened : flatten others = .ok otherRecords
  same : SameTraces keep forest others
  skips : SkipsPathlessBelow keep forest
  otherSkips : SkipsPathlessBelow keep others

namespace Alike

variable {keep : String → Bool} {forest others above up : List Node} {node route : Node}
  {records otherRecords : Records}

theorem symm (alike : Alike keep forest others records otherRecords) :
    Alike keep others forest otherRecords records :=
  ⟨alike.otherFlattened, alike.flattened, alike.same.symm, alike.otherSkips, alike.skips⟩

theorem exists_match (alike : Alike keep forest others records otherRecords)
    (inside : Descends forest (above ++ [node])) (kept : keep node.id) :
    ∃ up route, Descends others (up ++ [route]) ∧ trace keep up = trace keep above ∧
      route.alone = node.alone := by
  obtain ⟨chain, chainInside, shown⟩ := (alike.same _).mp ⟨_, inside, trace_concat_of_kept kept⟩
  obtain ⟨up, route, below, rfl, upShown, sameRoute, _⟩ := exists_of_trace_eq shown
  exact ⟨up, route, (descends_append_cons.mp chainInside).1, upShown, sameRoute⟩

/-- A kept route has one place in either tree, and a chain below it in one tree has
a counterpart in the other. -/
theorem exists_below (alike : Alike keep forest others records otherRecords)
    (inside : Descends forest (above ++ [node])) (otherInside : Descends others (up ++ [route]))
    (sameId : route.id = node.id) (kept : keep node.id) (chain : List Node)
    (chainInside : Descends node.children chain) :
    trace keep up = trace keep above ∧ route.alone = node.alone ∧
      ∃ below, Descends route.children below ∧ trace keep below = trace keep chain := by
  have whole := descends_append_iff.mpr ⟨inside, chainInside⟩
  have wholeShown : trace keep ((above ++ [node]) ++ chain) =
      trace keep above ++ node.alone :: trace keep chain := by
    rw [trace_append, trace_concat_of_kept kept, List.append_assoc, List.singleton_append]
  obtain ⟨other, wholeOther, shown⟩ := (alike.same _).mp ⟨_, whole, wholeShown⟩
  obtain ⟨first, last, below, rfl, upShown, sameLast, belowShown⟩ := exists_of_trace_eq shown
  obtain ⟨lastInside, belowInside⟩ := descends_append_cons.mp wholeOther
  have lastIsNode : last.id = node.id := (Node.alone_eq_iff.mp sameLast).1
  obtain ⟨rfl, rfl⟩ :=
    chain_unique alike.otherFlattened otherInside lastInside (sameId.trans lastIsNode.symm)
  exact ⟨upShown, sameLast, below, belowInside, belowShown⟩

section Matched

variable (alike : Alike keep forest others records otherRecords)
  (inside : Descends forest (above ++ [node])) (otherInside : Descends others (up ++ [route]))
  (sameId : route.id = node.id) (kept : keep node.id)

include alike inside otherInside sameId kept

theorem trace_above_eq : trace keep up = trace keep above :=
  (alike.exists_below inside otherInside sameId kept [] trivial).1

theorem alone_eq : route.alone = node.alone :=
  (alike.exists_below inside otherInside sameId kept [] trivial).2.1

theorem sameTraces_children : SameTraces keep node.children route.children := by
  have otherKept : keep route.id := sameId ▸ kept
  intro steps
  constructor
  · rintro ⟨chain, chainInside, rfl⟩
    exact (alike.exists_below inside otherInside sameId kept chain chainInside).2.2
  · rintro ⟨chain, chainInside, rfl⟩
    exact (alike.symm.exists_below otherInside inside sameId.symm otherKept chain chainInside).2.2

theorem exists_below_iff {holds : List Node → Prop}
    (decided : ∀ chain, SkipsPathless keep chain → (holds (trace keep chain) ↔ holds chain)) :
    (∃ chain, Descends node.children chain ∧ holds chain) ↔
      ∃ chain, Descends route.children chain ∧ holds chain :=
  (sameTraces_children alike inside otherInside sameId kept).exists_iff
    (alike.skips.children inside) (alike.otherSkips.children otherInside) decided

theorem leadsBelow_iff {text : String} : LeadsBelow node text ↔ LeadsBelow route text := by
  rw [leadsBelow_iff_exists_continues, leadsBelow_iff_exists_continues]
  refine and_congr_right fun _ => ?_
  exact exists_below_iff alike inside otherInside sameId kept fun _ skips =>
    continues_trace_iff skips

theorem exists_stop {hops : Nat} {stop : Node} (reached : (stops above)[hops]? = some stop) :
    ∃ other, (stops up)[hops]? = some other ∧
      ∀ rest, LeadsBelow stop rest ↔ LeadsBelow other rest := by
  have aboveSkips := alike.skips.above inside
  have upSkips := alike.otherSkips.above otherInside
  have sameStops : (stops up).map Node.alone = (stops above).map Node.alone := by
    rw [← stops_trace upSkips, ← stops_trace aboveSkips,
      trace_above_eq alike inside otherInside sameId kept]
  have shown := congrArg (·[hops]?) sameStops
  simp only [List.getElem?_map, reached, Option.map_some] at shown
  obtain ⟨other, otherReached, sameStop⟩ := Option.map_eq_some_iff.mp shown
  have sameStopId : other.id = stop.id := (Node.alone_eq_iff.mp sameStop).1
  obtain ⟨present, stopUp, stopInside⟩ := exists_descends_of_stop inside reached
  obtain ⟨_, otherUp, otherStopInside⟩ := exists_descends_of_stop otherInside otherReached
  have stopKept : keep stop.id := by
    cases shownStop : keep stop.id with
    | true => rfl
    | false => simp [alike.skips _ stopInside stop (by simp) shownStop] at present
  refine ⟨other, otherReached, ?_⟩
  intro rest
  exact leadsBelow_iff alike stopInside otherStopInside sameStopId stopKept

theorem exists_climb {text : String}
    (climbs : ∃ hops stop, (stops above)[hops]? = some stop ∧ (text = climb (hops + 1) ∨
      ∃ rest, LeadsBelow stop rest ∧ text = climb (hops + 1) ++ "/" ++ rest)) :
    ∃ hops stop, (stops up)[hops]? = some stop ∧ (text = climb (hops + 1) ∨
      ∃ rest, LeadsBelow stop rest ∧ text = climb (hops + 1) ++ "/" ++ rest) := by
  obtain ⟨hops, stop, reached, target⟩ := climbs
  obtain ⟨other, otherReached, leads⟩ := exists_stop alike inside otherInside sameId kept reached
  refine ⟨hops, other, otherReached, ?_⟩
  simpa only [leads] using target

theorem shapeAlong_iff {shape : Params.Shape} :
    (∃ below, Descends node.children below ∧ shape = shapeAlong (above ++ node :: below)) ↔
      ∃ below, Descends route.children below ∧ shape = shapeAlong (up ++ route :: below) := by
  have aboveSkips := alike.skips.above inside
  have upSkips := alike.otherSkips.above otherInside
  have sameAbove : shapeAlong up = shapeAlong above := by
    rw [← shapeAlong_trace aboveSkips, ← shapeAlong_trace upSkips,
      trace_above_eq alike inside otherInside sameId kept]
  have sameShape : route.shape = node.shape := by
    rw [← Node.shape_alone, alone_eq alike inside otherInside sameId kept, Node.shape_alone]
  simp only [shapeAlong_append, shapeAlong_cons, sameAbove, sameShape]
  apply exists_below_iff alike inside otherInside sameId kept
  intro chain skips
  rw [shapeAlong_trace skips]

end Matched

/-! ## Same targets and parameters -/

section Known

variable (alike : Alike keep forest others records otherRecords)

include alike

theorem absoluteTargets_eq : records.absoluteTargets = otherRecords.absoluteTargets :=
  eq_of_same_members (absoluteTargets_of_flatten alike.flattened)
    (absoluteTargets_of_flatten alike.otherFlattened) fun _ =>
      alike.same.exists_iff alike.skips alike.otherSkips fun _ skips => spells_trace_iff skips

variable {id : String} (known : id ∈ records.ids) (kept : keep id)

include known kept

theorem exists_places :
    ∃ above node up route, Descends forest (above ++ [node]) ∧ node.id = id ∧
      Descends others (up ++ [route]) ∧ route.id = id := by
  obtain ⟨above, node, inside, rfl⟩ := (mem_ids_iff alike.flattened).mp known
  obtain ⟨up, route, otherInside, _, sameRoute⟩ := alike.exists_match inside kept
  have sameId : route.id = node.id := (Node.alone_eq_iff.mp sameRoute).1
  exact ⟨above, node, up, route, inside, rfl, otherInside, sameId⟩

theorem params_eq : records.params id = otherRecords.params id := by
  obtain ⟨above, node, up, route, inside, rfl, otherInside, sameId⟩ :=
    exists_places alike known kept
  have finds := params_of_descends alike.flattened inside
  have otherFinds := params_of_descends alike.otherFlattened otherInside
  rw [sameId] at otherFinds
  exact eq_of_same_members finds otherFinds fun _ =>
    shapeAlong_iff alike inside otherInside sameId kept

theorem descendantTargets_eq :
    records.descendantTargets id [""] = otherRecords.descendantTargets id [""] := by
  obtain ⟨above, node, up, route, inside, rfl, otherInside, sameId⟩ :=
    exists_places alike known kept
  have finds := descendantTargets_of_descends alike.flattened inside [""]
  have otherFinds := descendantTargets_of_descends alike.otherFlattened otherInside [""]
  rw [sameId] at otherFinds
  exact eq_of_same_members finds otherFinds fun _ =>
    leadsBelow_iff alike inside otherInside sameId kept

theorem ancestorTargets_eq : records.ancestorTargets id = otherRecords.ancestorTargets id := by
  obtain ⟨above, node, up, route, inside, rfl, otherInside, sameId⟩ :=
    exists_places alike known kept
  have otherKept : keep route.id := sameId ▸ kept
  have finds := ancestorTargets_at_stops alike.flattened inside
  have otherFinds := ancestorTargets_at_stops alike.otherFlattened otherInside
  rw [sameId] at otherFinds
  refine eq_of_same_members finds otherFinds fun text => ⟨?_, ?_⟩
  · exact exists_climb alike inside otherInside sameId kept
  · exact exists_climb alike.symm otherInside inside sameId.symm otherKept

end Known

end Alike

end RouteTree
