import RouteTree.Proofs.Hopping

/-!
# Climbing

A climb stops at every ancestor that has a path, nearest first, and takes one
hop from each stop to the next. From a stop it may go down again, to whatever
lies below the stop. What is found below a route from some start is the start
followed by what is found from nothing, because joining paths is associative.
-/

namespace RouteTree

/-- The ancestors at which a climb stops, nearest first. -/
def stops (above : List Node) : List Node :=
  above.reverse.filter (·.path.isSome)

theorem exists_descends_of_stop {forest above : List Node} {node stop : Node} {hops : Nat}
    (inside : Descends forest (above ++ [node])) (reached : (stops above)[hops]? = some stop) :
    stop.path.isSome ∧ ∃ up, Descends forest (up ++ [stop]) := by
  have member : stop ∈ above.reverse.filter (·.path.isSome) :=
    List.mem_of_getElem? reached
  have stopMember : stop ∈ above ++ [node] :=
    List.mem_append_left [node] (List.mem_reverse.mp (List.mem_filter.mp member).1)
  exact ⟨(List.mem_filter.mp member).2, inside.of_mem stopMember⟩

theorem climb_eq_joinPieces (hops : Nat) :
    climb hops = Text.joinPieces (List.replicate hops "..") := by
  simp [climb, Text.joinPieces]

theorem climb_succ_ne_empty (hops : Nat) : climb (hops + 1) ≠ "" := by
  rw [climb_eq_joinPieces, List.replicate_succ, Text.joinPieces_cons]
  simp

/-! ## Hops -/

/-- The hops count the records with a path that have been passed. -/
theorem Hops.along_eq_mapIdx (taken : Nat) (ahead : List Record) :
    Hops.along taken ahead =
      (ahead.filter (·.path.isSome)).mapIdx fun hops record =>
        (climb (taken + hops + 1), record) := by
  induction ahead generalizing taken with
  | nil => rfl
  | cons record rest ih =>
      rw [Hops.along, List.filter_cons]
      by_cases present : record.path.isSome
      · rw [if_pos present, if_pos present, List.mapIdx_cons, ih]
        simp only [Nat.add_zero, Nat.add_assoc, Nat.add_comm 1]
      · rw [if_neg present, if_neg present, ih]

/-- The records on a chain that have a path are those of its routes that have one. -/
theorem map_id_filter_recordsAlong (top : Option String) (chain : List Node) :
    ((recordsAlong top chain).filter (·.path.isSome)).map Record.id =
      (chain.filter (·.path.isSome)).map Node.id := by
  induction chain generalizing top with
  | nil => rfl
  | cons node rest ih =>
      rw [recordsAlong, List.filter_cons, List.filter_cons, Node.record_path]
      split
      · rw [List.map_cons, List.map_cons, ih, Node.record_id]
      · exact ih _

/-- The hops along the ancestors of a route lead to its stops. -/
theorem map_along_recordsAlong (above : List Node) :
    (Hops.along 0 (recordsAlong none above).reverse).map (fun hop => (hop.1, hop.2.id)) =
      (stops above).mapIdx fun hops stop => (climb (hops + 1), stop.id) := by
  have sameIds : ((recordsAlong none above).reverse.filter (·.path.isSome)).map Record.id =
      (stops above).map Node.id := by
    rw [stops, List.filter_reverse, List.filter_reverse, List.map_reverse, List.map_reverse,
      map_id_filter_recordsAlong]
  apply List.ext_getElem?
  intro hops
  have sameAt := congrArg (·[hops]?) sameIds
  simp only [List.getElem?_map] at sameAt
  rw [Hops.along_eq_mapIdx, List.getElem?_map, List.getElem?_mapIdx, List.getElem?_mapIdx,
    Option.map_map]
  have labelled := congrArg (Option.map fun id => (climb (hops + 1), id)) sameAt
  simpa [Option.map_map, Function.comp_def] using labelled

theorem exists_hop_iff (above : List Node) (leads : String → String → Prop) :
    (∃ hop ∈ Hops.along 0 (recordsAlong none above).reverse, leads hop.1 hop.2.id) ↔
      ∃ hops stop, (stops above)[hops]? = some stop ∧ leads (climb (hops + 1)) stop.id := by
  calc
    (∃ hop ∈ Hops.along 0 (recordsAlong none above).reverse, leads hop.1 hop.2.id) ↔
        ∃ reached ∈ (Hops.along 0 (recordsAlong none above).reverse).map
          fun hop => (hop.1, hop.2.id), leads reached.1 reached.2 := by
      simp
    _ ↔ ∃ reached ∈ (stops above).mapIdx fun hops stop => (climb (hops + 1), stop.id),
          leads reached.1 reached.2 := by
      rw [map_along_recordsAlong]
    _ ↔ ∃ hops stop, (stops above)[hops]? = some stop ∧
          leads (climb (hops + 1)) stop.id := by
      simp only [List.mem_iff_getElem?, List.getElem?_mapIdx, Option.map_eq_some_iff]
      constructor
      · rintro ⟨_, ⟨hops, stop, found, rfl⟩, held⟩
        exact ⟨hops, stop, found, held⟩
      · rintro ⟨hops, stop, found, held⟩
        exact ⟨_, ⟨hops, stop, found, rfl⟩, held⟩

/-! ## Going down from a stop -/

/-- The text leads from a route to some route below it. -/
def LeadsBelow (node : Node) (text : String) : Prop :=
  text ≠ "" ∧ ∃ chain, Descends node.children chain ∧ chain ≠ [] ∧
    Continues [""] chain text

/-- A text that continues two chains, one below the other, divides between them. -/
theorem continues_chain_append (starts : List String) (above below : List Node)
    (text : String) :
    Continues starts (above ++ below) text ↔
      ∃ upper, Continues starts above upper ∧
        ∃ rest, Continues [""] below rest ∧ text = Text.joinPaths upper rest := by
  simp only [continues_empty_iff]
  constructor
  · rintro ⟨start, member, pieces, chosen, rfl⟩
    obtain ⟨first, second, rfl, upperChosen, lowerChosen⟩ := chosen.exists_of_append
    refine ⟨_, ⟨start, member, first, upperChosen, rfl⟩, _, ⟨second, lowerChosen, rfl⟩, ?_⟩
    rw [Text.joinPieces_append, Text.joinPaths_assoc]
  · rintro ⟨_, ⟨start, member, first, upperChosen, rfl⟩, _, ⟨second, lowerChosen, rfl⟩, rfl⟩
    refine ⟨start, member, first ++ second, upperChosen.append lowerChosen, ?_⟩
    rw [Text.joinPieces_append, Text.joinPaths_assoc]

theorem continues_start_iff (start : String) {chain : List Node} {text : String} :
    Continues [start] chain text ↔
      ∃ rest, Continues [""] chain rest ∧ text = Text.joinPaths start rest := by
  simpa using continues_chain_append [start] [] chain text

/-- From a start that is not empty, a search below a route finds the start followed
by what leads from the route to the routes below it. -/
theorem start_or_below_iff {start : String} (present : start ≠ "") {node : Node}
    {text : String} :
    (text ∈ [start] ∨ text ≠ "" ∧ ∃ chain, Descends node.children chain ∧ chain ≠ [] ∧
        Continues [start] chain text) ↔
      text = start ∨ ∃ rest, LeadsBelow node rest ∧ text = start ++ "/" ++ rest := by
  simp only [List.mem_singleton, continues_start_iff start]
  constructor
  · rintro (same | ⟨_, chain, inside, below, rest, continues, rfl⟩)
    · exact Or.inl same
    · by_cases empty : rest = ""
      · -- Routes with empty paths lead back to the start itself.
        exact Or.inl (by rw [empty, Text.joinPaths_empty_right])
      · exact Or.inr ⟨rest, ⟨empty, chain, inside, below, continues⟩,
          Text.joinPaths_of_ne_empty present empty⟩
  · rintro (same | ⟨rest, ⟨restPresent, chain, inside, below, continues⟩, rfl⟩)
    · exact Or.inl same
    · refine Or.inr ⟨by simp, chain, inside, below, rest, continues, ?_⟩
      exact (Text.joinPaths_of_ne_empty present restPresent).symm

section Flattened

variable {forest above : List Node} {node : Node} {records : Records}

theorem exists_mem_descendantTargets_iff (flattened : flatten forest = .ok records)
    (inside : Descends forest (above ++ [node])) {text : String} :
    (∃ below, records.descendantTargets node.id [""] = .ok below ∧ text ∈ below) ↔
      LeadsBelow node text := by
  obtain ⟨below, searched, members⟩ := descendantTargets_of_descends flattened inside [""]
  rw [exists_eq_ok_iff searched, members, LeadsBelow]

theorem ancestorTargets_at_stops (flattened : flatten forest = .ok records)
    (inside : Descends forest (above ++ [node])) :
    ∃ targets, records.ancestorTargets node.id = .ok targets ∧
      ∀ text, text ∈ targets ↔ ∃ hops stop, (stops above)[hops]? = some stop ∧
        (text = climb (hops + 1) ∨
          ∃ rest, LeadsBelow stop rest ∧ text = climb (hops + 1) ++ "/" ++ rest) := by
  obtain ⟨targets, succeeds, members⟩ := ancestorTargets_of_descends flattened inside
  refine ⟨targets, succeeds, ?_⟩
  intro text
  have overStops := exists_hop_iff above fun lead id =>
    ∃ found, (Record.targetsBelow records.toList id [lead]).map (lead :: ·) = .ok found ∧
      text ∈ found
  refine ((members text).trans overStops).trans ?_
  refine exists_congr fun hops => exists_congr fun stop => and_congr_right fun reached => ?_
  obtain ⟨_, up, stopInside⟩ := exists_descends_of_stop inside reached
  have searched := hopTargets_yields flattened stopInside (climb (hops + 1)) none
  exact searched.exists_mem_iff.trans (start_or_below_iff (climb_succ_ne_empty hops))

/-- A child of a layout climbs like the layout, which is no stop itself. -/
theorem ancestorTargets_of_pathless_parent (flattened : flatten forest = .ok records)
    {parent child : Node} (inside : Descends forest ((above ++ [parent]) ++ [child]))
    (absent : parent.path = none) :
    records.ancestorTargets child.id = records.ancestorTargets parent.id := by
  have parentInside := (descends_append_iff.mp inside).1
  have sameStops : stops (above ++ [parent]) = stops above := by
    simp [stops, absent]
  refine eq_of_same_members (ancestorTargets_at_stops flattened inside)
    (ancestorTargets_at_stops flattened parentInside) fun text => ?_
  rw [sameStops]

/-- The targets by which a route climbs are those of its stops. Each stop gives as
many `..` as there are stops up to it, alone or with a slash and a target below
the stop; an ancestor without a path takes no hop. -/
theorem mem_ancestorTargets_iff_exists_stop (flattened : flatten forest = .ok records)
    {id : String} (known : id ∈ records.ids) :
    ∃ targets, records.ancestorTargets id = .ok targets ∧
      ∀ target, target ∈ targets ↔
        ∃ above node hops stop, Descends forest (above ++ [node]) ∧ node.id = id ∧
          (stops above)[hops]? = some stop ∧
          (target = climb (hops + 1) ∨
            ∃ below, records.descendantTargets stop.id [""] = .ok below ∧
              ∃ rest ∈ below, target = climb (hops + 1) ++ "/" ++ rest) := by
  obtain ⟨above, node, inside, rfl⟩ := (mem_ids_iff flattened).mp known
  obtain ⟨targets, succeeds, members⟩ := ancestorTargets_at_stops flattened inside
  refine ⟨targets, succeeds, ?_⟩
  intro target
  rw [members]
  constructor
  · rintro ⟨hops, stop, reached, stays | ⟨rest, leads, goesDown⟩⟩
    · exact ⟨above, node, hops, stop, inside, rfl, reached, Or.inl stays⟩
    · obtain ⟨_, up, stopInside⟩ := exists_descends_of_stop inside reached
      obtain ⟨below, searched, member⟩ :=
        (exists_mem_descendantTargets_iff flattened stopInside).mpr leads
      exact ⟨above, node, hops, stop, inside, rfl, reached,
        Or.inr ⟨below, searched, rest, member, goesDown⟩⟩
  · rintro ⟨others, other, hops, stop, otherInside, sameId, reached, target⟩
    obtain ⟨rfl, rfl⟩ := chain_unique flattened otherInside inside sameId
    refine ⟨hops, stop, reached, ?_⟩
    rcases target with stays | ⟨below, searched, rest, member, goesDown⟩
    · exact Or.inl stays
    · obtain ⟨_, up, stopInside⟩ := exists_descends_of_stop inside reached
      have leads : LeadsBelow stop rest :=
        (exists_mem_descendantTargets_iff flattened stopInside).mp ⟨below, searched, member⟩
      exact Or.inr ⟨rest, leads, goesDown⟩

/-- In the small tree the second hop of the page leads past the layout to the top,
from where the project can be reached again. -/
theorem climb_past_frame :
    flatten [Sample.home] = .ok Sample.records ∧ "page" ∈ Sample.records.ids ∧
      ∃ targets, Sample.records.ancestorTargets "page" = .ok targets ∧
        ".." ∈ targets ∧ "../.." ∈ targets ∧ "../../:id/tabs" ∈ targets := by
  have known : "page" ∈ Sample.records.ids := by decide
  have inside := Sample.descends_page
  have homeInside : Descends [Sample.home] ([] ++ [Sample.home]) := by simp [Descends]
  obtain ⟨targets, succeeds, members⟩ :=
    mem_ancestorTargets_iff_exists_stop Sample.flatten_home known
  have toProject : LeadsBelow Sample.home ":id/tabs" := by
    refine ⟨by decide, [Sample.frame, Sample.project], ?_, by simp,
      continues_empty_iff.mpr ⟨[":id/tabs"], ?_, by decide⟩⟩
    · simp [Descends, Sample.home, Sample.frame]
    · exact .pathless rfl (.path rfl (by decide) .nil)
  obtain ⟨below, searched, member⟩ :=
    (exists_mem_descendantTargets_iff Sample.flatten_home homeInside).mpr toProject
  refine ⟨Sample.flatten_home, known, targets, succeeds, (members _).mpr ?_,
    (members _).mpr ?_, (members _).mpr ?_⟩
  · exact ⟨_, _, 0, Sample.project, inside, rfl, rfl, Or.inl (by decide)⟩
  · exact ⟨_, _, 1, Sample.home, inside, rfl, rfl, Or.inl (by decide)⟩
  · exact ⟨_, _, 1, Sample.home, inside, rfl, rfl,
      Or.inr ⟨below, searched, _, member, by decide⟩⟩

end Flattened

end RouteTree
