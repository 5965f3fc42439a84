import RouteTree.Proofs.Climbing
import RouteTree.Proofs.Firm
import RouteTree.Proofs.Links
import RouteTree.Proofs.Refusals

/-!
# Slashes in targets

A target below a route is never empty, an absolute one starts with a slash and one
that climbs starts with two dots. The outer slashes of every path are stripped, so
where the patterns along its chain are firm no other slash stands at its ends.
Inner slashes are kept as they are: two of them stand side by side in a target
exactly if they do so in a path along its chain.
-/

namespace RouteTree

namespace Node

/-- The path of the route is firm, if it has one. -/
def Firm (node : Node) : Prop :=
  ∀ pattern, node.path = some pattern → RouteTree.Firm pattern

/-- The route has a path with two slashes side by side. -/
def Doubled (node : Node) : Prop :=
  ∃ pattern, node.path = some pattern ∧ Text.Contains "//" pattern

theorem Doubled.path_isSome {node : Node} (doubled : node.Doubled) : node.path.isSome := by
  obtain ⟨pattern, path, _⟩ := doubled
  exact Option.isSome_iff_exists.mpr ⟨pattern, path⟩

/-- No slash stands at either end of the route's path, if it has one. -/
def Closed (node : Node) : Prop :=
  ∀ pattern, node.path = some pattern → Text.Flush pattern

namespace Firm

variable {node : Node} {piece : String}

theorem flush (firm : node.Firm) (closed : node.Closed) (member : piece ∈ node.paths) :
    Text.Flush piece := by
  obtain ⟨pattern, path, listed⟩ := mem_paths_iff.mp member
  exact (firm pattern path).flush (closed pattern path) listed

theorem contains_slashes_iff (firm : node.Firm) (closed : node.Closed)
    (member : piece ∈ node.paths) : Text.Contains "//" piece ↔ node.Doubled := by
  obtain ⟨pattern, path, listed⟩ := mem_paths_iff.mp member
  rw [(firm pattern path).contains_slashes_iff (closed pattern path) listed, Doubled]
  simp [path]

end Firm

end Node

/-! ## Stripped paths -/

namespace Description

theorem mem_toNodes_iff {parentId : Option String} {descriptions : List Description}
    {node : Node} :
    node ∈ toNodes parentId descriptions ↔
      ∃ description ∈ descriptions, description.toNode parentId = node := by
  induction descriptions with
  | nil => simp [toNodes]
  | cons first rest ih => simp [toNodes, ih, eq_comm]

theorem closed_toNode (description : Description) (parentId : Option String) :
    (description.toNode parentId).Closed := by
  obtain ⟨explicit, path, index, children⟩ := description
  intro pattern stripped
  obtain ⟨text, _, rfl⟩ := Option.map_eq_some_iff.mp stripped
  exact Text.flush_trimSlashes text

theorem closed_of_descends {above : List Node} {node : Node} {parentId : Option String}
    {descriptions : List Description}
    (inside : Descends (toNodes parentId descriptions) (above ++ [node])) : node.Closed := by
  induction above generalizing parentId descriptions with
  | nil =>
      obtain ⟨description, _, rfl⟩ := mem_toNodes_iff.mp inside.1
      exact closed_toNode description parentId
  | cons first rest ih =>
      obtain ⟨member, below⟩ := inside
      obtain ⟨⟨explicit, path, index, children⟩, _, rfl⟩ := mem_toNodes_iff.mp member
      exact ih below

end Description

theorem Table.closed_of_descends {descriptions : List Description} {table : Table}
    (accepted : Table.ofDescriptions descriptions = .ok table) {chain : List Node}
    (inside : Descends table.forest chain) : ∀ route ∈ chain, route.Closed := by
  obtain ⟨_, same⟩ := Table.ofDescriptions_eq_ok_iff.mp accepted
  rw [same] at inside
  exact inside.forall_mem fun _ _ => Description.closed_of_descends

/-! ## Paths along a chain -/

section Chosen

variable {chain : List Node} {pieces : List String} (chosen : Chosen Node.paths chain pieces)
  (closed : ∀ route ∈ chain, route.Closed) (firm : ∀ route ∈ chain, route.Firm)
include chosen closed firm

theorem flush_of_chosen : ∀ piece ∈ pieces, Text.Flush piece := by
  intro piece member
  obtain ⟨route, inChain, listed⟩ := chosen.exists_node_of_mem member
  exact (firm route inChain).flush (closed route inChain) listed

theorem exists_piece_contains_slashes_iff :
    (∃ piece ∈ pieces, Text.Contains "//" piece) ↔ ∃ route ∈ chain, route.Doubled := by
  constructor
  · rintro ⟨piece, member, contains⟩
    obtain ⟨route, inChain, listed⟩ := chosen.exists_node_of_mem member
    have same := (firm route inChain).contains_slashes_iff (closed route inChain) listed
    exact ⟨route, inChain, same.mp contains⟩
  · rintro ⟨route, inChain, doubled⟩
    obtain ⟨piece, member, listed⟩ := chosen.exists_piece_of_mem inChain doubled.path_isSome
    have same := (firm route inChain).contains_slashes_iff (closed route inChain) listed
    exact ⟨piece, member, same.mpr doubled⟩

end Chosen

/-! ## Climbing -/

theorem flush_replicate_dots (hops : Nat) :
    ∀ piece ∈ List.replicate hops "..", Text.Flush piece := by
  intro piece member
  rw [List.eq_of_mem_replicate member]
  exact Text.flush_of_free (by decide)

theorem flush_climb (hops : Nat) : Text.Flush (climb hops) := by
  rw [climb_eq_joinPieces]
  exact Text.flush_joinPieces (flush_replicate_dots hops)

theorem not_contains_slashes_climb (hops : Nat) : ¬ Text.Contains "//" (climb hops) := by
  rw [climb_eq_joinPieces, Text.contains_joinPieces_iff (flush_replicate_dots hops)]
  rintro ⟨piece, member, contains⟩
  rw [List.eq_of_mem_replicate member] at contains
  exact Text.not_contains_slashes_of_free (by decide) contains

theorem startsWith_dots_climb (hops : Nat) (rest : String) :
    Text.StartsWith ".." (Text.joinPaths (climb (hops + 1)) rest) := by
  rw [climb_eq_joinPieces, List.replicate_succ, Text.joinPieces_cons, Text.joinPaths_assoc]
  by_cases empty : Text.joinPaths (Text.joinPieces (List.replicate hops "..")) rest = ""
  · exact ⟨"", by rw [empty]; rfl⟩
  · refine ⟨"/" ++ Text.joinPaths (Text.joinPieces (List.replicate hops "..")) rest, ?_⟩
    rw [Text.joinPaths_of_ne_empty (by decide) empty, String.append_assoc]

/-! ## Targets and their chains -/

/-- The target leads below a route, along a chain of the routes there. -/
def LeadsAlong (node : Node) (chain : List Node) (target : String) : Prop :=
  Descends node.children chain ∧ Continues [""] chain target

/-- The target climbs to a stop and leads below it, along a chain of the routes there. -/
def ClimbsAlong (above chain : List Node) (target : String) : Prop :=
  ∃ hops stop rest, (stops above)[hops]? = some stop ∧ LeadsAlong stop chain rest ∧
    target = Text.joinPaths (climb (hops + 1)) rest

section Firm

variable {chain : List Node} {target : String} (closed : ∀ route ∈ chain, route.Closed)
  (firm : ∀ route ∈ chain, route.Firm)
include closed firm

theorem Continues.flush (continues : Continues [""] chain target) :
    Text.Flush target ∧ (Text.Contains "//" target ↔ ∃ route ∈ chain, route.Doubled) := by
  obtain ⟨pieces, chosen, rfl⟩ := continues_empty_iff.mp continues
  have flush : ∀ piece ∈ pieces, Text.Flush piece := flush_of_chosen chosen closed firm
  refine ⟨Text.flush_joinPieces flush, ?_⟩
  rw [Text.contains_joinPieces_iff flush, exists_piece_contains_slashes_iff chosen closed firm]

theorem ClimbsAlong.flush {above : List Node} (climbs : ClimbsAlong above chain target) :
    Text.Flush target ∧ (Text.Contains "//" target ↔ ∃ route ∈ chain, route.Doubled) := by
  obtain ⟨hops, stop, rest, _, ⟨_, continues⟩, rfl⟩ := climbs
  obtain ⟨flush, doubled⟩ := continues.flush closed firm
  have climbFlush : Text.Flush (climb (hops + 1)) := flush_climb (hops + 1)
  refine ⟨climbFlush.joinPaths flush, ?_⟩
  rw [Text.contains_joinPaths_iff climbFlush flush,
    or_iff_right (not_contains_slashes_climb (hops + 1)), doubled]

theorem Spells.slashes (spells : Spells chain target) :
    ¬ Text.StartsWith "//" target ∧ (Text.EndsWith "/" target → target = "/") ∧
      (Text.Contains "//" target ↔ ∃ route ∈ chain, route.Doubled) := by
  obtain ⟨_, text, continues, rfl⟩ := spells
  obtain ⟨flush, doubled⟩ := continues.flush closed firm
  refine ⟨Text.not_startsWith_slash_append flush, ?_, ?_⟩
  · intro ends
    by_cases empty : text = ""
    · rw [empty]
      rfl
    · exact absurd ends (Text.not_endsWith_slash_append empty flush)
  · rw [Text.contains_slash_append_iff flush, doubled]

end Firm

/-! ## Every target has a chain -/

section Members

variable {forest above chain : List Node} {node : Node} {target : String}

theorem LeadsAlong.descends (inside : Descends forest (above ++ [node]))
    (leads : LeadsAlong node chain target) : Descends forest ((above ++ [node]) ++ chain) :=
  descends_append_iff.mpr ⟨inside, leads.1⟩

theorem ClimbsAlong.exists_descends (inside : Descends forest (above ++ [node]))
    (climbs : ClimbsAlong above chain target) : ∃ up, Descends forest (up ++ chain) := by
  obtain ⟨hops, stop, rest, reached, leads, _⟩ := climbs
  obtain ⟨_, up, stopInside⟩ := exists_descends_of_stop inside reached
  exact ⟨up ++ [stop], leads.descends stopInside⟩

theorem exists_climbsAlong_iff :
    (∃ chain, ClimbsAlong above chain target) ↔
      ∃ hops stop, (stops above)[hops]? = some stop ∧
        (target = climb (hops + 1) ∨
          ∃ rest, LeadsBelow stop rest ∧ target = climb (hops + 1) ++ "/" ++ rest) := by
  constructor
  · rintro ⟨chain, hops, stop, rest, reached, ⟨inside, continues⟩, rfl⟩
    refine ⟨hops, stop, reached, ?_⟩
    by_cases empty : rest = ""
    · rw [empty, Text.joinPaths_empty_right]
      exact Or.inl rfl
    · refine Or.inr ⟨rest, ⟨empty, chain, inside, ?_, continues⟩,
        Text.joinPaths_of_ne_empty (climb_succ_ne_empty hops) empty⟩
      rintro rfl
      exact empty (List.mem_singleton.mp (continues_nil.mp continues))
  · rintro ⟨hops, stop, reached, rfl | ⟨rest, ⟨present, chain, inside, _, continues⟩, rfl⟩⟩
    · refine ⟨[], hops, stop, "", reached, ⟨trivial, continues_nil.mpr List.mem_cons_self⟩, ?_⟩
      rw [Text.joinPaths_empty_right]
    · exact ⟨chain, hops, stop, rest, reached, ⟨inside, continues⟩,
        (Text.joinPaths_of_ne_empty (climb_succ_ne_empty hops) present).symm⟩

end Members

/-- Below a route no target is empty, absolute targets start with a slash, and those
that climb start with two dots. Each target leads along a chain of routes, and
where these are firm it has no other slash at its ends, while inside it two
slashes stand side by side exactly if they do so in the path of one of them. -/
theorem targets_slashes {descriptions : List Description} {table : Table}
    (accepted : Table.ofDescriptions descriptions = .ok table) {above : List Node} {node : Node}
    (inside : Descends table.forest (above ++ [node])) :
    ∃ below climbing absolute, table.descendantTargets node.id = .ok below ∧
      table.ancestorTargets node.id = .ok climbing ∧ table.absoluteTargets = .ok absolute ∧
      (∀ target ∈ below, target ≠ "" ∧ ∃ chain, LeadsAlong node chain target) ∧
      (∀ target ∈ climbing, Text.StartsWith ".." target ∧
        ∃ chain, ClimbsAlong above chain target) ∧
      (∀ target ∈ absolute, Text.StartsWith "/" target ∧
        ∃ chain, Descends table.forest chain ∧ Spells chain target) ∧
      ∀ chain, (∀ route ∈ chain, route.Firm) → ∀ target,
        (LeadsAlong node chain target ∨ ClimbsAlong above chain target →
          Text.Flush target ∧
            (Text.Contains "//" target ↔ ∃ route ∈ chain, route.Doubled)) ∧
        (Descends table.forest chain ∧ Spells chain target →
          ¬ Text.StartsWith "//" target ∧ (Text.EndsWith "/" target → target = "/") ∧
            (Text.Contains "//" target ↔ ∃ route ∈ chain, route.Doubled)) := by
  have flattened := table.flatten_forest
  have closedAfter : ∀ up chain, Descends table.forest (up ++ chain) →
      ∀ route ∈ chain, route.Closed := by
    intro up chain chainInside route member
    exact Table.closed_of_descends accepted chainInside route (List.mem_append_right up member)
  obtain ⟨below, belowFound, belowMembers⟩ := descendantTargets_of_descends flattened inside [""]
  obtain ⟨climbing, climbingFound, climbingMembers⟩ := ancestorTargets_at_stops flattened inside
  obtain ⟨absolute, absoluteFound, absoluteMembers⟩ := absoluteTargets_of_flatten flattened
  refine ⟨below, climbing, absolute, belowFound, climbingFound, absoluteFound, ?_, ?_, ?_, ?_⟩
  · intro target member
    obtain ⟨present, chain, chainInside, _, continues⟩ := (belowMembers target).mp member
    exact ⟨present, chain, chainInside, continues⟩
  · intro target member
    obtain ⟨chain, climbs⟩ := exists_climbsAlong_iff.mpr ((climbingMembers target).mp member)
    refine ⟨?_, chain, climbs⟩
    obtain ⟨hops, _, rest, _, _, rfl⟩ := climbs
    exact startsWith_dots_climb hops rest
  · intro target member
    obtain ⟨chain, chainInside, spells⟩ := (absoluteMembers target).mp member
    refine ⟨?_, chain, chainInside, spells⟩
    obtain ⟨_, text, _, rfl⟩ := spells
    exact ⟨text, rfl⟩
  · intro chain firm target
    constructor
    · rintro (leads | climbs)
      · have closed := closedAfter _ chain (leads.descends inside)
        exact leads.2.flush closed firm
      · obtain ⟨up, chainInside⟩ := climbs.exists_descends inside
        exact climbs.flush (closedAfter up chain chainInside) firm
    · rintro ⟨chainInside, spells⟩
      exact spells.slashes (closedAfter [] chain chainInside) firm

namespace Sample

/-- The small tree as its author may write it, with slashes around the paths. -/
def descriptions : List Description :=
  [⟨some "home", some "/", false, [⟨some "index", none, true, []⟩,
    ⟨some "frame", none, false, [⟨some "project", some "/:id/tabs?/", false,
      [⟨some "page", some "//:id?/*", false, []⟩]⟩]⟩]⟩]

theorem ofDescriptions_table : Table.ofDescriptions descriptions = .ok table := by
  have places : placesOf descriptions = Node.preorders none [home] := by rfl
  apply Table.ofDescriptions_eq_ok_iff.mpr
  refine ⟨?_, rfl⟩
  rw [places]
  simp [Node.preorders, Node.preorder, Node.Proper, home, index, frame, project, page]

theorem firm_below_home : ∀ route ∈ [frame, project], route.Firm := by
  intro route member pattern path
  simp only [List.mem_cons, List.not_mem_nil, or_false] at member
  rcases member with rfl | rfl
  · cases path
  · cases path
    exact firm_of_no_blank (by decide)

theorem not_doubled_below_home : ¬ ∃ route ∈ [frame, project], route.Doubled := by
  rintro ⟨route, member, pattern, path, doubled⟩
  simp only [List.mem_cons, List.not_mem_nil, or_false] at member
  rcases member with rfl | rfl
  · cases path
  · cases path
    exact Text.not_contains_slashes_of_no_empty (by decide) doubled

end Sample

/-- In the small tree the page climbs past the layout and goes down to the project
again, with single slashes all the way. -/
theorem page_target_slashes :
    Table.ofDescriptions Sample.descriptions = .ok Sample.table ∧
      Descends Sample.table.forest ([Sample.home, Sample.frame, Sample.project] ++ [Sample.page]) ∧
      ClimbsAlong [Sample.home, Sample.frame, Sample.project] [Sample.frame, Sample.project]
        "../../:id/tabs" ∧
      Text.Flush "../../:id/tabs" ∧ ¬ Text.Contains "//" "../../:id/tabs" := by
  have inside : Descends Sample.table.forest
      ([Sample.home, Sample.frame, Sample.project] ++ [Sample.page]) := Sample.descends_page
  have down : LeadsAlong Sample.home [Sample.frame, Sample.project] ":id/tabs" := by
    refine ⟨by simp [Descends, Sample.home, Sample.frame], continues_empty_iff.mpr ?_⟩
    exact ⟨[":id/tabs"], .pathless rfl (.path rfl (by decide) .nil), by decide⟩
  have climbs : ClimbsAlong [Sample.home, Sample.frame, Sample.project]
      [Sample.frame, Sample.project] "../../:id/tabs" :=
    ⟨1, Sample.home, ":id/tabs", rfl, down, by decide⟩
  obtain ⟨_, _, _, _, _, _, _, _, _, along⟩ := targets_slashes Sample.ofDescriptions_table inside
  obtain ⟨flush, doubled⟩ := (along _ Sample.firm_below_home _).1 (Or.inr climbs)
  exact ⟨Sample.ofDescriptions_table, inside, climbs, flush,
    doubled.not.mpr Sample.not_doubled_below_home⟩

namespace Sample

def inner : Node := ⟨"/a//b", some "a//b", false, []⟩

def outer : Node := ⟨"/", some "", false, [inner]⟩

theorem flatten_outer :
    flatten [outer] = .ok ⟨[outer.record none, inner.record (some "/")]⟩ := by rfl

def slashed : Table := ⟨[outer], _, flatten_outer⟩

end Sample

/-- Two slashes inside a path stay there, so they show in targets of every form. -/
theorem inner_slashes_kept :
    Table.ofDescriptions [⟨none, some "/", false, [Description.ofPath "/a//b/"]⟩] =
        .ok Sample.slashed ∧
      (∃ below, Sample.slashed.descendantTargets "/" = .ok below ∧
        ∃ target ∈ below, Text.Contains "//" target) ∧
      (∃ climbing, Sample.slashed.ancestorTargets "/a//b" = .ok climbing ∧
        ∃ target ∈ climbing, Text.Contains "//" target) ∧
      ∃ absolute, Sample.slashed.absoluteTargets = .ok absolute ∧
        ∃ target ∈ absolute, Text.Contains "//" target := by
  have normalized : normalize [⟨none, some "/", false, [Description.ofPath "/a//b/"]⟩] =
      .ok [Sample.outer] := by rfl
  refine ⟨?_, ⟨_, rfl, "a//b", by decide, "a", "b", rfl⟩,
    ⟨_, rfl, "../a//b", by decide, "../a", "b", rfl⟩, _, rfl, "/a//b", by decide, "/a", "b", rfl⟩
  rw [Table.ofDescriptions, normalized, Except.bind, Table.ofForest_eq_ok Sample.flatten_outer]
  rfl

end RouteTree
