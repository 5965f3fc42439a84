import RouteTree.Proofs.Climbing
import RouteTree.Proofs.Links

/-!
# Resolving relative targets

A relative target is resolved by joining it to a URL of the route from which it
counts. A URL of a chain can be divided at every route of the chain, so what is
listed below a route resolves to what is listed from the top, and nothing below
the route is missed.
-/

namespace RouteTree

/-- A URL of the last route of a chain: one concrete path of every route on the
chain that has a path, joined without the empty ones. -/
def Records.UrlOf (records : Records) (chain : List Node) (url : String) : Prop :=
  ∃ pieces, Chosen records.pathsOf chain pieces ∧ url = Text.joinPieces pieces

/-- The text leads from a route to some route below it, or stays where it is. -/
def Table.StaysOrLeads (table : Table) (id text : String) : Prop :=
  text = "" ∨ ∃ below, table.descendantTargets id = .ok below ∧ text ∈ below

theorem urlOf_iff_continues {forest : List Node} {records : Records}
    (flattened : flatten forest = .ok records) {chain : List Node}
    (inside : Descends forest chain) {url : String} :
    records.UrlOf chain url ↔ Continues [""] chain url := by
  have samePaths := pathsOf_eq_paths flattened inside
  simp only [Records.UrlOf, continues_empty_iff, Chosen.congr samePaths]

theorem Continues.exists_path {chain : List Node} {text : String}
    (continues : Continues [""] chain text) (present : text ≠ "") :
    ∃ route ∈ chain, route.path.isSome := by
  obtain ⟨pieces, chosen, rfl⟩ := continues_empty_iff.mp continues
  by_contra pathless
  have noPath : ∀ route ∈ chain, route.path = none := by
    simpa using pathless
  rw [chosen.pieces_eq_nil noPath] at present
  exact present Text.joinPieces_nil

/-- A chain without any path has no target of its own, so either the chain above or
the text below has to name one. -/
theorem spells_joinPaths {above below : List Node} {url rest : String}
    (upper : Continues [""] above url) (lower : Continues [""] below rest)
    (present : (∃ route ∈ above, route.path.isSome) ∨ rest ≠ "") :
    Spells (above ++ below) ("/" ++ Text.joinPaths url rest) := by
  refine ⟨?_, Text.joinPaths url rest, ?_, rfl⟩
  · rcases present with ⟨route, member, path⟩ | restPresent
    · exact ⟨route, List.mem_append_left below member, path⟩
    · obtain ⟨route, member, path⟩ := lower.exists_path restPresent
      exact ⟨route, List.mem_append_right above member, path⟩
  · exact (continues_chain_append [""] above below _).mpr ⟨url, upper, rest, lower, rfl⟩

section Chains

variable {forest above : List Node} {node : Node}

theorem LeadsBelow.exists_spells (inside : Descends forest (above ++ [node]))
    {url rest : String} (leads : LeadsBelow node rest)
    (upper : Continues [""] (above ++ [node]) url) :
    ∃ chain, Descends forest chain ∧ Spells chain ("/" ++ Text.joinPaths url rest) := by
  obtain ⟨restPresent, below, belowInside, _, lower⟩ := leads
  exact ⟨(above ++ [node]) ++ below, descends_append_iff.mpr ⟨inside, belowInside⟩,
    spells_joinPaths upper lower (Or.inr restPresent)⟩

/-- A route with a path is a target itself, with any of its URLs. -/
theorem exists_spells_of_stays_or_leads (inside : Descends forest (above ++ [node]))
    (present : node.path.isSome) {url rest : String} (follows : rest = "" ∨ LeadsBelow node rest)
    (upper : Continues [""] (above ++ [node]) url) :
    ∃ chain, Descends forest chain ∧ Spells chain ("/" ++ Text.joinPaths url rest) := by
  rcases follows with rfl | leads
  · have spells := spells_joinPaths upper (continues_nil.mpr (List.mem_singleton_self ""))
      (Or.inl ⟨node, by simp, present⟩)
    rw [List.append_nil] at spells
    exact ⟨above ++ [node], inside, spells⟩
  · exact leads.exists_spells inside upper

/-- A URL of a route below is a URL of the route above it, continued by what leads
from one to the other. -/
theorem exists_leadsBelow_of_continues {below : List Node}
    (belowInside : Descends node.children below) {url : String}
    (continues : Continues [""] ((above ++ [node]) ++ below) url) :
    ∃ start rest, Continues [""] (above ++ [node]) start ∧
      (rest = "" ∨ LeadsBelow node rest) ∧ url = Text.joinPaths start rest := by
  obtain ⟨start, upper, rest, lower, spelled⟩ :=
    (continues_chain_append [""] (above ++ [node]) below url).mp continues
  refine ⟨start, rest, upper, ?_, spelled⟩
  by_cases empty : rest = ""
  · exact Or.inl empty
  · have present : below ≠ [] := by
      rintro rfl
      exact empty (by simpa using lower)
    exact Or.inr ⟨empty, below, belowInside, present, lower⟩

end Chains

namespace Table

variable {table : Table} {above : List Node} {node : Node}

theorem staysOrLeads_iff (inside : Descends table.forest (above ++ [node])) {text : String} :
    table.StaysOrLeads node.id text ↔ text = "" ∨ LeadsBelow node text :=
  or_congr_right (exists_mem_descendantTargets_iff table.flatten_forest inside)

end Table

/-- A target below a route, joined to any URL of the route, is an absolute target,
and every URL of a route below is joined in this way. The targets by which a route
climbs resolve likewise at the stops to which their hops lead. -/
theorem relative_targets_resolve (table : Table) {above : List Node} {node : Node}
    (inside : Descends table.forest (above ++ [node])) :
    ∃ absolute climbing below, table.absoluteTargets = .ok absolute ∧
      table.ancestorTargets node.id = .ok climbing ∧
      table.descendantTargets node.id = .ok below ∧
      (∀ url, table.records.UrlOf (above ++ [node]) url → ∀ rest ∈ below,
        "/" ++ Text.joinPaths url rest ∈ absolute) ∧
      (∀ lower goal, Descends table.forest ((above ++ [node]) ++ (lower ++ [goal])) →
        ∀ url, table.records.UrlOf ((above ++ [node]) ++ (lower ++ [goal])) url →
          ∃ start rest, table.records.UrlOf (above ++ [node]) start ∧
            (rest ∈ below ∨ rest = "") ∧ "/" ++ url = "/" ++ Text.joinPaths start rest) ∧
      (∀ target ∈ climbing, ∃ (hops : Nat) (stop : Node) (rest : String),
        (stops above)[hops]? = some stop ∧ table.StaysOrLeads stop.id rest ∧
          target = Text.joinPaths (climb (hops + 1)) rest) ∧
      ∀ (hops : Nat) (stop : Node) (rest : String), (stops above)[hops]? = some stop →
        table.StaysOrLeads stop.id rest → ∀ up, Descends table.forest (up ++ [stop]) →
          ∀ url, table.records.UrlOf (up ++ [stop]) url →
            "/" ++ Text.joinPaths url rest ∈ absolute := by
  have flattened := table.flatten_forest
  obtain ⟨absolute, absoluteSucceeds, absoluteMembers⟩ := absoluteTargets_of_flatten flattened
  obtain ⟨climbing, climbingSucceeds, climbingMembers⟩ :=
    ancestorTargets_at_stops flattened inside
  obtain ⟨below, belowSucceeds, belowMembers⟩ :=
    descendantTargets_of_descends flattened inside [""]
  refine ⟨absolute, climbing, below, absoluteSucceeds, climbingSucceeds, belowSucceeds,
    ?_, ?_, ?_, ?_⟩
  · intro url isUrl rest member
    have upper := (urlOf_iff_continues flattened inside).mp isUrl
    have leads : LeadsBelow node rest := (belowMembers rest).mp member
    exact (absoluteMembers _).mpr (leads.exists_spells inside upper)
  · intro lower goal whole url isUrl
    have continues := (urlOf_iff_continues flattened whole).mp isUrl
    obtain ⟨start, rest, upper, leads, rfl⟩ :=
      exists_leadsBelow_of_continues (descends_append_iff.mp whole).2 continues
    refine ⟨start, rest, (urlOf_iff_continues flattened inside).mpr upper, ?_, rfl⟩
    rcases leads with empty | leads
    · exact Or.inr empty
    · exact Or.inl ((belowMembers rest).mpr leads)
  · intro target member
    obtain ⟨hops, stop, reached, stays | ⟨rest, leads, goesDown⟩⟩ :=
      (climbingMembers target).mp member
    · exact ⟨hops, stop, "", reached, Or.inl rfl, by rw [stays, Text.joinPaths_empty_right]⟩
    · obtain ⟨_, up, stopInside⟩ := exists_descends_of_stop inside reached
      refine ⟨hops, stop, rest, reached, (Table.staysOrLeads_iff stopInside).mpr (Or.inr leads),
        ?_⟩
      rw [goesDown, Text.joinPaths_of_ne_empty (climb_succ_ne_empty hops) leads.1]
  · intro hops stop rest reached follows up stopInside url isUrl
    obtain ⟨present, _⟩ := exists_descends_of_stop inside reached
    have upper := (urlOf_iff_continues flattened stopInside).mp isUrl
    have staysOrLeads := (Table.staysOrLeads_iff stopInside).mp follows
    exact (absoluteMembers _).mpr
      (exists_spells_of_stays_or_leads stopInside present staysOrLeads upper)

/-- In the small tree the project leads down to the page, and up to the top and down
again past the layout; both ways resolve to absolute targets. -/
theorem project_targets_resolve :
    Descends Sample.table.forest ([Sample.home, Sample.frame] ++ [Sample.project]) ∧
      ∃ absolute, Sample.table.absoluteTargets = .ok absolute ∧
        "/" ++ Text.joinPaths ":id/tabs" "*" ∈ absolute ∧
        "/" ++ Text.joinPaths "" ":id" ∈ absolute := by
  have page : Descends [Sample.home]
      ([Sample.home, Sample.frame] ++ Sample.project :: [Sample.page]) := Sample.descends_page
  obtain ⟨inside, pageBelow⟩ := descends_append_cons.mp page
  have homeInside : Descends [Sample.home] ([] ++ [Sample.home]) :=
    descends_singleton.mpr List.mem_cons_self
  have projectBelow : Descends Sample.home.children [Sample.frame, Sample.project] :=
    inside.2
  obtain ⟨absolute, climbing, below, succeeds, _, searched, down, _, _, up⟩ :=
    relative_targets_resolve Sample.table inside
  refine ⟨inside, absolute, succeeds, down _ ?_ _ ?_, up 0 Sample.home _ rfl ?_ [] homeInside _ ?_⟩
  · exact ⟨["", ":id/tabs"], .path rfl (by decide) (.pathless rfl (.path rfl (by decide) .nil)),
      by decide⟩
  · have leads : LeadsBelow Sample.project "*" :=
      ⟨by decide, [Sample.page], pageBelow, by simp,
        continues_empty_iff.mpr ⟨["*"], .path rfl (by decide) .nil, by decide⟩⟩
    have listed := (exists_mem_descendantTargets_iff Sample.table.flatten_forest inside).mpr leads
    exact (exists_eq_ok_iff searched).mp listed
  · refine (Table.staysOrLeads_iff homeInside).mpr (Or.inr ?_)
    exact ⟨by decide, [Sample.frame, Sample.project], projectBelow, by simp,
      continues_empty_iff.mpr
        ⟨[":id"], .pathless rfl (.path rfl (by decide) .nil), by decide⟩⟩
  · exact ⟨[""], .path rfl (by decide) .nil, by decide⟩

end RouteTree
