import RouteTree.Proofs.Acceptance
import RouteTree.Proofs.Resolving

/-!
# Pages and the links to them

A page renders at the URL that its chain spells, an index route at the URL of
the routes above it. The absolute targets list the URLs of all chains that have
a path; a chain without any path renders at the top, which is listed only if a
route with an empty path leads there.
-/

namespace RouteTree

section Flattened

variable {forest chain : List Node} {records : Records} {absolute : SortedSet String}

theorem top_mem_iff_exists_urlOf (flattened : flatten forest = .ok records)
    (succeeds : records.absoluteTargets = .ok absolute) :
    "/" ∈ absolute ↔
      ∃ above node, Descends forest (above ++ [node]) ∧ node.path.isSome ∧
        records.UrlOf (above ++ [node]) "" := by
  obtain ⟨found, foundSucceeds, members⟩ := mem_absoluteTargets_iff_exists_chosen flattened
  rw [succeeds] at foundSucceeds
  cases foundSucceeds
  rw [members]
  refine exists_congr fun above => exists_congr fun node => ?_
  constructor
  · rintro ⟨pieces, inside, present, chosen, spelled⟩
    exact ⟨inside, present, pieces, chosen, (String.append_right_inj "/").mp spelled⟩
  · rintro ⟨inside, present, pieces, chosen, empty⟩
    exact ⟨pieces, inside, present, chosen, congrArg ("/" ++ ·) empty⟩

theorem Continues.eq_empty {chain : List Node} {url : String}
    (continues : Continues [""] chain url) (pathless : ∀ route ∈ chain, route.path = none) :
    url = "" := by
  obtain ⟨pieces, chosen, rfl⟩ := continues_empty_iff.mp continues
  rw [chosen.pieces_eq_nil pathless, Text.joinPieces_nil]

end Flattened

theorem Table.reaches_of_mem_absolute {table : Table} {absolute : SortedSet String}
    (succeeds : table.absoluteTargets = .ok absolute) {target : String}
    (listed : target ∈ absolute) {id : String} (known : id ∈ table.ids) :
    table.reaches id target = .ok true := by
  obtain ⟨chain, inside, spells⟩ :=
    (mem_absolute_iff_exists_spells table.flatten_forest succeeds).mp listed
  obtain ⟨targets, targetsSucceed, member⟩ := table.absolute_mem_targets known inside spells
  rw [Table.reaches, targetsSucceed]
  simp [Except.map, member]

/-- Every URL of a chain that has a path is an absolute target, and every absolute
target can be reached from every route. A chain without any path has the top of
the tree as its URL; it is an absolute target exactly if a route with a path has
it as a URL as well. -/
theorem page_url_reachable (table : Table) {above : List Node} {node : Node}
    (inside : Descends table.forest (above ++ [node])) {url : String}
    (isUrl : table.records.UrlOf (above ++ [node]) url) :
    ∃ absolute, table.absoluteTargets = .ok absolute ∧
      ((∃ route ∈ above ++ [node], route.path.isSome) → "/" ++ url ∈ absolute) ∧
      ((∀ route ∈ above ++ [node], route.path = none) → url = "" ∧
        ("/" ∈ absolute ↔ ∃ others other, Descends table.forest (others ++ [other]) ∧
          other.path.isSome ∧ table.records.UrlOf (others ++ [other]) "")) ∧
      ("/" ++ url ∈ absolute → ∀ id ∈ table.ids, table.reaches id ("/" ++ url) = .ok true) := by
  have flattened := table.flatten_forest
  have continues := (urlOf_iff_continues flattened inside).mp isUrl
  obtain ⟨absolute, succeeds, members⟩ := absoluteTargets_of_flatten flattened
  refine ⟨absolute, succeeds, ?_, ?_, ?_⟩
  · intro present
    exact (members _).mpr ⟨_, inside, present, url, continues, rfl⟩
  · intro pathless
    exact ⟨continues.eq_empty pathless, top_mem_iff_exists_urlOf flattened succeeds⟩
  · intro listed id known
    exact Table.reaches_of_mem_absolute succeeds listed known

/-- In the small tree the index route renders at the top, which the page can link
to. -/
theorem index_page_reachable :
    Descends Sample.table.forest ([Sample.home] ++ [Sample.index]) ∧
      Sample.table.records.UrlOf ([Sample.home] ++ [Sample.index]) "" ∧
      Sample.table.reaches "page" "/" = .ok true := by
  have inside : Descends Sample.table.forest ([Sample.home] ++ [Sample.index]) := by
    simp [Descends, Sample.table, Sample.home]
  have isUrl : Sample.table.records.UrlOf ([Sample.home] ++ [Sample.index]) "" :=
    ⟨[""], .path rfl (by decide) (.pathless rfl .nil), by decide⟩
  obtain ⟨_, _, listed, _, reaches⟩ := page_url_reachable Sample.table inside isUrl
  have present : ∃ route ∈ [Sample.home] ++ [Sample.index], route.path.isSome :=
    ⟨Sample.home, by simp, rfl⟩
  exact ⟨inside, isUrl, reaches (listed present) "page" (by decide)⟩

def Sample.lone : Node := ⟨"/_index", none, true, []⟩

/-- An index route at the top of a tree renders at `/`, but with no path above it
nothing is listed, so not even the index route itself can link there. -/
theorem lone_index_unreachable :
    ∃ table absolute, Table.ofDescriptions [Description.indexRoute] = .ok table ∧
      Descends table.forest ([] ++ [Sample.lone]) ∧ Sample.lone.index ∧
      table.records.UrlOf ([] ++ [Sample.lone]) "" ∧
      table.absoluteTargets = .ok absolute ∧ "/" ++ "" ∉ absolute ∧
      table.reaches Sample.lone.id ("/" ++ "") = .ok false := by
  have normalized : normalize [Description.indexRoute] = .ok [Sample.lone] := by rfl
  have flattened : flatten [Sample.lone] = .ok ⟨[Sample.lone.record none]⟩ := by rfl
  refine ⟨⟨[Sample.lone], _, flattened⟩, ∅, ?_, descends_singleton.mpr List.mem_cons_self, rfl,
    ⟨[], .pathless rfl .nil, rfl⟩, rfl, SortedSet.not_mem_empty _, rfl⟩
  rw [Table.ofDescriptions, normalized, Except.bind, Table.ofForest_eq_ok flattened]

end RouteTree
