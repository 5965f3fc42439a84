import RouteTree.Proofs.Acceptance
import RouteTree.Proofs.Expanding
import RouteTree.Proofs.Links

/-!
# Targets as patterns

Patterns are checked one route at a time, and a target joins one path of every
route on a chain. What is joined can be read as a pattern again unless a
catch-all has come to stand in front of something: then it would be filled in
as a literal `*`.
-/

namespace RouteTree

/-- No segment of the route's pattern is marked twice. -/
def Node.MarkedOnce (node : Node) : Prop :=
  ∀ pattern, node.path = some pattern →
    ∀ piece ∈ Text.cutAtSlashes pattern, Segment.MarkedOnce piece

/-- A lower path stands behind an upper one, so a catch-all above leaves room for
the empty path only. -/
def Text.NothingAfterSplat (paths : List String) : Prop :=
  paths.Pairwise fun upper lower => "*" ∈ Text.cutAtSlashes upper → lower = ""

instance (paths : List String) : Decidable (Text.NothingAfterSplat paths) :=
  inferInstanceAs (Decidable (List.Pairwise _ _))

theorem Node.legible_of_mem_paths {node : Node} (readable : node.Readable)
    (once : node.MarkedOnce) {path : String} (member : path ∈ node.paths) :
    Pattern.Legible (Text.cutAtSlashes path) := by
  obtain ⟨text, pattern, listed⟩ := mem_paths_iff.mp member
  obtain ⟨segments, read⟩ := readable text pattern
  obtain ⟨kept, keeps, rfl⟩ := mem_concretePaths.mp listed
  exact Pattern.exists_parse_iff.mp (exists_parse_of_keeps read (once text pattern) keeps)

section Flattened

variable {forest chain : List Node} {records : Records} {pieces : List String}

theorem legible_of_chosen (flattened : flatten forest = .ok records)
    (inside : Descends forest chain) (once : ∀ route ∈ chain, route.MarkedOnce)
    (chosen : Chosen Node.paths chain pieces) :
    ∀ piece ∈ pieces, Pattern.Legible (Text.cutAtSlashes piece) := by
  intro piece member
  obtain ⟨route, routeMember, listed⟩ := chosen.exists_node_of_mem member
  obtain ⟨above, routeInside⟩ := inside.of_mem routeMember
  have readable : route.Readable := readable_of_descends flattened routeInside
  exact Node.legible_of_mem_paths readable (once route routeMember) listed

theorem exists_parse_joinPieces_iff (flattened : flatten forest = .ok records)
    (inside : Descends forest chain) (once : ∀ route ∈ chain, route.MarkedOnce)
    (chosen : Chosen Node.paths chain pieces) :
    (∃ segments, Pattern.parse (Text.joinPieces pieces) = .ok segments) ↔
      Text.NothingAfterSplat pieces := by
  rw [Pattern.exists_parse_iff,
    Pattern.legible_joinPieces_iff (legible_of_chosen flattened inside once chosen)]
  rfl

end Flattened

/-- Below a route with a catch-all all paths are empty. -/
def Table.EndsAtSplats (table : Table) : Prop :=
  ∀ above upper below lower, Descends table.forest (above ++ upper :: (below ++ [lower])) →
    (∃ path ∈ upper.paths, "*" ∈ Text.cutAtSlashes path) → ∀ path ∈ lower.paths, path = ""

theorem nothingAfterSplat_of_chosen {chain : List Node} {pieces : List String}
    (chosen : Chosen Node.paths chain pieces)
    (ends : ∀ above upper below lower rest,
      chain = above ++ upper :: (below ++ lower :: rest) →
        (∃ path ∈ upper.paths, "*" ∈ Text.cutAtSlashes path) → ∀ path ∈ lower.paths, path = "") :
    Text.NothingAfterSplat pieces := by
  induction chosen with
  | nil => exact List.Pairwise.nil
  | @pathless first _ _ _ _ ih =>
      apply ih
      intro above upper below lower rest split
      exact ends (first :: above) upper below lower rest (by rw [split, List.cons_append])
  | @path first below piece pieces _ member chosen ih =>
      have firstEnds : ∀ lower ∈ pieces, "*" ∈ Text.cutAtSlashes piece → lower = "" := by
        intro lower lowerMember splat
        obtain ⟨route, routeMember, listed⟩ := chosen.exists_node_of_mem lowerMember
        obtain ⟨between, rest, rfl⟩ := List.mem_iff_append.mp routeMember
        exact ends [] first between route rest rfl ⟨piece, member, splat⟩ lower listed
      refine List.pairwise_cons.mpr ⟨firstEnds, ih ?_⟩
      intro above upper between lower rest split
      exact ends (first :: above) upper between lower rest (by rw [split, List.cons_append])

theorem Node.path_isSome_of_mem_paths {node : Node} {path : String} (member : path ∈ node.paths) :
    node.path.isSome := by
  obtain ⟨text, pattern, _⟩ := mem_paths_iff.mp member
  rw [pattern]
  rfl

section Table

variable {table : Table}

theorem Table.endsAtSplats_of_parse
    (once : ∀ above node, Descends table.forest (above ++ [node]) → node.MarkedOnce)
    (parses : ∀ chain, Descends table.forest chain → ∀ text, Spells chain ("/" ++ text) →
      ∃ segments, Pattern.parse text = .ok segments) : table.EndsAtSplats := by
  intro above upper below lower inside ⟨path, pathMember, splat⟩ last lastMember
  have upperPresent := Node.path_isSome_of_mem_paths pathMember
  have lowerPresent := Node.path_isSome_of_mem_paths lastMember
  have onceAlong := inside.forall_mem once
  -- Everywhere else on the chain the path without optional segments will do.
  have chosen : Chosen Node.paths (above ++ upper :: (below ++ [lower])) _ :=
    (chosen_barePatterns above).append (.path upperPresent pathMember
      ((chosen_barePatterns below).append (.path lowerPresent lastMember .nil)))
  have spells : Spells (above ++ upper :: (below ++ [lower])) _ :=
    ⟨⟨lower, by simp, lowerPresent⟩, _, continues_empty_iff.mpr ⟨_, chosen, rfl⟩, rfl⟩
  have nothing : Text.NothingAfterSplat _ :=
    (exists_parse_joinPieces_iff table.flatten_forest inside onceAlong chosen).mp
      (parses _ inside _ spells)
  have behind := (List.pairwise_cons.mp (List.pairwise_append.mp nothing).2.1).1
  exact behind last (by simp) splat

theorem Table.EndsAtSplats.exists_parse (ends : table.EndsAtSplats)
    (once : ∀ above node, Descends table.forest (above ++ [node]) → node.MarkedOnce)
    {chain : List Node} (inside : Descends table.forest chain) {text : String}
    (spells : Spells chain ("/" ++ text)) : ∃ segments, Pattern.parse text = .ok segments := by
  obtain ⟨_, other, continues, same⟩ := spells
  obtain ⟨pieces, chosen, rfl⟩ := continues_empty_iff.mp continues
  have sameText : text = Text.joinPieces pieces := (String.append_right_inj "/").mp same
  have onceAlong := inside.forall_mem once
  rw [sameText, exists_parse_joinPieces_iff table.flatten_forest inside onceAlong chosen]
  apply nothingAfterSplat_of_chosen chosen
  intro above upper below lower rest split
  have regrouped : chain = (above ++ upper :: (below ++ [lower])) ++ rest := by
    simp [split]
  rw [regrouped] at inside
  exact ends above upper below lower inside.of_append

end Table

/-- Every absolute target is a slash and a choice of paths along a chain. Where no
segment on the chain is marked twice, the choice is a pattern exactly if no path
with a catch-all is followed by a path that is not empty, and then the catch-all
stands nowhere but at the end. So all targets are patterns exactly if the tree
ends at its catch-alls. -/
theorem absoluteTargets_parse_iff (table : Table) :
    ∃ absolute, table.absoluteTargets = .ok absolute ∧
      (∀ target ∈ absolute, ∃ above node pieces, Descends table.forest (above ++ [node]) ∧
        node.path.isSome ∧ Chosen table.records.pathsOf (above ++ [node]) pieces ∧
        target = "/" ++ Text.joinPieces pieces) ∧
      (∀ chain pieces, Descends table.forest chain →
        Chosen table.records.pathsOf chain pieces → (∀ route ∈ chain, route.MarkedOnce) →
        ((∃ segments, Pattern.parse (Text.joinPieces pieces) = .ok segments) ↔
          Text.NothingAfterSplat pieces) ∧
        (Text.NothingAfterSplat pieces →
          "*" ∉ (Text.cutAtSlashes (Text.joinPieces pieces)).dropLast)) ∧
      ((∀ above node, Descends table.forest (above ++ [node]) → node.MarkedOnce) →
        ((∀ text, "/" ++ text ∈ absolute → ∃ segments, Pattern.parse text = .ok segments) ↔
          table.EndsAtSplats)) := by
  have flattened := table.flatten_forest
  obtain ⟨absolute, succeeds, members⟩ := mem_absoluteTargets_iff_exists_chosen flattened
  refine ⟨absolute, succeeds, fun target member => (members target).mp member, ?_, ?_⟩
  · intro chain pieces inside chosen once
    rw [Chosen.congr (pathsOf_eq_paths flattened inside)] at chosen
    have parses := exists_parse_joinPieces_iff flattened inside once chosen
    refine ⟨parses, ?_⟩
    intro nothing
    exact Pattern.splat_not_mem_dropLast (Pattern.exists_parse_iff.mp (parses.mpr nothing))
  · intro once
    constructor
    · intro parses
      apply Table.endsAtSplats_of_parse once
      intro chain inside text spells
      exact parses text
        ((mem_absolute_iff_exists_spells flattened succeeds).mpr ⟨chain, inside, spells⟩)
    · intro ends text listed
      obtain ⟨chain, inside, spells⟩ :=
        (mem_absolute_iff_exists_spells flattened succeeds).mp listed
      exact ends.exists_parse once inside spells

/-- In the small tree the catch-all of the page comes last. -/
theorem page_target_is_pattern :
    Descends Sample.table.forest [Sample.home, Sample.frame, Sample.project, Sample.page] ∧
      ∃ segments, Pattern.parse ":id/tabs/*" = .ok segments := by
  have inside : Descends Sample.table.forest
      [Sample.home, Sample.frame, Sample.project, Sample.page] := Sample.descends_page
  have chosen : Chosen Sample.records.pathsOf
      [Sample.home, Sample.frame, Sample.project, Sample.page] ["", ":id/tabs", "*"] :=
    .path rfl (by decide) (.pathless rfl (.path rfl (by decide) (.path rfl (by decide) .nil)))
  have once : ∀ route ∈ [Sample.home, Sample.frame, Sample.project, Sample.page],
      route.MarkedOnce := by
    intro route member pattern path
    simp only [List.mem_cons, List.not_mem_nil, or_false] at member
    rcases member with rfl | rfl | rfl | rfl <;> cases path <;> decide
  obtain ⟨_, _, _, parses, _⟩ := absoluteTargets_parse_iff Sample.table
  refine ⟨inside, ?_⟩
  have spelled : Text.joinPieces ["", ":id/tabs", "*"] = ":id/tabs/*" := by decide
  rw [← spelled, (parses _ _ inside chosen once).1]
  decide

namespace Sample

def edit : Node := ⟨"/docs/*/edit", some "edit", false, []⟩

def docs : Node := ⟨"/docs/*", some "docs/*", false, [edit]⟩

end Sample

/-- Below a route with a catch-all another route may well have a path. Its target is
listed, although it is not a pattern and no value is filled in for the catch-all. -/
theorem docs_target_not_pattern :
    ∃ table absolute, Table.ofDescriptions
        [⟨none, some "docs/*", false, [⟨none, some "edit", false, []⟩]⟩] = .ok table ∧
      table.absoluteTargets = .ok absolute ∧ "/docs/*/edit" ∈ absolute ∧
      Pattern.parse "docs/*/edit" = .error (.invalidPattern "docs/*/edit" .misplacedSplat) ∧
      "*" ∈ (Text.cutAtSlashes "docs/*/edit").dropLast ∧
      Url.build "/docs/*/edit" { params := SortedMap.ofList [("*", "intro")] } =
        .ok "/docs/*/edit" := by
  have normalized : normalize [⟨none, some "docs/*", false, [⟨none, some "edit", false, []⟩]⟩] =
      .ok [Sample.docs] := by rfl
  have flattened : flatten [Sample.docs] =
      .ok ⟨[Sample.docs.record none, Sample.edit.record (some "/docs/*")]⟩ := by rfl
  have chosen : Chosen Node.paths [Sample.docs, Sample.edit] ["docs/*", "edit"] :=
    .path rfl (by decide) (.path rfl (by decide) .nil)
  obtain ⟨absolute, succeeds, members⟩ := absoluteTargets_of_flatten flattened
  refine ⟨⟨[Sample.docs], _, flattened⟩, absolute, ?_, succeeds, (members _).mpr ?_, rfl,
    by decide, ?_⟩
  · rw [Table.ofDescriptions, normalized, Except.bind, Table.ofForest_eq_ok flattened]
  · have spells : Spells [Sample.docs, Sample.edit] "/docs/*/edit" :=
      ⟨⟨Sample.edit, by simp, rfl⟩, _, continues_empty_iff.mpr ⟨_, chosen, rfl⟩, by decide⟩
    exact ⟨_, by simp [Descends, Sample.docs], spells⟩
  · rfl

end RouteTree
