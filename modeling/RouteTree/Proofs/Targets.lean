import RouteTree.Proofs.Joining
import RouteTree.Proofs.Outcome
import RouteTree.Proofs.Preorder
import RouteTree.Tree.Targets

/-!
# Targets along chains

Every target is what some chain of routes spells: one concrete path of every
route on the chain that has a path, joined in order. Routes without a path add
nothing to a target, and what is below them is not lost.
-/

namespace RouteTree

/-- The text continues one of the starts by one concrete path of every route on
the chain that has a path. -/
def Continues (starts : List String) (chain : List Node) (text : String) : Prop :=
  ∃ start ∈ starts, ∃ pieces, Chosen Node.paths chain pieces ∧
    text = Text.joinPaths start (Text.joinPieces pieces)

@[simp]
theorem continues_nil {starts : List String} {text : String} :
    Continues starts [] text ↔ text ∈ starts := by
  constructor
  · rintro ⟨start, member, pieces, chosen, rfl⟩
    cases chosen
    simpa using member
  · intro member
    exact ⟨text, member, [], .nil, by simp⟩

theorem continues_empty_iff {chain : List Node} {text : String} :
    Continues [""] chain text ↔
      ∃ pieces, Chosen Node.paths chain pieces ∧ text = Text.joinPieces pieces := by
  simp [Continues]

/-- Extending the starts by the first route of a chain leaves the rest of the
chain to continue. -/
theorem continues_cons {starts : List String} {node : Node} {chain : List Node}
    {text : String} (parentId : Option String) :
    Continues starts (node :: chain) text ↔
      Continues ((node.record parentId).extend starts) chain text := by
  cases path : node.path with
  | none =>
      have unchanged : (node.record parentId).extend starts = starts := by
        simp [Record.extend, path]
      rw [unchanged]
      constructor
      · rintro ⟨start, member, pieces, chosen, rfl⟩
        cases chosen with
        | pathless _ chosen => exact ⟨start, member, pieces, chosen, rfl⟩
        | path present _ _ => simp [path] at present
      · rintro ⟨start, member, pieces, chosen, rfl⟩
        exact ⟨start, member, pieces, .pathless path chosen, rfl⟩
  | some pattern =>
      have extended : (node.record parentId).extend starts =
          starts.flatMap fun start => node.paths.map (Text.joinPaths start) := by
        simp [Record.extend, path]
      rw [extended]
      constructor
      · rintro ⟨start, member, pieces, chosen, rfl⟩
        cases chosen with
        | pathless absent _ => simp [path] at absent
        | @path _ _ piece pieces _ pieceMember chosen =>
            refine ⟨Text.joinPaths start piece, ?_, pieces, chosen, ?_⟩
            · exact List.mem_flatMap.mpr
                ⟨start, member, List.mem_map.mpr ⟨piece, pieceMember, rfl⟩⟩
            · rw [Text.joinPieces_cons, Text.joinPaths_assoc]
      · rintro ⟨reached, reachedMember, pieces, chosen, rfl⟩
        obtain ⟨start, member, joined⟩ := List.mem_flatMap.mp reachedMember
        obtain ⟨piece, pieceMember, rfl⟩ := List.mem_map.mp joined
        refine ⟨start, member, piece :: pieces, .path (by simp [path]) pieceMember chosen, ?_⟩
        rw [Text.joinPieces_cons, Text.joinPaths_assoc]

/-! ## Walking below a route -/

theorem passesOver_targetsBelow (starts : List String) :
    PassesOver fun records id => Record.targetsBelow records id starts := by
  intro record rest id different
  simp only [Record.targetsBelow, if_neg different]

theorem passesOver_absoluteTargets : PassesOver Record.absoluteTargets := by
  intro record rest id different
  rw [Record.absoluteTargets, if_neg different]

section Flattened

variable {forest above : List Node} {node : Node} {records : Records}

/-- What one child adds to the targets below a route: the texts that lead to the
child itself and those that lead further down. -/
private theorem child_target_iff {starts : List String} {child : Node} {text : String}
    (parentId : Option String) :
    (text ∈ ((child.record parentId).extend starts).filter (!·.isEmpty) ∨
        text ≠ "" ∧ ∃ chain, Descends child.children chain ∧ chain ≠ [] ∧
          Continues ((child.record parentId).extend starts) chain text) ↔
      text ≠ "" ∧ ∃ below, Descends child.children below ∧
        Continues starts (child :: below) text := by
  simp only [continues_cons parentId, List.mem_filter]
  constructor
  · rintro (⟨member, nonempty⟩ | ⟨nonempty, chain, inside, _, continues⟩)
    · exact ⟨by simpa using nonempty, [], trivial, continues_nil.mpr member⟩
    · exact ⟨nonempty, chain, inside, continues⟩
  · rintro ⟨nonempty, below, inside, continues⟩
    cases below with
    | nil => exact Or.inl ⟨continues_nil.mp continues, by simpa using nonempty⟩
    | cons next rest =>
        exact Or.inr ⟨nonempty, next :: rest, inside, List.cons_ne_nil next rest, continues⟩

theorem targetsBelow_yields (flattened : flatten forest = .ok records) :
    ∀ (node : Node) {above : List Node}, Descends forest (above ++ [node]) →
      ∀ starts, Yields (Record.targetsBelow records.toList node.id starts) fun text =>
        text ≠ "" ∧ ∃ chain, Descends node.children chain ∧ chain ≠ [] ∧
          Continues starts chain text := by
  intro node
  induction node using Node.induction with
  | step node ih =>
      intro above inside starts
      obtain ⟨later, reaches⟩ := exists_later flattened inside
      have atNode := (reaches (passesOver_targetsBelow starts)).1
      simp only [Record.targetsBelow, Node.record_id, if_pos, Node.record_childIds,
        List.mapM_map] at atNode
      rw [atNode]
      refine (Yields.flatten_mapM (fun child text =>
        text ≠ "" ∧ ∃ below, Descends child.children below ∧
          Continues starts (child :: below) text) ?_).congr ?_
      · -- The child is looked up and searched in what is left of the list.
        intro child member
        simp only [Function.comp, (reaches passesOver_find).2 child member,
          find_child_of_descends flattened inside member, Except.bind]
        rw [(reaches (passesOver_targetsBelow _)).2 child member]
        exact ((ih child member (inside.append_child member) _).append _).congr fun text =>
          child_target_iff _
      · intro text
        constructor
        · rintro ⟨child, member, nonempty, below, belowInside, continues⟩
          exact ⟨nonempty, child :: below, ⟨member, belowInside⟩,
            List.cons_ne_nil child below, continues⟩
        · rintro ⟨nonempty, chain, chainInside, present, continues⟩
          cases chain with
          | nil => exact absurd rfl present
          | cons child below =>
              exact ⟨child, chainInside.1, nonempty, below, chainInside.2, continues⟩

/-! ## Walking from the top -/

/-- The target is a slash and what the chain spells from the top of the tree. A
chain without any path spells nothing. -/
def Spells (chain : List Node) (target : String) : Prop :=
  (∃ route ∈ chain, route.path.isSome) ∧
    ∃ text, Continues [""] chain text ∧ target = "/" ++ text

theorem not_spells_nil {target : String} : ¬ Spells [] target := by
  rintro ⟨⟨route, member, _⟩, _⟩
  cases member

theorem spells_cons_of_pathless {chain : List Node} {target : String}
    (absent : node.path = none) : Spells (node :: chain) target ↔ Spells chain target := by
  have unchanged : (node.record none).extend [""] = [""] := by
    simp [Record.extend, absent]
  simp [Spells, continues_cons none, unchanged, absent]

theorem spells_cons_of_path {chain : List Node} {target : String}
    (present : node.path.isSome) :
    Spells (node :: chain) target ↔
      ∃ text, Continues node.paths chain text ∧ target = "/" ++ text := by
  obtain ⟨pattern, path⟩ := Option.isSome_iff_exists.mp present
  have unit : Text.joinPaths "" = id := funext Text.joinPaths_empty_left
  have extended : (node.record none).extend [""] = node.paths := by
    simp [Record.extend, path, unit]
  simp [Spells, continues_cons none, extended, present]

/-- What a route with a path starts from are its own paths, and every text below
it that is not empty is one more target. -/
private theorem own_or_below_iff {starts : List String} {siblings : List Node}
    {target : String} :
    (∃ text, (text ∈ starts ∨ text ≠ "" ∧ ∃ chain, Descends siblings chain ∧ chain ≠ [] ∧
        Continues starts chain text) ∧ "/" ++ text = target) ↔
      ∃ below, Descends siblings below ∧
        ∃ text, Continues starts below text ∧ target = "/" ++ text := by
  constructor
  · rintro ⟨text, member | ⟨_, chain, inside, _, continues⟩, rfl⟩
    · exact ⟨[], trivial, text, continues_nil.mpr member, rfl⟩
    · exact ⟨chain, inside, text, continues, rfl⟩
  · rintro ⟨below, inside, text, continues, rfl⟩
    refine ⟨text, ?_, rfl⟩
    by_cases atRoute : below = []
    · subst atRoute
      exact Or.inl (continues_nil.mp continues)
    · by_cases empty : text = ""
      · -- An empty text below comes from an empty path of the route itself.
        obtain ⟨start, member, pieces, _, spelled⟩ := continues
        rw [empty] at spelled ⊢
        have startEmpty := (Text.joinPaths_eq_empty_iff.mp spelled.symm).1
        exact Or.inl (startEmpty ▸ member)
      · exact Or.inr ⟨empty, below, inside, atRoute, continues⟩

theorem absoluteTargets_yields (flattened : flatten forest = .ok records) :
    ∀ (node : Node) {above : List Node}, Descends forest (above ++ [node]) →
      Yields (Record.absoluteTargets records.toList node.id) fun target =>
        ∃ below, Descends node.children below ∧ Spells (node :: below) target := by
  intro node
  induction node using Node.induction with
  | step node ih =>
      intro above inside
      obtain ⟨later, reaches⟩ := exists_later flattened inside
      have atNode := (reaches passesOver_absoluteTargets).1
      simp only [Record.absoluteTargets, Node.record_id, if_pos, Node.record_path] at atNode
      rw [atNode]
      cases path : node.path with
      | none =>
          simp only [Node.record_childIds, List.mapM_map]
          refine (Yields.flatten_mapM (fun child target =>
            ∃ below, Descends child.children below ∧ Spells (child :: below) target) ?_).congr ?_
          · intro child member
            simp only [Function.comp, (reaches passesOver_absoluteTargets).2 child member]
            exact ih child member (inside.append_child member)
          · intro target
            rw [exists_descends_iff node.children fun below => Spells (node :: below) target]
            simp only [spells_cons_of_pathless path, not_spells_nil, false_or]
      | some pattern =>
          have present : node.path.isSome := by simp [path]
          obtain ⟨found, succeeds, members⟩ :=
            targetsBelow_yields flattened node inside node.paths
          have belowNode := (reaches (passesOver_targetsBelow node.paths)).1
          simp only [Node.record_paths, ← belowNode, succeeds]
          refine ⟨_, rfl, ?_⟩
          intro target
          simp only [spells_cons_of_path present, List.mem_map, List.mem_append, members,
            own_or_below_iff]

/-! ## Absolute targets -/

theorem exists_spells_iff {target : String} :
    (∃ chain, Descends forest chain ∧ Spells chain target) ↔
      ∃ above node pieces, Descends forest (above ++ [node]) ∧ node.path.isSome ∧
        Chosen Node.paths (above ++ [node]) pieces ∧
        target = "/" ++ Text.joinPieces pieces := by
  constructor
  · rintro ⟨chain, inside, present, text, ⟨start, member, pieces, chosen, rfl⟩, rfl⟩
    obtain ⟨above, node, below, rfl, nodePresent, chosen⟩ := chosen.exists_last present
    have noStart : start = "" := by simpa using member
    refine ⟨above, node, pieces, (descends_append_cons.mp inside).1, nodePresent, chosen, ?_⟩
    rw [noStart, Text.joinPaths_empty_left]
  · rintro ⟨above, node, pieces, inside, nodePresent, chosen, rfl⟩
    refine ⟨above ++ [node], inside, ⟨node, by simp, nodePresent⟩, _, ?_, rfl⟩
    exact ⟨"", by simp, pieces, chosen, by simp⟩

theorem absoluteTargets_of_flatten (flattened : flatten forest = .ok records) :
    ∃ targets, records.absoluteTargets = .ok targets ∧
      ∀ target, target ∈ targets ↔ ∃ chain, Descends forest chain ∧ Spells chain target := by
  have fromRoots : Yields ((records.roots.mapM fun root =>
      Record.absoluteTargets records.toList root.id).map List.flatten) fun target =>
        ∃ root ∈ forest, ∃ below, Descends root.children below ∧
          Spells (root :: below) target := by
    rw [roots_of_flatten flattened, List.mapM_map]
    apply Yields.flatten_mapM
    intro root member
    have atTop : Descends forest ([] ++ [root]) := descends_singleton.mpr member
    exact absoluteTargets_yields flattened root atTop
  obtain ⟨targets, succeeds, members⟩ := fromRoots.toSet
  refine ⟨targets, ?_, ?_⟩
  · rw [Records.absoluteTargets, ← succeeds]
    cases records.roots.mapM fun root => Record.absoluteTargets records.toList root.id <;> rfl
  · intro target
    rw [members, exists_descends_iff forest fun chain => Spells chain target]
    simp only [not_spells_nil, false_or]

theorem mem_absolute_iff_exists_spells (flattened : flatten forest = .ok records)
    {absolute : SortedSet String} (succeeds : records.absoluteTargets = .ok absolute)
    {target : String} :
    target ∈ absolute ↔ ∃ chain, Descends forest chain ∧ Spells chain target := by
  obtain ⟨found, foundSucceeds, members⟩ := absoluteTargets_of_flatten flattened
  rw [succeeds] at foundSucceeds
  cases foundSucceeds
  exact members target

/-- The absolute targets of an accepted tree are a slash and the concrete paths
along a chain from the top to a route with a path, one for every route on the
chain that has a path. -/
theorem mem_absoluteTargets_iff_exists_chosen (flattened : flatten forest = .ok records) :
    ∃ targets, records.absoluteTargets = .ok targets ∧
      ∀ target, target ∈ targets ↔
        ∃ above node pieces, Descends forest (above ++ [node]) ∧ node.path.isSome ∧
          Chosen records.pathsOf (above ++ [node]) pieces ∧
          target = "/" ++ Text.joinPieces pieces := by
  obtain ⟨targets, succeeds, members⟩ := absoluteTargets_of_flatten flattened
  refine ⟨targets, succeeds, ?_⟩
  intro target
  rw [members, exists_spells_iff]
  constructor
  · rintro ⟨above, node, pieces, inside, present, chosen, spelled⟩
    refine ⟨above, node, pieces, inside, present, ?_, spelled⟩
    exact (Chosen.congr (pathsOf_eq_paths flattened inside)).mpr chosen
  · rintro ⟨above, node, pieces, inside, present, chosen, spelled⟩
    refine ⟨above, node, pieces, inside, present, ?_, spelled⟩
    exact (Chosen.congr (pathsOf_eq_paths flattened inside)).mp chosen

/-- In the small tree the page can be reached without its optional segments. -/
theorem page_mem_absoluteTargets :
    flatten [Sample.home] = .ok Sample.records ∧
      ∃ targets, Sample.records.absoluteTargets = .ok targets ∧ "/:id/*" ∈ targets := by
  refine ⟨Sample.flatten_home, ?_⟩
  obtain ⟨targets, succeeds, members⟩ :=
    mem_absoluteTargets_iff_exists_chosen Sample.flatten_home
  refine ⟨targets, succeeds, (members _).mpr ?_⟩
  refine ⟨[Sample.home, Sample.frame, Sample.project], Sample.page, ["", ":id", "*"],
    Sample.descends_page, rfl, ?_, by decide⟩
  exact .path rfl (by decide) (.pathless rfl (.path rfl (by decide)
    (.path rfl (by decide) .nil)))

/-! ## Targets below a route -/

theorem descendantTargets_of_descends (flattened : flatten forest = .ok records)
    (inside : Descends forest (above ++ [node])) (starts : List String) :
    ∃ targets, records.descendantTargets node.id starts = .ok targets ∧
      ∀ text, text ∈ targets ↔ text ≠ "" ∧
        ∃ chain, Descends node.children chain ∧ chain ≠ [] ∧ Continues starts chain text :=
  (targetsBelow_yields flattened node inside starts).toSet

theorem continues_append {starts others : List String} {chain : List Node} {text : String} :
    Continues (starts ++ others) chain text ↔
      Continues starts chain text ∨ Continues others chain text := by
  simp only [Continues, List.mem_append, or_and_right, exists_or]

theorem descendantTargets_append (flattened : flatten forest = .ok records)
    (inside : Descends forest (above ++ [node])) (starts others : List String) :
    ∃ both first second, records.descendantTargets node.id (starts ++ others) = .ok both ∧
      records.descendantTargets node.id starts = .ok first ∧
      records.descendantTargets node.id others = .ok second ∧ both = first ∪ second := by
  obtain ⟨both, bothSucceeds, bothMembers⟩ :=
    descendantTargets_of_descends flattened inside (starts ++ others)
  obtain ⟨first, firstSucceeds, firstMembers⟩ :=
    descendantTargets_of_descends flattened inside starts
  obtain ⟨second, secondSucceeds, secondMembers⟩ :=
    descendantTargets_of_descends flattened inside others
  refine ⟨both, first, second, bothSucceeds, firstSucceeds, secondSucceeds, ?_⟩
  apply SortedSet.ext_mem
  intro text
  rw [SortedSet.mem_union, bothMembers, firstMembers, secondMembers]
  simp only [continues_append, and_or_left, exists_or]

/-- The targets below a route, from given starts, are the texts that are not
empty and consist of a start and the concrete paths along a chain strictly below
the route, one for every route on the chain that has a path. The starts
contribute independently of each other. -/
theorem mem_descendantTargets_iff_exists_chosen (flattened : flatten forest = .ok records)
    {id : String} (known : id ∈ records.ids) :
    (∀ starts, ∃ targets, records.descendantTargets id starts = .ok targets ∧
      ∀ target, target ∈ targets ↔ target ≠ "" ∧
        ∃ above node below last, Descends forest (above ++ node :: (below ++ [last])) ∧
          node.id = id ∧ ∃ start ∈ starts, ∃ pieces,
            Chosen records.pathsOf (below ++ [last]) pieces ∧
            target = Text.joinPieces (start :: pieces)) ∧
      ∀ starts others, ∃ both first second,
        records.descendantTargets id (starts ++ others) = .ok both ∧
        records.descendantTargets id starts = .ok first ∧
        records.descendantTargets id others = .ok second ∧ both = first ∪ second := by
  obtain ⟨listing, distinct⟩ := listing_of_flatten flattened
  obtain ⟨above, node, inside, rfl⟩ := (mem_ids_iff flattened).mp known
  refine ⟨?_, descendantTargets_append flattened inside⟩
  intro starts
  obtain ⟨targets, succeeds, members⟩ := descendantTargets_of_descends flattened inside starts
  refine ⟨targets, succeeds, ?_⟩
  intro target
  rw [members]
  refine and_congr_right fun _ => ?_
  constructor
  · rintro ⟨chain, chainInside, present, start, member, pieces, chosen, spelled⟩
    obtain ⟨below, last, shape⟩ := (List.eq_nil_or_concat chain).resolve_left present
    rw [List.concat_eq_append] at shape
    subst shape
    have whole := descends_append_cons.mpr ⟨inside, chainInside⟩
    refine ⟨above, node, below, last, whole, rfl, start, member, pieces, ?_, ?_⟩
    · exact (Chosen.congr (pathsOf_eq_paths_below flattened whole)).mpr chosen
    · rw [spelled, Text.joinPieces_cons]
  · rintro ⟨others, other, below, last, whole, sameId, start, member, pieces, chosen, spelled⟩
    have otherInside := descends_append_cons.mp whole
    obtain ⟨rfl, rfl⟩ := listing.descends_unique distinct sameId otherInside.1 inside
    refine ⟨below ++ [last], otherInside.2, by simp, start, member, pieces, ?_, ?_⟩
    · exact (Chosen.congr (pathsOf_eq_paths_below flattened whole)).mp chosen
    · rw [spelled, Text.joinPieces_cons]

/-- Below the layout of the small tree, a start that is not empty stays in front
and an empty one leaves no slash. -/
theorem page_mem_descendantTargets :
    flatten [Sample.home] = .ok Sample.records ∧ "frame" ∈ Sample.records.ids ∧
      ∃ targets, Sample.records.descendantTargets "frame" ["..", ""] = .ok targets ∧
        "../:id/tabs/:id/*" ∈ targets ∧ ":id/*" ∈ targets := by
  have known : "frame" ∈ Sample.records.ids := by decide
  have inside : Descends [Sample.home]
      ([Sample.home] ++ Sample.frame :: ([Sample.project] ++ [Sample.page])) :=
    Sample.descends_page
  refine ⟨Sample.flatten_home, known, ?_⟩
  obtain ⟨targets, succeeds, members⟩ :=
    (mem_descendantTargets_iff_exists_chosen Sample.flatten_home known).1 ["..", ""]
  refine ⟨targets, succeeds, (members _).mpr ⟨by decide, ?_⟩, (members _).mpr ⟨by decide, ?_⟩⟩
  · refine ⟨[Sample.home], Sample.frame, [Sample.project], Sample.page, inside, rfl, "..",
      by simp, [":id/tabs", ":id/*"], ?_, by decide⟩
    exact .path rfl (by decide) (.path rfl (by decide) .nil)
  · refine ⟨[Sample.home], Sample.frame, [Sample.project], Sample.page, inside, rfl, "",
      by simp, [":id", "*"], ?_, by decide⟩
    exact .path rfl (by decide) (.path rfl (by decide) .nil)

end Flattened

end RouteTree
