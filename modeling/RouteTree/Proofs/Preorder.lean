import Mathlib.Data.List.Basic
import Mathlib.Data.List.Induction
import RouteTree.Proofs.Chain

/-!
# Preorder

The records of an accepted tree are those of its routes in preorder, and no
two of them share an id. A record therefore stands after those of its
ancestors and before those of the routes below it, which is why a walk along
the list, in either direction, finds whatever the tree holds on that side.
-/

namespace RouteTree

/-- The records of siblings, each followed by those of the routes below it. -/
inductive Listing : Option String → List Node → List Record → Prop
  | nil (parentId : Option String) : Listing parentId [] []
  | cons {parentId : Option String} {node : Node} {rest : List Node}
      {below after : List Record} :
      Listing (some node.id) node.children below → Listing parentId rest after →
      Listing parentId (node :: rest) (node.record parentId :: (below ++ after))

namespace Listing

variable {parentId : Option String} {siblings others above : List Node} {node : Node}
  {records after : List Record}

theorem append (first : Listing parentId siblings records)
    (second : Listing parentId others after) :
    Listing parentId (siblings ++ others) (records ++ after) := by
  induction first with
  | nil => exact second
  | cons below _ _ ih =>
      simpa only [List.cons_append, List.append_assoc] using cons below (ih second)

theorem id_mem (listing : Listing parentId siblings records) (member : node ∈ siblings) :
    node.id ∈ records.map Record.id := by
  induction listing with
  | nil => cases member
  | cons _ _ _ ih =>
      simp only [List.map_cons, List.map_append, List.mem_cons, List.mem_append]
      rcases List.mem_cons.mp member with rfl | member
      · exact Or.inl rfl
      · exact Or.inr (Or.inr (ih member))

end Listing

/-! ## Flattening -/

namespace Record

/-- All records are the known ones followed by the listing of some siblings,
and no id is repeated unless it was before. -/
def Extends (known : List Record) (parentId : Option String) (siblings : List Node)
    (all : List Record) : Prop :=
  ∃ more, all = known ++ more ∧ Listing parentId siblings more ∧
    ((known.map Record.id).Nodup → (all.map Record.id).Nodup)

theorem nodup_ids_concat_iff {known : List Record} {record : Record} :
    ((known ++ [record]).map Record.id).Nodup ↔
      (known.map Record.id).Nodup ∧ record.id ∉ known.map Record.id := by
  rw [List.map_append, List.nodup_append]
  simp

mutual

theorem extends_of_addNode : ∀ (node : Node) {known all : List Record}
    {parentId : Option String},
    addNode known parentId node = .ok all → Extends known parentId [node] all
  | ⟨id, path, index, children⟩, known, all, parentId, added => by
      rw [addNode] at added
      cases made : ofNode parentId ⟨id, path, index, children⟩ with
      | error failure =>
          rw [made] at added
          cases added
      | ok record =>
          rw [made] at added
          simp only [Except.bind] at added
          split at added
          · cases added
          · rename_i fresh
            obtain ⟨more, rfl, listing, distinct⟩ := extends_of_addNodes children added
            have same := ofNode_eq_record made
            subst same
            refine ⟨_ :: (more ++ []), by simp, .cons listing (.nil parentId), ?_⟩
            intro knownDistinct
            apply distinct
            rw [nodup_ids_concat_iff]
            exact ⟨knownDistinct, by simpa using fresh⟩

theorem extends_of_addNodes : ∀ (siblings : List Node) {known all : List Record}
    {parentId : Option String},
    addNodes known parentId siblings = .ok all → Extends known parentId siblings all
  | [], known, all, parentId, added => by
      rw [addNodes] at added
      cases added
      exact ⟨[], by simp, .nil parentId, fun distinct => distinct⟩
  | first :: rest, known, all, parentId, added => by
      rw [addNodes] at added
      cases firstAdded : addNode known parentId first with
      | error failure =>
          rw [firstAdded] at added
          cases added
      | ok middle =>
          rw [firstAdded] at added
          obtain ⟨more, rfl, firstListing, firstDistinct⟩ :=
            extends_of_addNode first firstAdded
          obtain ⟨others, rfl, restListing, restDistinct⟩ :=
            extends_of_addNodes rest added
          exact ⟨more ++ others, by simp, firstListing.append restListing,
            fun distinct => restDistinct (firstDistinct distinct)⟩

end

end Record

/-! ## Places -/

/-- The id of the last route of a chain, or the given one above an empty chain. -/
def lastId (top : Option String) (chain : List Node) : Option String :=
  chain.foldl (fun _ node => some node.id) top

/-- The record of a route divides a listing: those of its ancestors stand
before it, those of its children after it. -/
structure Placed (records : List Record) (above : List Node) (node : Node)
    (record : Record) (before later : List Record) : Prop where
  split : records = before ++ record :: later
  id_eq : record.id = node.id
  ancestor_mem : ∀ ancestor ∈ above, ancestor.id ∈ before.map Record.id
  child_mem : ∀ child ∈ node.children, child.id ∈ later.map Record.id

theorem descends_cons_iff {first node : Node} {rest above : List Node} :
    Descends (first :: rest) (above ++ [node]) ↔
      (above = [] ∧ node = first) ∨
        (∃ others, above = first :: others ∧ Descends first.children (others ++ [node])) ∨
          Descends rest (above ++ [node]) := by
  cases above with
  | nil => simp [Descends]
  | cons head others =>
      simp only [List.cons_append, Descends, List.mem_cons]
      constructor
      · rintro ⟨rfl | member, below⟩
        · exact Or.inr (Or.inl ⟨others, rfl, below⟩)
        · exact Or.inr (Or.inr ⟨member, below⟩)
      · rintro (⟨absurdity, _⟩ | ⟨_, same, below⟩ | ⟨member, below⟩)
        · cases absurdity
        · cases same
          exact ⟨Or.inl rfl, below⟩
        · exact ⟨Or.inr member, below⟩

namespace Listing

variable {parentId : Option String} {siblings above : List Node} {node : Node}
  {records : List Record}

theorem exists_placed (listing : Listing parentId siblings records) :
    ∀ {above : List Node}, Descends siblings (above ++ [node]) →
      ∃ before later,
        Placed records above node (node.record (lastId parentId above)) before later := by
  induction listing with
  | nil =>
      intro above inside
      cases above <;> exact absurd inside.1 List.not_mem_nil
  | @cons parentId first rest below after belowListing _ belowIh afterIh =>
      intro above inside
      rcases descends_cons_iff.mp inside with
        ⟨rfl, rfl⟩ | ⟨others, rfl, inBelow⟩ | inRest
      · refine ⟨[], below ++ after, ⟨rfl, rfl, by simp, ?_⟩⟩
        intro child member
        rw [List.map_append]
        exact List.mem_append_left _ (belowListing.id_mem member)
      · obtain ⟨before, later, placed⟩ := belowIh inBelow
        refine ⟨first.record parentId :: before, later ++ after, ⟨?_, rfl, ?_, ?_⟩⟩
        · rw [placed.split]
          simp [lastId]
        · intro ancestor member
          rcases List.mem_cons.mp member with rfl | member
          · exact List.mem_cons_self
          · exact List.mem_cons_of_mem _ (placed.ancestor_mem ancestor member)
        · intro child member
          rw [List.map_append]
          exact List.mem_append_left _ (placed.child_mem child member)
      · obtain ⟨before, later, placed⟩ := afterIh inRest
        refine ⟨first.record parentId :: (below ++ before), later,
          ⟨?_, rfl, ?_, placed.child_mem⟩⟩
        · rw [placed.split]
          simp
        · intro ancestor member
          simp only [List.map_cons, List.map_append, List.mem_cons, List.mem_append]
          exact Or.inr (Or.inr (placed.ancestor_mem ancestor member))

theorem exists_descends (listing : Listing parentId siblings records) {id : String}
    (member : id ∈ records.map Record.id) :
    ∃ above node, Descends siblings (above ++ [node]) ∧ node.id = id := by
  induction listing with
  | nil => cases member
  | @cons parentId first rest below after _ _ belowIh afterIh =>
      simp only [List.map_cons, List.map_append, List.mem_cons, List.mem_append] at member
      rcases member with rfl | inBelow | inAfter
      · exact ⟨[], first, descends_singleton.mpr List.mem_cons_self, rfl⟩
      · obtain ⟨above, node, inside, same⟩ := belowIh inBelow
        exact ⟨first :: above, node, ⟨List.mem_cons_self, inside⟩, same⟩
      · obtain ⟨above, node, inside, same⟩ := afterIh inAfter
        exact ⟨above, node, descends_cons_iff.mpr (Or.inr (Or.inr inside)), same⟩

theorem id_mem_of_descends (listing : Listing parentId siblings records)
    (inside : Descends siblings (above ++ [node])) : node.id ∈ records.map Record.id := by
  obtain ⟨before, later, placed⟩ := listing.exists_placed inside
  rw [placed.split, ← placed.id_eq]
  simp

/-- Where ids are distinct, the id of a route determines the chain to it. -/
theorem descends_unique (listing : Listing parentId siblings records)
    (distinct : (records.map Record.id).Nodup) {other : Node} (same : node.id = other.id) :
    ∀ {above others : List Node}, Descends siblings (above ++ [node]) →
      Descends siblings (others ++ [other]) → above = others ∧ node = other := by
  induction listing with
  | nil =>
      intro above others inside
      cases above <;> exact absurd inside.1 List.not_mem_nil
  | @cons parentId first rest below after belowListing afterListing belowIh afterIh =>
      simp only [List.map_cons, List.map_append, List.nodup_cons, List.mem_append,
        List.nodup_append, Node.record_id] at distinct
      obtain ⟨fresh, belowDistinct, afterDistinct, disjoint⟩ := distinct
      intro above others inside otherInside
      -- Each chain ends at the first sibling, below it or after it; two different
      -- places would share an id.
      rcases descends_cons_iff.mp inside with
        ⟨rfl, rfl⟩ | ⟨above, rfl, inBelow⟩ | inRest <;>
      rcases descends_cons_iff.mp otherInside with
        ⟨rfl, rfl⟩ | ⟨others, rfl, otherInBelow⟩ | otherInRest
      · exact ⟨rfl, rfl⟩
      · exact absurd (Or.inl (same ▸ belowListing.id_mem_of_descends otherInBelow)) fresh
      · exact absurd (Or.inr (same ▸ afterListing.id_mem_of_descends otherInRest)) fresh
      · exact absurd (Or.inl (same ▸ belowListing.id_mem_of_descends inBelow)) fresh
      · obtain ⟨rfl, rfl⟩ := belowIh belowDistinct inBelow otherInBelow
        exact ⟨rfl, rfl⟩
      · exact absurd same (disjoint _ (belowListing.id_mem_of_descends inBelow) _
          (afterListing.id_mem_of_descends otherInRest))
      · exact absurd (Or.inr (same ▸ afterListing.id_mem_of_descends inRest)) fresh
      · exact absurd same.symm (disjoint _ (belowListing.id_mem_of_descends otherInBelow) _
          (afterListing.id_mem_of_descends inRest))
      · exact afterIh afterDistinct inRest otherInRest

theorem filter_isRoot (listing : Listing parentId siblings records) :
    records.filter Record.isRoot =
      if parentId.isNone then siblings.map (Node.record parentId) else [] := by
  induction listing with
  | nil => simp
  | cons _ _ belowIh afterIh =>
      rw [List.filter_cons, List.filter_append, belowIh, afterIh]
      simp only [Record.isRoot, Node.record_parentId]
      split <;> simp

end Listing

/-! ## Walks along a list of records -/

/-- The walk passes over the records in front of the one it looks for. -/
def PassesOver {α : Type} (walk : List Record → String → α) : Prop :=
  ∀ record rest id, record.id ≠ id → walk (record :: rest) id = walk rest id

namespace PassesOver

variable {α : Type} {walk : List Record → String → α}

theorem append (passes : PassesOver walk) {before rest : List Record} {id : String}
    (absent : id ∉ before.map Record.id) : walk (before ++ rest) id = walk rest id := by
  induction before with
  | nil => rfl
  | cons record others ih =>
      simp only [List.map_cons, List.mem_cons, not_or] at absent
      rw [List.cons_append, passes record _ id (Ne.symm absent.1), ih absent.2]

end PassesOver

namespace Placed

variable {α : Type} {walk : List Record → String → α} {records before later : List Record}
  {above : List Node} {node : Node} {record : Record}

theorem id_not_mem_before (placed : Placed records above node record before later)
    (distinct : (records.map Record.id).Nodup) {id : String}
    (member : id ∈ (record :: later).map Record.id) : id ∉ before.map Record.id := by
  rw [placed.split, List.map_append, List.nodup_append] at distinct
  intro earlier
  exact distinct.2.2 id earlier id member rfl

theorem id_not_mem_later (placed : Placed records above node record before later)
    (distinct : (records.map Record.id).Nodup) : node.id ∉ later.map Record.id := by
  rw [placed.split, List.map_append, List.nodup_append, List.map_cons, List.nodup_cons,
    placed.id_eq] at distinct
  exact distinct.2.1.1

theorem walk_eq (placed : Placed records above node record before later)
    (distinct : (records.map Record.id).Nodup) (passes : PassesOver walk) :
    walk records node.id = walk (record :: later) node.id := by
  have absent : node.id ∉ before.map Record.id :=
    placed.id_not_mem_before distinct (by simp [placed.id_eq])
  rw [placed.split, passes.append absent]

theorem walk_child (placed : Placed records above node record before later)
    (distinct : (records.map Record.id).Nodup) (passes : PassesOver walk) {child : Node}
    (member : child ∈ node.children) : walk later child.id = walk records child.id := by
  have childLater := placed.child_mem child member
  have absent := placed.id_not_mem_before distinct (List.mem_cons_of_mem _ childLater)
  have different : record.id ≠ child.id := by
    intro same
    rw [← same, placed.id_eq] at childLater
    exact placed.id_not_mem_later distinct childLater
  rw [placed.split, passes.append absent, passes record later child.id different]

theorem walk_reverse_eq (placed : Placed records above node record before later)
    (distinct : (records.map Record.id).Nodup) (passes : PassesOver walk) :
    walk records.reverse node.id = walk (record :: before.reverse) node.id := by
  have absent := placed.id_not_mem_later distinct
  rw [placed.split, List.reverse_append, List.reverse_cons, List.append_assoc,
    passes.append (by simpa using absent), List.singleton_append]

theorem walk_ancestor (placed : Placed records above node record before later)
    (distinct : (records.map Record.id).Nodup) (passes : PassesOver walk) {ancestor : Node}
    (member : ancestor ∈ above) :
    walk before.reverse ancestor.id = walk records.reverse ancestor.id := by
  have earlier := placed.ancestor_mem ancestor member
  have absent : ancestor.id ∉ ((record :: later).reverse).map Record.id := by
    intro later
    rw [List.map_reverse, List.mem_reverse] at later
    exact placed.id_not_mem_before distinct later earlier
  rw [placed.split, List.reverse_append, passes.append absent]

end Placed

/-! ## Accepted trees -/

section Flattened

variable {forest above : List Node} {node : Node} {records : Records}

theorem listing_of_flatten (flattened : flatten forest = .ok records) :
    Listing none forest records.toList ∧ (records.toList.map Record.id).Nodup := by
  rw [flatten] at flattened
  cases added : Record.addNodes [] none forest with
  | error failure =>
      rw [added] at flattened
      cases flattened
  | ok all =>
      rw [added] at flattened
      cases flattened
      obtain ⟨more, rfl, listing, distinct⟩ := Record.extends_of_addNodes forest added
      exact ⟨listing, distinct List.nodup_nil⟩

/-- The id of a route determines the chain to it. -/
theorem chain_unique (flattened : flatten forest = .ok records) {others : List Node}
    {other : Node} (inside : Descends forest (above ++ [node]))
    (otherInside : Descends forest (others ++ [other])) (sameId : node.id = other.id) :
    above = others ∧ node = other := by
  obtain ⟨listing, distinct⟩ := listing_of_flatten flattened
  exact listing.descends_unique distinct sameId inside otherInside

/-- A chain is determined by its routes without what is below them. -/
theorem eq_of_map_alone_eq (flattened : flatten forest = .ok records) {others : List Node}
    (inside : Descends forest above) (otherInside : Descends forest others)
    (same : above.map Node.alone = others.map Node.alone) : above = others := by
  rcases List.eq_nil_or_concat' above with rfl | ⟨front, last, rfl⟩
  · exact (List.map_eq_nil_iff.mp same.symm).symm
  · rcases List.eq_nil_or_concat' others with rfl | ⟨otherFront, otherLast, rfl⟩
    · simp at same
    · rw [List.map_append, List.map_append] at same
      have sameLast := (List.append_singleton_inj.mp same).2
      have sameId := (Node.alone_eq_iff.mp sameLast).1
      obtain ⟨rfl, rfl⟩ := chain_unique flattened inside otherInside sameId
      rfl

theorem mem_ids_iff (flattened : flatten forest = .ok records) {id : String} :
    id ∈ records.ids ↔ ∃ above node, Descends forest (above ++ [node]) ∧ node.id = id := by
  have listing := (listing_of_flatten flattened).1
  constructor
  · exact listing.exists_descends
  · rintro ⟨above, node, inside, rfl⟩
    exact listing.id_mem_of_descends inside

theorem passesOver_find : PassesOver Record.find := by
  intro record rest id different
  simp [Record.find, different]

theorem get_of_descends (flattened : flatten forest = .ok records)
    (inside : Descends forest (above ++ [node])) :
    records.get node.id = .ok (node.record (lastId none above)) := by
  obtain ⟨listing, distinct⟩ := listing_of_flatten flattened
  obtain ⟨before, later, placed⟩ := listing.exists_placed inside
  rw [Records.get, placed.walk_eq distinct passesOver_find]
  simp [Record.find]

/-- A walk from the top meets the route with the rest of the list still ahead,
and from there it meets the children of the route as it would from the top. -/
theorem exists_later (flattened : flatten forest = .ok records)
    (inside : Descends forest (above ++ [node])) :
    ∃ later, ∀ {α : Type} {walk : List Record → String → α}, PassesOver walk →
      walk records.toList node.id = walk (node.record (lastId none above) :: later) node.id ∧
        ∀ child ∈ node.children, walk later child.id = walk records.toList child.id := by
  obtain ⟨listing, distinct⟩ := listing_of_flatten flattened
  obtain ⟨before, later, placed⟩ := listing.exists_placed inside
  refine ⟨later, ?_⟩
  intro α walk passes
  exact ⟨placed.walk_eq distinct passes,
    fun child member => placed.walk_child distinct passes member⟩

theorem find_child_of_descends (flattened : flatten forest = .ok records)
    (inside : Descends forest (above ++ [node])) {child : Node}
    (member : child ∈ node.children) :
    Record.find records.toList child.id = .ok (child.record (some node.id)) := by
  have parentId : lastId none (above ++ [node]) = some node.id := by
    simp [lastId]
  rw [← parentId]
  exact get_of_descends flattened (inside.append_child member)

theorem get?_of_descends (flattened : flatten forest = .ok records)
    (inside : Descends forest (above ++ [node])) :
    records.get? node.id = some (node.record (lastId none above)) := by
  have found := get_of_descends flattened inside
  rw [Records.get, Record.find] at found
  split at found
  · rename_i record search
    cases found
    exact search
  · cases found

/-- The records of the routes on a chain. -/
def recordsAlong (top : Option String) : List Node → List Record
  | [] => []
  | node :: below => node.record top :: recordsAlong (some node.id) below

theorem recordsAlong_concat (top : Option String) (chain : List Node) (node : Node) :
    recordsAlong top (chain ++ [node]) =
      recordsAlong top chain ++ [node.record (lastId top chain)] := by
  induction chain generalizing top with
  | nil => rfl
  | cons first rest ih =>
      rw [List.cons_append, recordsAlong, ih, recordsAlong]
      rfl

theorem passesOver_chain : PassesOver Record.chain := by
  intro record rest id different
  rw [Record.chain, if_neg different]

theorem chain_of_descends (flattened : flatten forest = .ok records)
    (inside : Descends forest (above ++ [node])) :
    Record.chain records.toList.reverse node.id =
      .ok (recordsAlong none (above ++ [node])).reverse := by
  obtain ⟨listing, distinct⟩ := listing_of_flatten flattened
  -- The walk climbs, so the chain is taken apart at its lower end.
  induction above using List.reverseRecOn generalizing node with
  | nil =>
      obtain ⟨before, later, placed⟩ := listing.exists_placed inside
      rw [placed.walk_reverse_eq distinct passesOver_chain]
      simp [Record.chain, recordsAlong, lastId]
  | append_singleton up parent ih =>
      obtain ⟨before, later, placed⟩ := listing.exists_placed inside
      have parentInside : Descends forest (up ++ [parent]) := by
        rw [List.append_assoc, List.singleton_append] at inside
        exact (descends_append_cons.mp inside).1
      have parentChain : Record.chain before.reverse parent.id =
          .ok (recordsAlong none (up ++ [parent])).reverse := by
        rw [placed.walk_ancestor distinct passesOver_chain (by simp)]
        exact ih parentInside
      have parentId : lastId none (up ++ [parent]) = some parent.id := by
        simp [lastId]
      rw [placed.walk_reverse_eq distinct passesOver_chain, recordsAlong_concat none
        (up ++ [parent]), parentId]
      simp [Record.chain, parentChain, Except.map]

theorem ancestors_of_descends (flattened : flatten forest = .ok records)
    (inside : Descends forest (above ++ [node])) :
    records.ancestors node.id = .ok (recordsAlong none above).reverse := by
  rw [Records.ancestors, chain_of_descends flattened inside, recordsAlong_concat]
  simp [Except.map]

theorem roots_of_flatten (flattened : flatten forest = .ok records) :
    records.roots = forest.map (Node.record none) := by
  rw [Records.roots, (listing_of_flatten flattened).1.filter_isRoot]
  rfl

/-- The concrete paths that the record of a route lists. -/
def Records.pathsOf (records : Records) (node : Node) : List String :=
  match records.get? node.id with
  | some record => record.paths
  | none => []

theorem pathsOf_eq_paths (flattened : flatten forest = .ok records) {chain : List Node}
    (inside : Descends forest chain) :
    ∀ node ∈ chain, records.pathsOf node = node.paths := by
  intro node member
  obtain ⟨above, nodeInside⟩ := inside.of_mem member
  rw [Records.pathsOf, get?_of_descends flattened nodeInside]
  rfl

theorem pathsOf_eq_paths_below (flattened : flatten forest = .ok records)
    {below : List Node} (inside : Descends forest (above ++ node :: below)) :
    ∀ route ∈ below, records.pathsOf route = route.paths := by
  intro route member
  apply pathsOf_eq_paths flattened inside
  exact List.mem_append_right above (List.mem_cons_of_mem node member)

end Flattened

/-! ## A small tree

It has an index route, a layout, optional segments, a repeated name and a
catch-all.
-/

namespace Sample

def page : Node := ⟨"page", some ":id?/*", false, []⟩

def project : Node := ⟨"project", some ":id/tabs?", false, [page]⟩

def frame : Node := ⟨"frame", none, false, [project]⟩

def index : Node := ⟨"index", none, true, []⟩

def home : Node := ⟨"home", some "", false, [index, frame]⟩

def records : Records where
  toList := [home.record none, index.record (some "home"), frame.record (some "home"),
    project.record (some "frame"), page.record (some "project")]

theorem descends_page : Descends [home] ([home, frame, project] ++ [page]) := by
  simp [Descends, home, frame, project]

theorem flatten_home : flatten [home] = .ok records := by
  have accepted : (flatten [home]).toOption = some records := by decide +kernel
  cases outcome : flatten [home] with
  | error failure =>
      rw [outcome] at accepted
      cases accepted
  | ok found =>
      rw [outcome] at accepted
      cases accepted
      rfl

end Sample

end RouteTree
