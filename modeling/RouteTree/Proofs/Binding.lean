import Mathlib.Data.List.Nodup
import RouteTree.Entry.BoundRoute
import RouteTree.Proofs.Acceptance
import RouteTree.Proofs.Links
import RouteTree.Proofs.Phases

/-!
# Binding entries to routes

The routes that come out of a registration are those of the table, each with
its own entries: an eager entry as a value, a lazy one in the resolver. No entry
gets lost, none lands on another route, and the order of registration does not
show.
-/

namespace RouteTree

variable {δ γ : Type}

/-! ## Bound routes -/

namespace BoundRoute

mutual

/-- The route without its entries. -/
def node : BoundRoute δ γ → Node
  | ⟨id, path, index, _, _, children⟩ => ⟨id, path, index, nodes children⟩

def nodes : List (BoundRoute δ γ) → List Node
  | [] => []
  | first :: rest => node first :: nodes rest

end

mutual

/-- A route before everything below it. -/
def preorder : BoundRoute δ γ → List (BoundRoute δ γ)
  | ⟨id, path, index, props, resolver, children⟩ =>
      ⟨id, path, index, props, resolver, children⟩ :: preorders children

/-- Siblings in order, each before everything below it. -/
def preorders : List (BoundRoute δ γ) → List (BoundRoute δ γ)
  | [] => []
  | first :: rest => preorder first ++ preorders rest

end

/-- The kinds that the route's resolver waits for. -/
def lazyKinds (route : BoundRoute δ γ) : List EntryKind :=
  (route.resolver.map Resolver.kinds).getD []

/-- The load that the route's resolver has for a kind. -/
def load? (route : BoundRoute δ γ) (kind : EntryKind) : Option (Load δ γ) :=
  route.resolver.bind fun resolver => resolver.load? kind

theorem mem_lazyKinds_iff {route : BoundRoute δ γ} {kind : EntryKind} :
    kind ∈ route.lazyKinds ↔ ∃ load, route.load? kind = some load := by
  rw [lazyKinds, load?, ← Option.isSome_iff_exists]
  cases route.resolver with
  | none => simp
  | some resolver => simp [Resolver.kinds, EntryKind.mem_visited]

theorem nodup_lazyKinds (route : BoundRoute δ γ) : route.lazyKinds.Nodup := by
  rw [lazyKinds]
  cases route.resolver with
  | none => exact List.nodup_nil
  | some resolver => exact List.Nodup.filter _ EntryKind.nodup_visited

/-- The route has what was registered for it and nothing else, each entry in the
place for its kind: a value if it is eager, a load of its resolver if it is lazy. -/
structure Carries (batches : List (Batch δ γ)) (route : BoundRoute δ γ) : Prop where
  prop_iff : ∀ kind value,
    route.props kind = some value ↔ Registered batches kind (.eager ⟨route.id, kind, value⟩)
  load_iff : ∀ kind load,
    route.load? kind = some load ↔ Registered batches kind (.lazy route.id load)
  lazyKinds_iff : ∀ kind,
    kind ∈ route.lazyKinds ↔ ∃ load, Registered batches kind (.lazy route.id load)
  lazyKinds_nodup : route.lazyKinds.Nodup
  resolver_iff : route.resolver.isSome = true ↔
    ∃ kind load, Registered batches kind (.lazy route.id load)
  resolver_id : ∀ resolver, route.resolver = some resolver → resolver.id = route.id

end BoundRoute

/-! ## Binding a registry -/

namespace Registry

variable (registry : Registry δ γ)

theorem id_bindRoute (node : Node) : (registry.bindRoute node).id = node.id := by
  cases node
  rfl

theorem props_bindRoute (node : Node) :
    (registry.bindRoute node).props = registry.propsOf node.id := by
  cases node
  rfl

theorem resolver_bindRoute (node : Node) :
    (registry.bindRoute node).resolver = registry.resolverOf? node.id := by
  cases node
  rfl

mutual

theorem node_bindRoute : ∀ node : Node, (registry.bindRoute node).node = node
  | ⟨id, path, index, children⟩ => by
      rw [bindRoute, BoundRoute.node, nodes_bindRoutes children]

theorem nodes_bindRoutes : ∀ forest : List Node,
    BoundRoute.nodes (registry.bindRoutes forest) = forest
  | [] => rfl
  | first :: rest => by
      rw [bindRoutes, BoundRoute.nodes, node_bindRoute first, nodes_bindRoutes rest]

end

mutual

theorem preorder_bindRoute : ∀ (node : Node) (parentId : Option String),
    (registry.bindRoute node).preorder =
      (node.preorder parentId).map fun place => registry.bindRoute place.2
  | ⟨id, path, index, children⟩, parentId => by
      rw [bindRoute, BoundRoute.preorder, preorders_bindRoutes children (some id), Node.preorder,
        List.map_cons, bindRoute]

theorem preorders_bindRoutes : ∀ (forest : List Node) (parentId : Option String),
    BoundRoute.preorders (registry.bindRoutes forest) =
      (Node.preorders parentId forest).map fun place => registry.bindRoute place.2
  | [], _ => rfl
  | first :: rest, parentId => by
      rw [bindRoutes, BoundRoute.preorders, preorder_bindRoute first parentId,
        preorders_bindRoutes rest parentId, Node.preorders, List.map_append]

end

variable {registry} {id : String} {kind : EntryKind}

theorem propsOf_eq_some_iff {value : kind.Value δ γ} :
    registry.propsOf id kind = some value ↔
      ∃ entry, (registry kind).get? id = some (.eager entry) ∧ entry.value = value := by
  rw [propsOf, Option.bind_eq_some_iff]
  constructor
  · rintro ⟨entry, found, same⟩
    cases entry with
    | eager entry => exact ⟨entry, found, Option.some.inj same⟩
    | lazy other load => cases same
  · rintro ⟨entry, found, rfl⟩
    exact ⟨_, found, rfl⟩

theorem loadOf?_eq_some_iff {load : Load δ γ} :
    registry.loadOf? id kind = some load ↔
      ∃ other, (registry kind).get? id = some (.lazy other load) := by
  rw [loadOf?, Option.bind_eq_some_iff]
  constructor
  · rintro ⟨entry, found, same⟩
    cases entry with
    | eager entry => cases same
    | lazy other others =>
        cases same
        exact ⟨other, found⟩
  · rintro ⟨other, found⟩
    exact ⟨_, found, rfl⟩

variable (registry id) in
/-- A route without a resolver has nothing to wait for. -/
theorem resolverOf?_cases :
    (∃ kind load, registry.loadOf? id kind = some load) ∧
        registry.resolverOf? id = some ⟨id, registry.loadOf? id⟩ ∨
      (∀ kind, registry.loadOf? id kind = none) ∧ registry.resolverOf? id = none := by
  rw [resolverOf?]
  cases waits : EntryKind.visited.any fun kind => (registry.loadOf? id kind).isSome with
  | true =>
      obtain ⟨kind, _, present⟩ := List.any_eq_true.mp waits
      exact Or.inl ⟨⟨kind, Option.isSome_iff_exists.mp present⟩, rfl⟩
  | false =>
      refine Or.inr ⟨?_, rfl⟩
      intro kind
      have absent := List.any_eq_false.mp waits kind (EntryKind.mem_visited kind)
      exact Option.not_isSome_iff_eq_none.mp absent

theorem load?_bindRoute (node : Node) :
    (registry.bindRoute node).load? kind = registry.loadOf? node.id kind := by
  rw [BoundRoute.load?, resolver_bindRoute]
  rcases resolverOf?_cases registry node.id with ⟨_, resolver⟩ | ⟨nothing, resolver⟩
  · rw [resolver]
    rfl
  · rw [resolver, nothing]
    rfl

theorem isSome_resolver_bindRoute_iff (node : Node) :
    (registry.bindRoute node).resolver.isSome = true ↔
      ∃ kind load, registry.loadOf? node.id kind = some load := by
  rw [resolver_bindRoute]
  rcases resolverOf?_cases registry node.id with ⟨waits, resolver⟩ | ⟨nothing, resolver⟩
  · simp [resolver, waits]
  · simp [resolver, nothing]

end Registry

/-! ## Routes of a run -/

namespace Run

variable {table : Table} {phase : Phase} {registration : Registration δ γ phase}
  {batches : List (Batch δ γ)}

theorem tagged_of_registered (run : Run table registration batches) {kind : EntryKind}
    {entry : Entry δ γ kind} (registered : Registered batches kind entry) : entry.WellTagged := by
  obtain ⟨entries, batchMember, member⟩ := registered
  exact (run.registrable _ batchMember).tagged entry member

theorem known_of_registered (run : Run table registration batches) {kind : EntryKind}
    {entry : Entry δ γ kind} (registered : Registered batches kind entry) :
    entry.id ∈ table.ids := by
  obtain ⟨entries, batchMember, member⟩ := registered
  exact (run.registrable _ batchMember).known entry member

theorem propsOf_eq_some_iff (run : Run table registration batches) {id : String}
    {kind : EntryKind} {value : kind.Value δ γ} :
    registration.registry.propsOf id kind = some value ↔
      Registered batches kind (.eager ⟨id, kind, value⟩) := by
  rw [Registry.propsOf_eq_some_iff]
  constructor
  · rintro ⟨entry, found, rfl⟩
    obtain ⟨registered, rfl⟩ := run.get?_eq_some_iff.mp found
    have tagged : (Entry.eager entry : Entry δ γ kind).WellTagged :=
      run.tagged_of_registered registered
    rw [tagged.eager_eq] at registered
    exact registered
  · intro registered
    exact ⟨_, run.get?_eq_some_iff.mpr ⟨registered, rfl⟩, rfl⟩

theorem loadOf?_eq_some_iff (run : Run table registration batches) {id : String}
    {kind : EntryKind} {load : Load δ γ} :
    registration.registry.loadOf? id kind = some load ↔
      Registered batches kind (.lazy id load) := by
  rw [Registry.loadOf?_eq_some_iff]
  constructor
  · rintro ⟨other, found⟩
    obtain ⟨registered, same⟩ := run.get?_eq_some_iff.mp found
    have sameId : other = id := same
    exact sameId ▸ registered
  · intro registered
    exact ⟨id, run.get?_eq_some_iff.mpr ⟨registered, rfl⟩⟩

/-- Each route of a run carries what was registered for it. -/
theorem carries (run : Run table registration batches) (node : Node) :
    (registration.registry.bindRoute node).Carries batches := by
  constructor
  case prop_iff =>
    intro kind value
    rw [Registry.props_bindRoute, Registry.id_bindRoute]
    exact run.propsOf_eq_some_iff
  case load_iff =>
    intro kind load
    rw [Registry.load?_bindRoute, Registry.id_bindRoute]
    exact run.loadOf?_eq_some_iff
  case lazyKinds_iff =>
    intro kind
    simp only [BoundRoute.mem_lazyKinds_iff, Registry.load?_bindRoute, Registry.id_bindRoute,
      run.loadOf?_eq_some_iff]
  case lazyKinds_nodup => exact BoundRoute.nodup_lazyKinds _
  case resolver_iff =>
    simp only [Registry.isSome_resolver_bindRoute_iff, Registry.id_bindRoute,
      run.loadOf?_eq_some_iff]
  case resolver_id =>
    intro resolver found
    rw [Registry.resolver_bindRoute] at found
    rw [Registry.id_bindRoute]
    rcases registration.registry.resolverOf?_cases node.id with ⟨_, bound⟩ | ⟨_, unbound⟩
    · rw [bound] at found
      cases found
      rfl
    · rw [unbound] at found
      cases found

theorem preorders_routes (run : Run table registration batches) :
    BoundRoute.preorders registration.routes =
      (Node.preorders none table.forest).map fun place =>
        registration.registry.bindRoute place.2 := by
  rw [Registration.routes, run.table_eq]
  exact Registry.preorders_bindRoutes _ _ none

/-- The routes of a run have the ids of the table, in the same order. -/
theorem map_id_preorders_routes (run : Run table registration batches) :
    (BoundRoute.preorders registration.routes).map BoundRoute.id = table.ids := by
  have sameIds : table.ids = (Node.singles table.forest).map Node.id :=
    ids_of_flatten table.flatten_forest
  rw [run.preorders_routes, sameIds, Node.singles, List.map_map, List.map_map]
  apply List.map_congr_left
  intro place _
  exact registration.registry.id_bindRoute place.2

theorem routes_eq {otherPhase : Phase} {other : Registration δ γ otherPhase}
    {others : List (Batch δ γ)} (run : Run table registration batches)
    (otherRun : Run table other others)
    (same : ∀ kind (entry : Entry δ γ kind),
      Registered batches kind entry ↔ Registered others kind entry) :
    other.routes = registration.routes := by
  have sameRegistry : other.registry = registration.registry := by
    funext kind
    apply EntryMap.eq_of_same_get?
    intro id entry
    rw [otherRun.get?_eq_some_iff, run.get?_eq_some_iff, same]
  rw [Registration.routes, Registration.routes, sameRegistry, otherRun.table_eq, run.table_eq]

end Run

/-- Whatever the order in which batches of entries are registered, the routes for the
router are those of the table, by ids, paths, index flags and shape. Each carries
the entries that were registered for it and no others, and every entry has the
one route with its id. The same batches in any other admissible order, each with its
entries in any order, can be registered as well and give the same routes. -/
theorem routes_carry_entries {table : Table} {phase : Phase}
    {registration : Registration δ γ phase} {batches : List (Batch δ γ)}
    (run : Run table registration batches) :
    BoundRoute.nodes registration.routes = table.forest ∧
      (∀ route ∈ BoundRoute.preorders registration.routes, route.Carries batches) ∧
      (∀ kind (entry : Entry δ γ kind), Registered batches kind entry →
        ∃! route, route ∈ BoundRoute.preorders registration.routes ∧ route.id = entry.id) ∧
      ∀ others, Rearranged batches others → Admissible (others.map Batch.kind) →
        (∃ (otherPhase : Phase) (other : Registration δ γ otherPhase), Run table other others) ∧
          ∀ {otherPhase : Phase} (other : Registration δ γ otherPhase), Run table other others →
            other.routes = registration.routes := by
  refine ⟨?_, ?_, ?_, ?_⟩
  · rw [Registration.routes, run.table_eq]
    exact registration.registry.nodes_bindRoutes table.forest
  · intro route member
    rw [run.preorders_routes] at member
    obtain ⟨place, _, rfl⟩ := List.mem_map.mp member
    exact run.carries place.2
  · intro kind entry registered
    have distinct : ((BoundRoute.preorders registration.routes).map BoundRoute.id).Nodup :=
      run.map_id_preorders_routes ▸ (listing_of_flatten table.flatten_forest).2
    have known : entry.id ∈ (BoundRoute.preorders registration.routes).map BoundRoute.id :=
      run.map_id_preorders_routes ▸ run.known_of_registered registered
    obtain ⟨route, member, same⟩ := List.mem_map.mp known
    refine ⟨route, ⟨member, same⟩, ?_⟩
    rintro other ⟨otherMember, otherSame⟩
    exact List.inj_on_of_nodup_map distinct otherMember member (otherSame.trans same.symm)
  · intro others rearranged admissible
    refine ⟨?_, ?_⟩
    · exact exists_run_iff.mpr ⟨admissible, rearranged.registrable run.registrable⟩
    · intro otherPhase other otherRun
      exact run.routes_eq otherRun fun kind entry => rearranged.registered_iff

namespace Sample

/-- The page has its loader and waits for its component. -/
def batches : List (Batch String String) :=
  [⟨.loader, [.eager ⟨"page", .loader, "projects"⟩, .eager ⟨"home", .loader, "news"⟩]⟩,
    ⟨.component, [.lazy "page" ⟨"page.js", 2, .error "offline"⟩]⟩,
    ⟨.errorBoundary, [.eager ⟨"home", .errorBoundary, "broken"⟩]⟩]

/-- The same entries, the error boundary before the component and the loaders turned
around. -/
def otherBatches : List (Batch String String) :=
  [⟨.loader, [.eager ⟨"home", .loader, "news"⟩, .eager ⟨"page", .loader, "projects"⟩]⟩,
    ⟨.errorBoundary, [.eager ⟨"home", .errorBoundary, "broken"⟩]⟩,
    ⟨.component, [.lazy "page" ⟨"page.js", 2, .error "offline"⟩]⟩]

theorem rearranged_batches : Rearranged batches otherBatches := by
  refine ⟨_, .cons _ (.swap _ _ []), .cons (.perm (.swap _ _ [])) (.cons (.perm (.refl _))
    (.cons (.perm (.refl _)) .nil))⟩

theorem registrable_batches : ∀ batch ∈ batches, Registrable table batch.entries := by
  simp only [batches, List.forall_mem_cons]
  refine ⟨⟨?_, by decide, by decide⟩, ⟨?_, by decide, by decide⟩, ⟨?_, by decide, by decide⟩,
    by simp⟩
  all_goals simp [Entry.WellTagged, Entry.tag?]

end Sample

/-- The page of the small tree gets its loader and waits for its component, in
whichever order the calls come. -/
theorem project_routes_carry_entries :
    ∃ (phase : Phase) (registration : Registration String String phase),
      Run Sample.table registration Sample.batches ∧
      BoundRoute.nodes registration.routes = [Sample.home] ∧
      (∃ route ∈ BoundRoute.preorders registration.routes, route.id = "page" ∧
        route.props .loader = some "projects" ∧ route.props .component = none ∧
        EntryKind.component ∈ route.lazyKinds ∧ route.resolver.isSome = true) ∧
      ∃ (otherPhase : Phase) (other : Registration String String otherPhase),
        Run Sample.table other Sample.otherBatches ∧ other.routes = registration.routes := by
  have admissible : Admissible (Sample.batches.map Batch.kind) := ⟨by decide, by decide⟩
  have otherAdmissible : Admissible (Sample.otherBatches.map Batch.kind) := ⟨by decide, by decide⟩
  obtain ⟨phase, registration, run⟩ :=
    exists_run_iff.mpr ⟨admissible, Sample.registrable_batches⟩
  obtain ⟨shape, carries, found, orders⟩ := routes_carry_entries run
  obtain ⟨⟨otherPhase, other, otherRun⟩, same⟩ :=
    orders _ Sample.rearranged_batches otherAdmissible
  have loader : Registered Sample.batches .loader (.eager ⟨"page", .loader, "projects"⟩) :=
    ⟨_, List.mem_cons_self, List.mem_cons_self⟩
  have component : Registered Sample.batches .component
      (.lazy "page" ⟨"page.js", 2, .error "offline"⟩) :=
    ⟨_, List.mem_cons_of_mem _ List.mem_cons_self, List.mem_cons_self⟩
  have notEager : ∀ value, ¬ Registered Sample.batches .component
      (.eager ⟨"page", .component, value⟩) := by
    simp [Registered, Sample.batches]
  obtain ⟨route, ⟨member, page⟩, _⟩ := found _ _ loader
  have pageRoute : route.id = "page" := page
  have carried := carries route member
  refine ⟨phase, registration, run, shape, ⟨route, member, page, ?_, ?_, ?_, ?_⟩,
    otherPhase, other, otherRun, same other otherRun⟩
  · exact (carried.prop_iff _ _).mpr (pageRoute ▸ loader)
  · apply Option.eq_none_iff_forall_ne_some.mpr
    intro value present
    exact notEager value (pageRoute ▸ (carried.prop_iff _ _).mp present)
  · exact (carried.lazyKinds_iff _).mpr ⟨_, pageRoute ▸ component⟩
  · exact carried.resolver_iff.mpr ⟨_, _, pageRoute ▸ component⟩

end RouteTree
