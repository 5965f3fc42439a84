import RouteTree.Proofs.Binding

/-!
# Loading lazy entries

The loads of a route are awaited together. Either all of them succeed and every lazy
kind takes its own value from its own bundle, or nothing is delivered at all: a load
that fails comes first, and only when none fails is a bundle looked into. Eager and
loaded values never meet, so a route ends up with one value for each registered kind.
-/

namespace RouteTree

variable {δ γ : Type}

/-! ## Failing loads -/

@[simp]
theorem LoadEvent.cause?_polled (label : String) (count : Nat) :
    (LoadEvent.polled label count).cause? = none := rfl

namespace Load

theorem cause?_ending_eq_some_iff {load : Load δ γ} {cause : String} :
    load.ending.cause? = some cause ↔ load.outcome = .error cause := by
  rw [ending]
  cases load.outcome with
  | ok bundle => simp [LoadEvent.cause?]
  | error other => simp [LoadEvent.cause?]

/-- A load fails in the round after its delay, and in no other. -/
theorem exists_cause_poll_iff {load : Load δ γ} {passed : Nat} {cause : String} :
    (∃ event ∈ load.poll passed, event.cause? = some cause) ↔
      passed = load.delay ∧ load.outcome = .error cause := by
  rw [poll]
  by_cases early : passed < load.delay
  · rw [if_pos early]
    simp [Nat.ne_of_lt early]
  · rw [if_neg early]
    by_cases due : passed = load.delay
    · rw [if_pos due]
      simp [due, cause?_ending_eq_some_iff]
    · rw [if_neg due]
      simp [due]

end Load

theorem delay_le_foldl_max (loads : List (Load δ γ)) (start : Nat) :
    start ≤ loads.foldl (fun delay load => max delay load.delay) start ∧
      ∀ load ∈ loads, load.delay ≤ loads.foldl (fun delay load => max delay load.delay) start := by
  induction loads generalizing start with
  | nil => simp
  | cons first rest ih =>
      obtain ⟨fromStart, fromRest⟩ := ih (max start first.delay)
      rw [List.foldl_cons, List.forall_mem_cons]
      exact ⟨Nat.le_trans (Nat.le_max_left _ _) fromStart,
        Nat.le_trans (Nat.le_max_right _ _) fromStart, fromRest⟩

/-- No load is still unfinished when the rounds are over, so every failure shows. -/
theorem exists_cause_schedule_iff {loads : List (Load δ γ)} {cause : String} :
    (∃ event ∈ schedule loads, event.cause? = some cause) ↔
      ∃ load ∈ loads, load.outcome = .error cause := by
  constructor
  · rintro ⟨event, member, failed⟩
    rw [schedule, List.mem_append, List.mem_map] at member
    rcases member with ⟨load, _, rfl⟩ | member
    · cases failed
    · obtain ⟨passed, _, inRound⟩ := List.mem_flatMap.mp member
      obtain ⟨load, loadMember, polled⟩ := List.mem_flatMap.mp inRound
      exact ⟨load, loadMember, (Load.exists_cause_poll_iff.mp ⟨event, polled, failed⟩).2⟩
  · rintro ⟨load, member, failing⟩
    obtain ⟨event, polled, failed⟩ := Load.exists_cause_poll_iff.mpr ⟨rfl, failing⟩
    have inTime : load.delay < longestDelay loads + 1 :=
      Nat.lt_succ_of_le ((delay_le_foldl_max loads 0).2 load member)
    refine ⟨event, List.mem_append_right _ (List.mem_flatMap.mpr ⟨load.delay, ?_, ?_⟩), failed⟩
    · exact List.mem_range.mpr inTime
    · exact List.mem_flatMap.mpr ⟨load, member, polled⟩

/-! ## What a resolver delivers -/

/-- The load succeeds, and its bundle has the value under its kind, tagged as that kind
for the route. -/
def Load.Gives (load : Load δ γ) (id : String) (kind : EntryKind) (value : kind.Value δ γ) :
    Prop :=
  ∃ bundle, load.outcome = .ok bundle ∧ bundle kind = some ⟨id, kind, value⟩

theorem Bundle.provide?_eq_some_iff {bundle : Bundle δ γ} {id : String} {kind : EntryKind}
    {value : kind.Value δ γ} :
    bundle.provide? id kind = some value ↔ bundle kind = some ⟨id, kind, value⟩ := by
  rw [provide?]
  cases bundle kind with
  | none => simp
  | some entry =>
      obtain ⟨entryId, tag, entryValue⟩ := entry
      simp [and_assoc]

namespace Resolver

variable {resolver : Resolver δ γ} {kind : EntryKind}

theorem provided_eq_some_iff {value : kind.Value δ γ} :
    resolver.provided kind = some value ↔
      ∃ load, resolver.load? kind = some load ∧ load.Gives resolver.id kind value := by
  rw [provided, Option.bind_eq_some_iff]
  refine exists_congr fun load => and_congr_right fun _ => ?_
  rw [Option.bind_eq_some_iff, Load.Gives]
  refine exists_congr fun bundle => ?_
  rw [Bundle.provide?_eq_some_iff]
  cases load.outcome with
  | ok other => simp [Except.toOption]
  | error cause => simp [Except.toOption]

theorem mem_loads_iff {load : Load δ γ} :
    load ∈ resolver.loads ↔ ∃ kind, resolver.load? kind = some load := by
  rw [loads, List.mem_filterMap]
  exact exists_congr fun kind => and_iff_right (EntryKind.mem_visited kind)

theorem exists_failing_of_firstCause? {cause : String} (first : resolver.firstCause? = some cause) :
    ∃ kind load, resolver.load? kind = some load ∧ load.outcome = .error cause := by
  obtain ⟨load, member, failing⟩ :=
    exists_cause_schedule_iff.mp (List.exists_of_findSome?_eq_some first)
  obtain ⟨kind, waits⟩ := mem_loads_iff.mp member
  exact ⟨kind, load, waits, failing⟩

theorem firstCause?_eq_none_iff :
    resolver.firstCause? = none ↔
      ∀ kind load, resolver.load? kind = some load → ∃ bundle, load.outcome = .ok bundle := by
  rw [firstCause?, List.findSome?_eq_none_iff]
  constructor
  · intro quiet kind load waits
    cases outcome : load.outcome with
    | ok bundle => exact ⟨bundle, rfl⟩
    | error cause =>
        obtain ⟨event, member, failed⟩ :=
          exists_cause_schedule_iff.mpr ⟨load, mem_loads_iff.mpr ⟨kind, waits⟩, outcome⟩
        rw [quiet event member] at failed
        cases failed
  · intro succeed event member
    cases failed : event.cause? with
    | none => rfl
    | some cause =>
        obtain ⟨load, loadMember, failing⟩ := exists_cause_schedule_iff.mp ⟨event, member, failed⟩
        obtain ⟨kind, waits⟩ := mem_loads_iff.mp loadMember
        obtain ⟨bundle, succeeds⟩ := succeed kind load waits
        rw [failing] at succeeds
        cases succeeds

end Resolver

/-! ## All or nothing -/

section Waiting

variable (waits : EntryKind → Load δ γ → Prop) (id : String)

/-- The kind waits for a load that does not give it a value. -/
def Lacks (kind : EntryKind) : Prop :=
  ∃ load, waits kind load ∧ ∀ value, ¬ load.Gives id kind value

/-- The kind lacks its value, and no kind that is visited before it does. -/
def FirstLacking (kind : EntryKind) : Prop :=
  ∃ before after, EntryKind.visited = before ++ kind :: after ∧ Lacks waits id kind ∧
    ∀ other ∈ before, ¬ Lacks waits id other

/-- What comes of loads that kinds of a route wait for: the value of every one of these
kinds and of no other, or else the cause of a load that failed, or if none did, the
first kind that lacks its value. -/
structure AllOrNothing (outcome : Except RouteError (Props δ γ)) : Prop where
  answered_iff : Answered outcome ↔
    ∀ kind load, waits kind load → ∃ value, load.Gives id kind value
  props_iff : ∀ props, outcome = .ok props → ∀ kind value,
    props kind = some value ↔ ∃ load, waits kind load ∧ load.Gives id kind value
  failed : (∃ kind load cause, waits kind load ∧ load.outcome = .error cause) →
    ∃ kind load cause, waits kind load ∧ load.outcome = .error cause ∧
      outcome = .error (.lazyFailure id cause)
  lacking : (∀ kind load, waits kind load → ∃ bundle, load.outcome = .ok bundle) →
    ¬ Answered outcome →
      ∃ kind, FirstLacking waits id kind ∧ outcome = .error (.incompleteBundle id kind)

namespace AllOrNothing

variable {waits id} {kind : EntryKind} {load : Load δ γ}

theorem of_failing {cause : String} (waiting : waits kind load)
    (failing : load.outcome = .error cause) :
    AllOrNothing waits id (.error (.lazyFailure id cause)) where
  answered_iff := by
    constructor
    · rintro ⟨props, answered⟩
      cases answered
    · intro gives
      obtain ⟨value, bundle, succeeds, _⟩ := gives kind load waiting
      rw [failing] at succeeds
      cases succeeds
  props_iff props answered := by cases answered
  failed _ := ⟨kind, load, cause, waiting, failing, rfl⟩
  lacking succeed _ := by
    obtain ⟨bundle, succeeds⟩ := succeed kind load waiting
    rw [failing] at succeeds
    cases succeeds

theorem of_lacking (succeed : ∀ kind load, waits kind load → ∃ bundle, load.outcome = .ok bundle)
    (first : FirstLacking waits id kind) :
    AllOrNothing waits id (.error (.incompleteBundle id kind)) where
  answered_iff := by
    constructor
    · rintro ⟨props, answered⟩
      cases answered
    · intro gives
      obtain ⟨_, _, _, ⟨load, waiting, givesNothing⟩, _⟩ := first
      obtain ⟨value, given⟩ := gives kind load waiting
      exact absurd given (givesNothing value)
  props_iff props answered := by cases answered
  failed := by
    rintro ⟨kind, load, cause, waiting, failing⟩
    obtain ⟨bundle, succeeds⟩ := succeed kind load waiting
    rw [failing] at succeeds
    cases succeeds
  lacking _ _ := ⟨kind, first, rfl⟩

theorem of_giving {props : Props δ γ}
    (gives : ∀ kind load, waits kind load → ∃ value, load.Gives id kind value)
    (given : ∀ kind value, props kind = some value ↔
      ∃ load, waits kind load ∧ load.Gives id kind value) :
    AllOrNothing waits id (.ok props) where
  answered_iff := ⟨fun _ => gives, fun _ => ⟨props, rfl⟩⟩
  props_iff := by
    rintro _ ⟨⟩
    exact given
  failed := by
    rintro ⟨kind, load, cause, waiting, failing⟩
    obtain ⟨value, bundle, succeeds, _⟩ := gives kind load waiting
    rw [failing] at succeeds
    cases succeeds
  lacking _ unanswered := absurd ⟨props, rfl⟩ unanswered

end AllOrNothing

end Waiting

namespace Resolver

variable (resolver : Resolver δ γ)

/-- The kind waits for the load. -/
def Waits (kind : EntryKind) (load : Load δ γ) : Prop :=
  resolver.load? kind = some load

variable {resolver} {kind : EntryKind}

theorem lacks_iff :
    Lacks resolver.Waits resolver.id kind ↔
      (resolver.load? kind).isSome = true ∧ (resolver.provided kind).isNone = true := by
  rw [Option.isSome_iff_exists, Option.isNone_iff_eq_none, Option.eq_none_iff_forall_ne_some]
  constructor
  · rintro ⟨load, waits, givesNothing⟩
    refine ⟨⟨load, waits⟩, ?_⟩
    intro value provided
    obtain ⟨other, otherWaits, gives⟩ := provided_eq_some_iff.mp provided
    cases waits.symm.trans otherWaits
    exact givesNothing value gives
  · rintro ⟨⟨load, waits⟩, missing⟩
    exact ⟨load, waits, fun value gives =>
      missing value (provided_eq_some_iff.mpr ⟨load, waits, gives⟩)⟩

theorem firstMissing?_eq_some_iff :
    resolver.firstMissing? = some kind ↔ FirstLacking resolver.Waits resolver.id kind := by
  simp only [firstMissing?, kinds, List.find?_filter, List.find?_eq_some_iff_append, FirstLacking,
    lacks_iff, decide_eq_true_eq, Bool.not_eq_true', decide_eq_false_iff_not]
  constructor
  · rintro ⟨lacks, before, after, split, sound⟩
    exact ⟨before, after, split, lacks, sound⟩
  · rintro ⟨before, after, split, lacks, sound⟩
    exact ⟨lacks, before, after, split, sound⟩

theorem firstMissing?_eq_none_iff :
    resolver.firstMissing? = none ↔
      ∀ kind load, resolver.Waits kind load → ∃ value, load.Gives resolver.id kind value := by
  simp only [firstMissing?, kinds, List.find?_filter, List.find?_eq_none, decide_eq_true_eq,
    ← lacks_iff]
  constructor
  · intro nothing kind load waits
    exact not_forall_not.mp fun givesNothing =>
      nothing kind (EntryKind.mem_visited kind) ⟨load, waits, givesNothing⟩
  · rintro gives kind _ ⟨load, waits, givesNothing⟩
    obtain ⟨value, given⟩ := gives kind load waits
    exact givesNothing value given

variable (resolver) in
theorem resolve_allOrNothing :
    AllOrNothing resolver.Waits resolver.id resolver.resolve.result := by
  rw [resolve]
  cases first : resolver.firstCause? with
  | some cause =>
      obtain ⟨kind, load, waits, failing⟩ := exists_failing_of_firstCause? first
      exact .of_failing waits failing
  | none =>
      cases missing : resolver.firstMissing? with
      | some kind =>
          exact .of_lacking (firstCause?_eq_none_iff.mp first)
            (firstMissing?_eq_some_iff.mp missing)
      | none =>
          exact .of_giving (firstMissing?_eq_none_iff.mp missing) fun kind value =>
            provided_eq_some_iff

end Resolver

/-! ## Routes of a run -/

namespace Run

variable {table : Table} {phase : Phase} {registration : Registration δ γ phase}
  {batches : List (Batch δ γ)}

theorem carries_of_mem (run : Run table registration batches) {route : BoundRoute δ γ}
    (member : route ∈ BoundRoute.preorders registration.routes) : route.Carries batches := by
  rw [run.preorders_routes] at member
  obtain ⟨place, _, rfl⟩ := List.mem_map.mp member
  exact run.carries place.2

/-- Each kind has at most one entry for a route, be it eager or lazy. -/
theorem eq_of_registered (run : Run table registration batches) {kind : EntryKind}
    {entry other : Entry δ γ kind} (registered : Registered batches kind entry)
    (otherRegistered : Registered batches kind other) (sameId : entry.id = other.id) :
    entry = other := by
  have found := run.get?_eq_some_iff.mpr ⟨registered, sameId⟩
  have otherFound := run.get?_eq_some_iff.mpr ⟨otherRegistered, rfl⟩
  exact Option.some.inj (found.symm.trans otherFound)

/-- A lazy entry has its route, and the route has a resolver. -/
theorem exists_resolver (run : Run table registration batches) {kind : EntryKind} {id : String}
    {load : Load δ γ} (registered : Registered batches kind (.lazy id load)) :
    ∃ route ∈ BoundRoute.preorders registration.routes, route.id = id ∧
      ∃ resolver, route.resolver = some resolver := by
  have known : id ∈ table.ids := run.known_of_registered registered
  rw [← run.map_id_preorders_routes] at known
  obtain ⟨route, member, rfl⟩ := List.mem_map.mp known
  have present := (run.carries_of_mem member).resolver_iff.mpr ⟨kind, load, registered⟩
  exact ⟨route, member, rfl, Option.isSome_iff_exists.mp present⟩

end Run

/-- A route with lazy entries resolves all of them or nothing. It succeeds exactly if every
load succeeds and its bundle has, under the kind that waits for it, a value tagged as
that kind for that route; the outcome then has these values and no others. If a load
fails, the error is the cause of one that does; otherwise it is the first kind, in
the order of visiting, whose bundle lacks its value. Each kind that was
registered for the route, eagerly or lazily, has then its value either from the start or
from the resolution, never from both, and no other kind has one. -/
theorem lazy_entries_delivered {table : Table} {phase : Phase}
    {registration : Registration δ γ phase} {batches : List (Batch δ γ)}
    (run : Run table registration batches) {route : BoundRoute δ γ}
    (member : route ∈ BoundRoute.preorders registration.routes) {resolver : Resolver δ γ}
    (bound : route.resolver = some resolver) :
    AllOrNothing (fun kind load => Registered batches kind (.lazy route.id load)) route.id
        resolver.resolve.result ∧
      ∀ props, resolver.resolve.result = .ok props → ∀ kind,
        ((∃ entry, Registered batches kind entry ∧ entry.id = route.id) ↔
          (route.props kind).isSome ∨ (props kind).isSome) ∧
        ¬ ((route.props kind).isSome ∧ (props kind).isSome) := by
  have carries := run.carries_of_mem member
  have sameWaits : resolver.Waits = fun kind load =>
      Registered batches kind (.lazy route.id load) := by
    funext kind load
    rw [← propext (carries.load_iff kind load), BoundRoute.load?, bound]
    rfl
  have resolved := resolver.resolve_allOrNothing
  rw [sameWaits, carries.resolver_id resolver bound] at resolved
  refine ⟨resolved, ?_⟩
  intro props succeeds kind
  have loaded := resolved.props_iff props succeeds kind
  have gives := resolved.answered_iff.mp ⟨props, succeeds⟩ kind
  simp only [Option.isSome_iff_exists, carries.prop_iff, loaded]
  refine ⟨⟨?_, ?_⟩, ?_⟩
  · rintro ⟨entry, registered, sameId⟩
    cases entry with
    | eager entry =>
        have tagged : (Entry.eager entry : Entry δ γ kind).WellTagged :=
          run.tagged_of_registered registered
        have own : entry.id = route.id := sameId
        rw [tagged.eager_eq, own] at registered
        exact Or.inl ⟨entry.value, registered⟩
    | lazy id load =>
        cases sameId
        obtain ⟨value, given⟩ := gives load registered
        exact Or.inr ⟨value, load, registered, given⟩
  · rintro (⟨value, registered⟩ | ⟨value, load, registered, _⟩)
    · exact ⟨_, registered, rfl⟩
    · exact ⟨_, registered, rfl⟩
  · rintro ⟨⟨value, registered⟩, ⟨otherValue, load, otherRegistered, _⟩⟩
    cases run.eq_of_registered registered otherRegistered rfl

namespace Sample

/-- A bundle with a loader and a component for the page, an action for another route, and an
error boundary that nobody asks for. -/
def bundle : Bundle String String
  | .loader => some ⟨"page", .loader, "projects"⟩
  | .action => some ⟨"home", .action, "save"⟩
  | .component => some ⟨"page", .component, "list"⟩
  | .errorBoundary => some ⟨"page", .errorBoundary, "broken"⟩

/-- Loader and component of the page come from one bundle, its action is there already. -/
def sharedBatches : List (Batch String String) :=
  [⟨.loader, [.lazy "page" ⟨"page.js", 1, .ok bundle⟩]⟩,
    ⟨.action, [.eager ⟨"page", .action, "rename"⟩]⟩,
    ⟨.component, [.lazy "page" ⟨"page.js", 0, .ok bundle⟩]⟩]

theorem registrable_sharedBatches :
    ∀ batch ∈ sharedBatches, Registrable table batch.entries := by
  simp only [sharedBatches, List.forall_mem_cons]
  refine ⟨⟨?_, by decide, by decide⟩, ⟨?_, by decide, by decide⟩, ⟨?_, by decide, by decide⟩,
    by simp⟩
  all_goals simp [Entry.WellTagged, Entry.tag?]

/-- Both lazy kinds of the page find their value. -/
theorem bundle_gives {kind : EntryKind} {load : Load String String}
    (registered : Registered sharedBatches kind (.lazy "page" load)) :
    ∃ value, load.Gives "page" kind value := by
  cases kind with
  | loader =>
      have loads : load = ⟨"page.js", 1, .ok bundle⟩ := by
        simpa [Registered, sharedBatches] using registered
      exact ⟨"projects", bundle, by rw [loads], rfl⟩
  | action => simp [Registered, sharedBatches] at registered
  | component =>
      have loads : load = ⟨"page.js", 0, .ok bundle⟩ := by
        simpa [Registered, sharedBatches] using registered
      exact ⟨"list", bundle, by rw [loads], rfl⟩
  | errorBoundary => simp [Registered, sharedBatches] at registered

end Sample

/-- Loader and component of the page are delivered, and what else the bundle holds is
left there. Where the component cannot be loaded the page gets nothing. -/
theorem shared_bundle_delivered :
    (∃ (phase : Phase) (registration : Registration String String phase),
      Run Sample.table registration Sample.sharedBatches ∧
      ∃ route ∈ BoundRoute.preorders registration.routes, ∃ resolver props,
        route.resolver = some resolver ∧ resolver.resolve.result = .ok props ∧
        props .loader = some "projects" ∧ props .component = some "list" ∧
        props .errorBoundary = none ∧ (route.props .action).isSome ∧ ¬ (props .action).isSome) ∧
    ∃ (phase : Phase) (registration : Registration String String phase),
      Run Sample.table registration Sample.batches ∧
      ∃ route ∈ BoundRoute.preorders registration.routes, ∃ resolver,
        route.resolver = some resolver ∧ route.id = "page" ∧
        ∃ cause, resolver.resolve.result = .error (.lazyFailure "page" cause) := by
  constructor
  · obtain ⟨phase, registration, run⟩ :=
      exists_run_iff.mpr ⟨⟨by decide, by decide⟩, Sample.registrable_sharedBatches⟩
    have loader : Registered Sample.sharedBatches .loader
        (.lazy "page" ⟨"page.js", 1, .ok Sample.bundle⟩) :=
      ⟨_, List.mem_cons_self, List.mem_cons_self⟩
    have action : Registered Sample.sharedBatches .action (.eager ⟨"page", .action, "rename"⟩) :=
      ⟨_, List.mem_cons_of_mem _ List.mem_cons_self, List.mem_cons_self⟩
    have component : Registered Sample.sharedBatches .component
        (.lazy "page" ⟨"page.js", 0, .ok Sample.bundle⟩) :=
      ⟨_, List.mem_cons_of_mem _ (List.mem_cons_of_mem _ List.mem_cons_self), List.mem_cons_self⟩
    obtain ⟨route, member, page, resolver, bound⟩ := run.exists_resolver loader
    obtain ⟨resolved, covered⟩ := lazy_entries_delivered run member bound
    rw [page] at resolved
    obtain ⟨props, succeeds⟩ :=
      resolved.answered_iff.mpr fun kind load registered => Sample.bundle_gives registered
    have loaded := resolved.props_iff props succeeds
    have eager : (route.props .action).isSome :=
      Option.isSome_iff_exists.mpr
        ⟨_, ((run.carries_of_mem member).prop_iff _ _).mpr (page ▸ action)⟩
    refine ⟨phase, registration, run, route, member, resolver, props, bound, succeeds,
      (loaded _ _).mpr ⟨_, loader, _, rfl, rfl⟩, (loaded _ _).mpr ⟨_, component, _, rfl, rfl⟩, ?_,
      eager, fun twice => (covered props succeeds .action).2 ⟨eager, twice⟩⟩
    apply Option.eq_none_iff_forall_ne_some.mpr
    intro value present
    obtain ⟨load, registered, _⟩ := (loaded _ _).mp present
    simp [Registered, Sample.sharedBatches] at registered
  · obtain ⟨phase, registration, run⟩ :=
      exists_run_iff.mpr ⟨⟨by decide, by decide⟩, Sample.registrable_batches⟩
    have component : Registered Sample.batches .component
        (.lazy "page" ⟨"page.js", 2, .error "offline"⟩) :=
      ⟨_, List.mem_cons_of_mem _ List.mem_cons_self, List.mem_cons_self⟩
    obtain ⟨route, member, page, resolver, bound⟩ := run.exists_resolver component
    obtain ⟨resolved, _⟩ := lazy_entries_delivered run member bound
    rw [page] at resolved
    obtain ⟨_, _, cause, _, _, fails⟩ := resolved.failed ⟨_, _, _, component, rfl⟩
    exact ⟨phase, registration, run, route, member, resolver, bound, page, cause, fails⟩

end RouteTree
