import RouteTree.Proofs.Links
import RouteTree.Proofs.Registering

/-!
# Refused entries

Registration takes entries one after the other and stops at the first that it
refuses. An entry is refused for its tag, for its route, or for an earlier entry of
the same route, and only the first of these that applies is reported. Lazy entries
have no tag, but among the earlier entries they count like eager ones.
-/

namespace RouteTree

variable {δ γ : Type} {kind : EntryKind} {table : Table}

/-! ## One entry -/

/-- What an entry is refused for after the given ones. -/
inductive Entry.RefusedFor (table : Table) (earlier : List (Entry δ γ kind))
    (entry : Entry δ γ kind) : RouteError → Prop
  | tag {tag : EntryKind} : entry.tag? = some tag → tag ≠ kind →
      RefusedFor table earlier entry (.misplacedEntry entry.id kind tag)
  | unknown : entry.WellTagged → entry.id ∉ table.ids →
      RefusedFor table earlier entry (.unknownRoute entry.id)
  | taken : entry.WellTagged → entry.id ∈ table.ids → entry.id ∈ earlier.map Entry.id →
      RefusedFor table earlier entry (.duplicateEntry kind entry.id)

theorem Entry.misplacement?_eq_some_iff {entry : Entry δ γ kind} {error : RouteError} :
    entry.misplacement? = some error ↔
      ∃ tag, entry.tag? = some tag ∧ tag ≠ kind ∧ error = .misplacedEntry entry.id kind tag := by
  rw [misplacement?]
  cases entry.tag? with
  | none => simp
  | some tag => simp [eq_comm]

namespace EntryMap

variable {registered : EntryMap δ γ kind} {earlier : List (Entry δ γ kind)}

theorem Holds.contains_iff (holds : registered.Holds earlier) {id : String} :
    registered.contains id = true ↔ id ∈ earlier.map Entry.id := by
  rw [SortedMap.contains, Option.isSome_iff_exists, List.mem_map]
  exact exists_congr fun entry => holds id entry

theorem Holds.unique {other : EntryMap δ γ kind} (holds : registered.Holds earlier)
    (otherHolds : other.Holds earlier) : registered = other := by
  apply eq_of_same_get?
  intro id entry
  rw [holds, otherHolds]

/-- A step refuses an entry for what stands against it once the earlier ones are
registered. -/
theorem register_eq_error_iff (holds : registered.Holds earlier) {entry : Entry δ γ kind}
    {error : RouteError} :
    register table registered entry = .error error ↔ entry.RefusedFor table earlier error := by
  constructor
  · intro refused
    rw [register] at refused
    cases misplaced : entry.misplacement? with
    | some fault =>
        obtain ⟨tag, tagged, different, rfl⟩ := Entry.misplacement?_eq_some_iff.mp misplaced
        rw [misplaced] at refused
        cases refused
        exact .tag tagged different
    | none =>
        have wellTagged : entry.WellTagged := Entry.misplacement?_eq_none_iff.mp misplaced
        rw [misplaced] at refused
        by_cases known : entry.id ∈ table.ids
        · obtain ⟨record, found⟩ := (Table.knows_of_mem known).route
          simp only [found] at refused
          by_cases taken : registered.contains entry.id
          · rw [if_pos taken] at refused
            cases refused
            exact .taken wellTagged known (holds.contains_iff.mp taken)
          · rw [if_neg taken] at refused
            cases refused
        · rw [(Table.refuses_of_not_mem known).route] at refused
          cases refused
          exact .unknown wellTagged known
  · intro refused
    rw [register]
    cases refused with
    | tag tagged different =>
        rw [Entry.misplacement?_eq_some_iff.mpr ⟨_, tagged, different, rfl⟩]
    | unknown wellTagged unknown =>
        rw [Entry.misplacement?_eq_none_iff.mpr wellTagged,
          (Table.refuses_of_not_mem unknown).route]
    | taken wellTagged known taken =>
        obtain ⟨record, found⟩ := (Table.knows_of_mem known).route
        rw [Entry.misplacement?_eq_none_iff.mpr wellTagged, found]
        exact if_pos (holds.contains_iff.mpr taken)

/-! ## A sequence of entries -/

theorem registerAll_eq_foldlM (table : Table) (registered : EntryMap δ γ kind)
    (entries : List (Entry δ γ kind)) :
    registerAll table registered entries = entries.foldlM (register table) registered := by
  induction entries generalizing registered with
  | nil => rfl
  | cons first rest ih =>
      rw [registerAll, List.foldlM_cons]
      cases register table registered first with
      | error failure => rfl
      | ok more => exact ih more

/-- Entries before the first that is refused are registered, so what stands against
that one is what they leave. -/
theorem ofEntries_eq_error_iff_exists_registrable {entries : List (Entry δ γ kind)}
    {error : RouteError} :
    ofEntries table entries = .error error ↔
      ∃ earlier entry later, entries = earlier ++ entry :: later ∧ Registrable table earlier ∧
        entry.RefusedFor table earlier error := by
  rw [ofEntries, registerAll_eq_foldlM, foldlM_eq_error_iff]
  simp only [← registerAll_eq_foldlM]
  constructor
  · rintro ⟨earlier, entry, later, registered, split, added, refused⟩
    have holds : registered.Holds earlier := holds_of_ofEntries added
    exact ⟨earlier, entry, later, split, (ofEntries_eq_ok_iff.mp added).1,
      (register_eq_error_iff holds).mp refused⟩
  · rintro ⟨earlier, entry, later, split, registrable, refused⟩
    have holds := holds_insertAll registrable.distinct
    exact ⟨earlier, entry, later, _, split, ofEntries_eq_ok_iff.mpr ⟨registrable, rfl⟩,
      (register_eq_error_iff holds).mpr refused⟩

end EntryMap

/-- None of the entries is refused after those before it. -/
def NoneRefused (table : Table) (entries : List (Entry δ γ kind)) : Prop :=
  ∀ earlier entry later, entries = earlier ++ entry :: later →
    ∀ error, ¬ entry.RefusedFor table earlier error

theorem registrable_iff_noneRefused {entries : List (Entry δ γ kind)} :
    Registrable table entries ↔ NoneRefused table entries := by
  constructor
  · rintro registrable earlier entry later rfl error refused
    have member : entry ∈ earlier ++ entry :: later := by simp
    cases refused with
    | tag tagged different => exact different (registrable.tagged entry member _ tagged)
    | unknown _ unknown => exact unknown (registrable.known entry member)
    | taken _ _ taken =>
        have distinct := registrable.distinct
        rw [List.map_append, List.map_cons] at distinct
        exact (List.nodup_append.mp distinct).2.2 _ taken _ List.mem_cons_self rfl
  · intro noneRefused
    cases registered : EntryMap.ofEntries table entries with
    | ok map => exact (EntryMap.ofEntries_eq_ok_iff.mp registered).1
    | error error =>
        obtain ⟨earlier, entry, later, split, _, refused⟩ :=
          EntryMap.ofEntries_eq_error_iff_exists_registrable.mp registered
        exact absurd refused (noneRefused earlier entry later split error)

/-- The error is that of the first entry that is refused after those before it. -/
def FirstRefusedFor (table : Table) (entries : List (Entry δ γ kind)) (error : RouteError) :
    Prop :=
  ∃ earlier entry later, entries = earlier ++ entry :: later ∧ NoneRefused table earlier ∧
    entry.RefusedFor table earlier error

/-- Entries of one kind are registered exactly if no eager one is tagged as another kind,
each is for a route of the table and no two are for the same route. The map then holds
these entries by their routes and nothing else. Otherwise the error is that of the
first entry with a wrong tag, an unknown route, or the route of an earlier entry, in this
order of the three where several apply to it. -/
theorem ofEntries_outcome (table : Table) (entries : List (Entry δ γ kind)) :
    (Answered (EntryMap.ofEntries table entries) ↔ Registrable table entries) ∧
      (∀ map, EntryMap.ofEntries table entries = .ok map ↔
        Registrable table entries ∧ map.Holds entries) ∧
      ∀ error, EntryMap.ofEntries table entries = .error error ↔
        FirstRefusedFor table entries error := by
  refine ⟨EntryMap.ofEntries_answered_iff, ?_, ?_⟩
  · intro map
    rw [EntryMap.ofEntries_eq_ok_iff]
    refine and_congr_right fun registrable => ?_
    have holds := EntryMap.holds_insertAll registrable.distinct
    constructor
    · rintro rfl
      exact holds
    · intro otherHolds
      exact otherHolds.unique holds
  · intro error
    simp only [EntryMap.ofEntries_eq_error_iff_exists_registrable, FirstRefusedFor,
      registrable_iff_noneRefused]

namespace Sample

/-- The page is to be loaded lazily. -/
def lazyPage : Entry String String .loader :=
  .lazy "page" ⟨"page.js", 2, .error "offline"⟩

/-- The third entry has a wrong tag and repeats the page, the fourth has no route. -/
def faultyLoaders : List (Entry String String .loader) :=
  [lazyPage, .eager ⟨"home", .loader, "news"⟩, .eager ⟨"page", .action, "save"⟩,
    .eager ⟨"nowhere", .loader, "lost"⟩]

theorem registrable_lazyPage : Registrable Sample.table [lazyPage] :=
  ⟨by simp [lazyPage, Entry.WellTagged, Entry.tag?], by decide, by decide⟩

theorem registrable_soundLoaders : Registrable Sample.table (faultyLoaders.take 2) :=
  ⟨by simp [faultyLoaders, lazyPage, Entry.WellTagged, Entry.tag?], by decide, by decide⟩

end Sample

/-- Of the two faults of one entry the tag is reported, and a later fault is not reached.
An eager entry repeats a lazy one. -/
theorem faulty_loaders_refused_in_order :
    Answered (EntryMap.ofEntries Sample.table (Sample.faultyLoaders.take 2)) ∧
      EntryMap.ofEntries Sample.table Sample.faultyLoaders =
        .error (.misplacedEntry "page" .loader .action) ∧
      EntryMap.ofEntries Sample.table [Sample.lazyPage, .eager ⟨"page", .loader, "projects"⟩] =
        .error (.duplicateEntry .loader "page") := by
  refine ⟨(ofEntries_outcome _ _).1.mpr Sample.registrable_soundLoaders,
    ((ofEntries_outcome _ _).2.2 _).mpr ?_, ((ofEntries_outcome _ _).2.2 _).mpr ?_⟩
  · exact ⟨_, _, _, (List.take_append_drop 2 Sample.faultyLoaders).symm,
      registrable_iff_noneRefused.mp Sample.registrable_soundLoaders, .tag rfl (by decide)⟩
  · refine ⟨[_], _, [], rfl, registrable_iff_noneRefused.mp Sample.registrable_lazyPage,
      .taken ?_ (by decide) (by decide)⟩
    simp [Entry.WellTagged, Entry.tag?]

end RouteTree
