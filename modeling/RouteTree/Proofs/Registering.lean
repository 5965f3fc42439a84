import RouteTree.Entry.Registry
import RouteTree.Proofs.Answers

/-!
# Registering entries of one kind

Registering entries in order succeeds exactly if each is for a known route, none
is tagged as another kind and no two are for the same route. The map that
comes out then holds the given entries and nothing else, so the order in which
they were given leaves no trace.
-/

namespace RouteTree

variable {δ γ : Type} {kind : EntryKind} {table : Table}

/-! ## One entry -/

namespace Entry

/-- The entry is not tagged as another kind. -/
def WellTagged (entry : Entry δ γ kind) : Prop :=
  ∀ tag, entry.tag? = some tag → tag = kind

theorem misplacement?_eq_none_iff {entry : Entry δ γ kind} :
    entry.misplacement? = none ↔ entry.WellTagged := by
  unfold misplacement? WellTagged
  cases entry.tag? with
  | none => simp
  | some tag => simp

/-- A rightly tagged eager entry is its route and its value. -/
theorem WellTagged.eager_eq {entry : Tagged (kind.Value δ γ)}
    (tagged : (eager entry : Entry δ γ kind).WellTagged) :
    entry = ⟨entry.id, kind, entry.value⟩ := by
  obtain ⟨id, tag, value⟩ := entry
  have same : tag = kind := tagged tag rfl
  rw [same]

end Entry

namespace EntryMap

theorem register_eq_ok_iff {registered extended : EntryMap δ γ kind} {entry : Entry δ γ kind} :
    register table registered entry = .ok extended ↔
      entry.WellTagged ∧ entry.id ∈ table.ids ∧ registered.get? entry.id = none ∧
        extended = registered.insert entry.id entry := by
  rw [← Entry.misplacement?_eq_none_iff, register]
  cases misplaced : entry.misplacement? with
  | some error => simp
  | none =>
      by_cases known : entry.id ∈ table.ids
      · obtain ⟨record, found⟩ := (Table.knows_of_mem known).route
        rw [found]
        cases bound : registered.get? entry.id with
        | none => simp [SortedMap.contains, bound, known, eq_comm]
        | some other => simp [SortedMap.contains, bound]
      · rw [(Table.refuses_of_not_mem known).route]
        simp [known]

end EntryMap

/-! ## All entries of a kind -/

/-- The entries can be registered together. -/
structure Registrable (table : Table) (entries : List (Entry δ γ kind)) : Prop where
  tagged : ∀ entry ∈ entries, entry.WellTagged
  known : ∀ entry ∈ entries, entry.id ∈ table.ids
  distinct : (entries.map Entry.id).Nodup

namespace Registrable

theorem nil : Registrable table ([] : List (Entry δ γ kind)) :=
  ⟨by simp, by simp, List.nodup_nil⟩

theorem cons_iff {first : Entry δ γ kind} {rest : List (Entry δ γ kind)} :
    Registrable table (first :: rest) ↔
      first.WellTagged ∧ first.id ∈ table.ids ∧ (∀ entry ∈ rest, entry.id ≠ first.id) ∧
        Registrable table rest := by
  constructor
  · intro registrable
    obtain ⟨firstTagged, tagged⟩ := List.forall_mem_cons.mp registrable.tagged
    obtain ⟨firstKnown, known⟩ := List.forall_mem_cons.mp registrable.known
    obtain ⟨fresh, distinct⟩ := List.nodup_cons.mp registrable.distinct
    refine ⟨firstTagged, firstKnown, ?_, ⟨tagged, known, distinct⟩⟩
    intro entry member same
    exact fresh (same ▸ List.mem_map_of_mem member)
  · rintro ⟨firstTagged, firstKnown, fresh, rest⟩
    refine ⟨List.forall_mem_cons.mpr ⟨firstTagged, rest.tagged⟩,
      List.forall_mem_cons.mpr ⟨firstKnown, rest.known⟩, List.nodup_cons.mpr ⟨?_, rest.distinct⟩⟩
    intro member
    obtain ⟨entry, entryMember, same⟩ := List.mem_map.mp member
    exact fresh entry entryMember same

theorem perm {entries others : List (Entry δ γ kind)} (registrable : Registrable table entries)
    (reordered : entries.Perm others) : Registrable table others where
  tagged entry member := registrable.tagged entry (reordered.mem_iff.mpr member)
  known entry member := registrable.known entry (reordered.mem_iff.mpr member)
  distinct := (reordered.map Entry.id).nodup_iff.mp registrable.distinct

end Registrable

namespace EntryMap

theorem eq_of_same_get? {first second : EntryMap δ γ kind}
    (same : ∀ id entry, first.get? id = some entry ↔ second.get? id = some entry) :
    first = second := by
  apply SortedMap.ext_get?
  intro id
  apply Option.ext
  exact same id

/-- Binds every entry to its route. -/
def insertAll (registered : EntryMap δ γ kind) (entries : List (Entry δ γ kind)) :
    EntryMap δ γ kind :=
  entries.foldl (fun map entry => map.insert entry.id entry) registered

/-- The map holds the entries by their ids, and nothing else. -/
def Holds (map : EntryMap δ γ kind) (entries : List (Entry δ γ kind)) : Prop :=
  ∀ id entry, map.get? id = some entry ↔ entry ∈ entries ∧ entry.id = id

/-- Entries are registered beside those that are there already if none is for a
route that has one. -/
theorem registerAll_eq_ok_iff {registered extended : EntryMap δ γ kind}
    {entries : List (Entry δ γ kind)} :
    registerAll table registered entries = .ok extended ↔
      Registrable table entries ∧ (∀ entry ∈ entries, registered.get? entry.id = none) ∧
        extended = registered.insertAll entries := by
  induction entries generalizing registered with
  | nil => simp [registerAll, insertAll, Registrable.nil, eq_comm]
  | cons first rest ih =>
      have added : ∀ id, (registered.insert first.id first).get? id =
          if id = first.id then some first else registered.get? id :=
        fun id => SortedMap.get?_insert registered first.id id first
      rw [registerAll, Registrable.cons_iff, List.forall_mem_cons]
      constructor
      · intro succeeds
        cases firstAdded : register table registered first with
        | error failure =>
            rw [firstAdded] at succeeds
            cases succeeds
        | ok more =>
            rw [firstAdded] at succeeds
            obtain ⟨firstTagged, firstKnown, firstFree, rfl⟩ := register_eq_ok_iff.mp firstAdded
            obtain ⟨restRegistrable, restFree, same⟩ := ih.mp succeeds
            have apart : ∀ entry ∈ rest, entry.id ≠ first.id := by
              intro entry member sameId
              have free := restFree entry member
              rw [added, if_pos sameId] at free
              cases free
            refine ⟨⟨firstTagged, firstKnown, apart, restRegistrable⟩, ⟨firstFree, ?_⟩, same⟩
            intro entry member
            have free := restFree entry member
            rwa [added, if_neg (apart entry member)] at free
      · rintro ⟨⟨firstTagged, firstKnown, apart, restRegistrable⟩, ⟨firstFree, restFree⟩, same⟩
        rw [register_eq_ok_iff.mpr ⟨firstTagged, firstKnown, firstFree, rfl⟩]
        refine ih.mpr ⟨restRegistrable, ?_, same⟩
        intro entry member
        rw [added, if_neg (apart entry member)]
        exact restFree entry member

theorem get?_insertAll {registered : EntryMap δ γ kind} {entries : List (Entry δ γ kind)}
    (distinct : (entries.map Entry.id).Nodup) {id : String} {entry : Entry δ γ kind} :
    (registered.insertAll entries).get? id = some entry ↔
      entry ∈ entries ∧ entry.id = id ∨
        id ∉ entries.map Entry.id ∧ registered.get? id = some entry := by
  induction entries generalizing registered with
  | nil => simp [insertAll]
  | cons first rest ih =>
      obtain ⟨fresh, restDistinct⟩ := List.nodup_cons.mp distinct
      have step : registered.insertAll (first :: rest) =
          insertAll (registered.insert first.id first) rest := rfl
      rw [step, ih restDistinct, SortedMap.get?_insert, List.map_cons]
      by_cases own : id = first.id
      · subst own
        have others : ¬ (entry ∈ rest ∧ entry.id = first.id) := by
          rintro ⟨member, same⟩
          exact fresh (same ▸ List.mem_map_of_mem member)
        simp only [fresh, others, if_true, List.mem_cons, not_true, false_and, or_false,
          not_false_eq_true, true_and, false_or, Option.some.injEq]
        constructor
        · rintro rfl
          exact ⟨Or.inl rfl, rfl⟩
        · rintro ⟨rfl | member, same⟩
          · rfl
          · exact absurd ⟨member, same⟩ others
      · have notFirst : ¬ (entry = first ∧ entry.id = id) := by
          rintro ⟨rfl, same⟩
          exact own same.symm
        rw [if_neg own, List.mem_cons, List.mem_cons, or_and_right, or_iff_right notFirst,
          not_or, and_iff_right own]

theorem holds_insertAll {entries : List (Entry δ γ kind)}
    (distinct : (entries.map Entry.id).Nodup) :
    (insertAll (∅ : EntryMap δ γ kind) entries).Holds entries := by
  intro id entry
  rw [get?_insertAll distinct, SortedMap.get?_empty]
  simp

theorem ofEntries_eq_ok_iff {map : EntryMap δ γ kind} {entries : List (Entry δ γ kind)} :
    ofEntries table entries = .ok map ↔ Registrable table entries ∧ map = insertAll ∅ entries := by
  rw [ofEntries, registerAll_eq_ok_iff]
  simp [SortedMap.get?_empty]

theorem ofEntries_answered_iff {entries : List (Entry δ γ kind)} :
    Answered (ofEntries table entries) ↔ Registrable table entries := by
  simp [Answered, ofEntries_eq_ok_iff]

theorem holds_of_ofEntries {map : EntryMap δ γ kind} {entries : List (Entry δ γ kind)}
    (registered : ofEntries table entries = .ok map) : map.Holds entries := by
  obtain ⟨registrable, rfl⟩ := ofEntries_eq_ok_iff.mp registered
  exact holds_insertAll registrable.distinct

end EntryMap

end RouteTree
