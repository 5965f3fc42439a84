import Mathlib.Data.List.Forall2
import Mathlib.Data.List.Induction
import RouteTree.Entry.Registration
import RouteTree.Proofs.Registering

/-!
# Orders of registration

The phases admit exactly the orders in which no kind comes twice and no data
comes after something that is rendered. Whatever the order, the registry ends
up with the entries of every batch under their kinds and routes, so it depends
on what was registered and not on when.
-/

namespace RouteTree

variable {δ γ : Type}

/-! ## Orders of kinds -/

namespace EntryKind

/-- Loaders and actions are data; components and error boundaries are rendered. -/
def isData : EntryKind → Bool
  | .loader => true
  | .action => true
  | .component => false
  | .errorBoundary => false

/-- Entries of the kind can be registered after those of the others. -/
def MayFollow (kind : EntryKind) (earlier : List EntryKind) : Prop :=
  kind ∉ earlier ∧ (kind.isData = true → ∀ other ∈ earlier, other.isData = true)

theorem mayFollow_concat_iff {kind last : EntryKind} {earlier : List EntryKind} :
    kind.MayFollow (earlier ++ [last]) ↔
      kind.MayFollow earlier ∧ kind ≠ last ∧ (kind.isData = true → last.isData = true) := by
  simp only [MayFollow, List.mem_append, List.mem_singleton, not_or, or_imp, forall_and,
    forall_eq]
  tauto

end EntryKind

/-- No kind comes twice, and no data comes after something that is rendered. -/
structure Admissible (kinds : List EntryKind) : Prop where
  distinct : kinds.Nodup
  data_first : kinds.Pairwise fun earlier later => later.isData = true → earlier.isData = true

theorem admissible_nil : Admissible [] :=
  ⟨List.nodup_nil, List.Pairwise.nil⟩

theorem admissible_concat_iff {kinds : List EntryKind} {last : EntryKind} :
    Admissible (kinds ++ [last]) ↔ Admissible kinds ∧ last.MayFollow kinds := by
  constructor
  · rintro ⟨distinct, dataFirst⟩
    obtain ⟨kindsDistinct, _, apart⟩ := List.nodup_append.mp distinct
    obtain ⟨kindsDataFirst, _, follows⟩ := List.pairwise_append.mp dataFirst
    have fresh : last ∉ kinds := fun member => apart last member last List.mem_cons_self rfl
    exact ⟨⟨kindsDistinct, kindsDataFirst⟩, fresh,
      fun data other member => follows other member last List.mem_cons_self data⟩
  · rintro ⟨⟨kindsDistinct, kindsDataFirst⟩, fresh, follows⟩
    constructor
    · apply List.nodup_append.mpr
      refine ⟨kindsDistinct, List.pairwise_singleton _ last, ?_⟩
      intro other member kind kindMember same
      rw [List.mem_singleton.mp kindMember] at same
      exact fresh (same ▸ member)
    · apply List.pairwise_append.mpr
      refine ⟨kindsDataFirst, List.pairwise_singleton _ last, ?_⟩
      intro other member kind kindMember data
      rw [List.mem_singleton.mp kindMember] at data
      exact follows data other member

namespace Phase

theorem offers_start (kind : EntryKind) : start.offers kind = true := by
  cases kind <;> rfl

/-- Registering a kind takes it off the offer, and data with it if it is rendered. -/
theorem offers_after_iff {phase : Phase} {kind other : EntryKind}
    (offered : phase.offers kind = true) :
    (phase.after kind).offers other = true ↔
      phase.offers other = true ∧ other ≠ kind ∧ (other.isData = true → kind.isData = true) := by
  cases phase <;> cases kind <;> cases other <;> simp_all [offers, after, EntryKind.isData]

theorem offers_of_startRendering {phase : Phase} {kind : EntryKind} (data : phase.isData = true)
    (offered : (render false false).offers kind = true) : phase.offers kind = true := by
  cases phase with
  | data loaders actions => cases kind <;> simp_all [offers]
  | render components errorBoundaries => cases data

end Phase

/-! ## Batches -/

/-- The entries that are registered in one step. -/
structure Batch (δ γ : Type) where
  kind : EntryKind
  entries : List (Entry δ γ kind)

/-- Some batch of the kind has the entry. -/
def Registered (batches : List (Batch δ γ)) (kind : EntryKind) (entry : Entry δ γ kind) : Prop :=
  ∃ entries, ⟨kind, entries⟩ ∈ batches ∧ entry ∈ entries

section Registered

variable {batches : List (Batch δ γ)} {kind other : EntryKind}

theorem kind_mem_of_registered {entry : Entry δ γ kind}
    (registered : Registered batches kind entry) : kind ∈ batches.map Batch.kind := by
  obtain ⟨entries, member, _⟩ := registered
  exact List.mem_map_of_mem member

theorem registered_concat_same {entries : List (Entry δ γ kind)} {entry : Entry δ γ kind} :
    Registered (batches ++ [⟨kind, entries⟩]) kind entry ↔
      Registered batches kind entry ∨ entry ∈ entries := by
  simp only [Registered, List.mem_append, List.mem_singleton, Batch.mk.injEq, heq_eq_eq, true_and,
    or_and_right, exists_or, exists_eq_left]

theorem registered_concat_other (different : other ≠ kind) {entries : List (Entry δ γ kind)}
    {entry : Entry δ γ other} :
    Registered (batches ++ [⟨kind, entries⟩]) other entry ↔ Registered batches other entry := by
  simp [Registered, different]

end Registered

/-! ## Runs -/

/-- The registration has come out of the table by registering the batches in order. -/
inductive Run (table : Table) :
    {phase : Phase} → Registration δ γ phase → List (Batch δ γ) → Prop
  | start : Run table (Registration.ofTable table) []
  | add {phase : Phase} {before : Registration δ γ phase} {batches : List (Batch δ γ)}
      {kind : EntryKind} {entries : List (Entry δ γ kind)}
      {after : Registration δ γ (phase.after kind)}
      (offered : phase.offers kind = true) :
      Run table before batches → before.add kind offered entries = .ok after →
        Run table after (batches ++ [⟨kind, entries⟩])
  | render {phase : Phase} {before : Registration δ γ phase} {batches : List (Batch δ γ)}
      (isData : phase.isData = true) :
      Run table before batches → Run table (before.startRendering isData) batches

theorem Registration.add_eq_ok_iff {phase : Phase} {before : Registration δ γ phase}
    {kind : EntryKind} {offered : phase.offers kind = true} {entries : List (Entry δ γ kind)}
    {after : Registration δ γ (phase.after kind)} :
    before.add kind offered entries = .ok after ↔ ∃ map,
      EntryMap.ofEntries before.table entries = .ok map ∧
        after = ⟨before.table, before.registry.put kind map⟩ := by
  rw [add, map_eq_ok_iff]
  simp only [eq_comm]

namespace Run

variable {table : Table} {phase : Phase} {registration : Registration δ γ phase}
  {batches : List (Batch δ γ)}

theorem table_eq (run : Run table registration batches) : registration.table = table := by
  induction run with
  | start => rfl
  | add offered _ added ih =>
      obtain ⟨map, _, rfl⟩ := Registration.add_eq_ok_iff.mp added
      exact ih
  | render isData _ ih => exact ih

/-- A phase offers no kind that would break the order. -/
theorem mayFollow (run : Run table registration batches) {kind : EntryKind}
    (offered : phase.offers kind = true) : kind.MayFollow (batches.map Batch.kind) := by
  induction run with
  | start => simp [EntryKind.MayFollow]
  | add earlierOffered _ _ ih =>
      obtain ⟨stillOffered, different, data⟩ := (Phase.offers_after_iff earlierOffered).mp offered
      rw [List.map_append]
      exact EntryKind.mayFollow_concat_iff.mpr ⟨ih stillOffered, different, data⟩
  | render isData _ ih => exact ih (Phase.offers_of_startRendering isData offered)

theorem admissible (run : Run table registration batches) :
    Admissible (batches.map Batch.kind) := by
  induction run with
  | start => exact admissible_nil
  | add offered earlier _ ih =>
      rw [List.map_append]
      exact admissible_concat_iff.mpr ⟨ih, earlier.mayFollow offered⟩
  | render _ _ ih => exact ih

theorem registrable (run : Run table registration batches) :
    ∀ batch ∈ batches, Registrable table batch.entries := by
  induction run with
  | start => simp
  | add offered earlier added ih =>
      obtain ⟨map, registered, _⟩ := Registration.add_eq_ok_iff.mp added
      rw [earlier.table_eq] at registered
      have last := (EntryMap.ofEntries_eq_ok_iff.mp registered).1
      simp only [List.mem_append, List.mem_singleton, or_imp, forall_and, forall_eq]
      exact ⟨ih, last⟩
  | render _ _ ih => exact ih

/-- The registry holds what has been registered, each entry under its kind and route. -/
theorem get?_eq_some_iff (run : Run table registration batches) {kind : EntryKind} {id : String}
    {entry : Entry δ γ kind} :
    (registration.registry kind).get? id = some entry ↔
      Registered batches kind entry ∧ entry.id = id := by
  induction run with
  | start =>
      have nothing : ¬ Registered [] kind entry := by
        rintro ⟨_, member, _⟩
        cases member
      simp [Registration.ofTable, Registry.empty, SortedMap.get?_empty, nothing]
  | @add _ _ _ added entries _ offered earlier succeeds ih =>
      obtain ⟨map, registered, rfl⟩ := Registration.add_eq_ok_iff.mp succeeds
      by_cases same : added = kind
      · subst same
        -- The kind was still on offer, so the batch replaces no entries.
        have fresh := (earlier.mayFollow offered).1
        have notBefore : ¬ Registered _ added entry := fun before =>
          fresh (kind_mem_of_registered before)
        simp only [Registry.put_same]
        rw [EntryMap.holds_of_ofEntries registered, registered_concat_same,
          or_iff_right notBefore]
      · simp only [Registry.put_other _ map same]
        rw [ih, registered_concat_other (Ne.symm same)]
  | render _ _ ih => exact ih

end Run

section Existence

variable {table : Table} {batches : List (Batch δ γ)}

/-- Every admissible order can be gone through, and then every kind is on offer that
can follow. -/
theorem exists_run_offering (admissible : Admissible (batches.map Batch.kind))
    (registrable : ∀ batch ∈ batches, Registrable table batch.entries) :
    ∃ (phase : Phase) (registration : Registration δ γ phase), Run table registration batches ∧
      ∀ kind, phase.offers kind = true ↔ kind.MayFollow (batches.map Batch.kind) := by
  induction batches using List.reverseRecOn with
  | nil => exact ⟨_, _, .start, fun kind => by simp [Phase.offers_start, EntryKind.MayFollow]⟩
  | append_singleton earlier last ih =>
      obtain ⟨kind, entries⟩ := last
      rw [List.map_append] at admissible ⊢
      obtain ⟨earlierAdmissible, follows⟩ := admissible_concat_iff.mp admissible
      obtain ⟨phase, before, run, offers⟩ := ih earlierAdmissible fun batch member =>
        registrable batch (List.mem_append_left _ member)
      have offered : phase.offers kind = true := (offers kind).mpr follows
      have lastRegistrable : Registrable table entries :=
        registrable ⟨kind, entries⟩ (List.mem_append_right _ List.mem_cons_self)
      obtain ⟨map, registered⟩ := EntryMap.ofEntries_answered_iff.mpr lastRegistrable
      rw [← run.table_eq] at registered
      have added : before.add kind offered entries =
          .ok ⟨before.table, before.registry.put kind map⟩ :=
        Registration.add_eq_ok_iff.mpr ⟨map, registered, rfl⟩
      refine ⟨phase.after kind, _, run.add offered added, ?_⟩
      intro other
      rw [Phase.offers_after_iff offered, offers]
      exact EntryKind.mayFollow_concat_iff.symm

theorem exists_run_iff :
    (∃ (phase : Phase) (registration : Registration δ γ phase), Run table registration batches) ↔
      Admissible (batches.map Batch.kind) ∧ ∀ batch ∈ batches, Registrable table batch.entries := by
  constructor
  · rintro ⟨phase, registration, run⟩
    exact ⟨run.admissible, run.registrable⟩
  · rintro ⟨admissible, registrable⟩
    obtain ⟨phase, registration, run, _⟩ := exists_run_offering admissible registrable
    exact ⟨phase, registration, run⟩

end Existence

/-! ## Rearranging -/

/-- The same batch, with its entries in some order. -/
inductive Batch.Reordered : Batch δ γ → Batch δ γ → Prop
  | perm {kind : EntryKind} {entries others : List (Entry δ γ kind)} :
      entries.Perm others → Reordered ⟨kind, entries⟩ ⟨kind, others⟩

/-- The same batches in some order, each with its entries in some order. -/
def Rearranged (batches others : List (Batch δ γ)) : Prop :=
  ∃ moved, batches.Perm moved ∧ List.Forall₂ Batch.Reordered moved others

/-- Each item of the second list stands for one of the first. -/
theorem exists_mem_of_forall₂ {α β : Type} {relates : α → β → Prop} {items : List α}
    {others : List β} (related : List.Forall₂ relates items others) {other : β}
    (member : other ∈ others) : ∃ item ∈ items, relates item other := by
  induction related with
  | nil => cases member
  | cons first _ ih =>
      rcases List.mem_cons.mp member with rfl | member
      · exact ⟨_, List.mem_cons_self, first⟩
      · obtain ⟨item, itemMember, relates⟩ := ih member
        exact ⟨item, List.mem_cons_of_mem _ itemMember, relates⟩

namespace Rearranged

variable {batches others : List (Batch δ γ)}

theorem exists_original (rearranged : Rearranged batches others) {kind : EntryKind}
    {entries : List (Entry δ γ kind)} (member : ⟨kind, entries⟩ ∈ others) :
    ∃ originals, ⟨kind, originals⟩ ∈ batches ∧ originals.Perm entries := by
  obtain ⟨moved, reordered, related⟩ := rearranged
  obtain ⟨original, originalMember, same⟩ := exists_mem_of_forall₂ related member
  cases same with
  | perm sameEntries => exact ⟨_, reordered.mem_iff.mpr originalMember, sameEntries⟩

theorem exists_copy (rearranged : Rearranged batches others) {kind : EntryKind}
    {entries : List (Entry δ γ kind)} (member : ⟨kind, entries⟩ ∈ batches) :
    ∃ copies, ⟨kind, copies⟩ ∈ others ∧ entries.Perm copies := by
  obtain ⟨moved, reordered, related⟩ := rearranged
  obtain ⟨copy, copyMember, same⟩ :=
    exists_mem_of_forall₂ related.flip (reordered.mem_iff.mp member)
  cases same with
  | perm sameEntries => exact ⟨_, copyMember, sameEntries⟩

theorem registered_iff (rearranged : Rearranged batches others) {kind : EntryKind}
    {entry : Entry δ γ kind} : Registered batches kind entry ↔ Registered others kind entry := by
  constructor
  · rintro ⟨entries, batchMember, member⟩
    obtain ⟨copies, copyMember, reordered⟩ := rearranged.exists_copy batchMember
    exact ⟨copies, copyMember, reordered.mem_iff.mp member⟩
  · rintro ⟨entries, batchMember, member⟩
    obtain ⟨originals, originalMember, reordered⟩ := rearranged.exists_original batchMember
    exact ⟨originals, originalMember, reordered.mem_iff.mpr member⟩

theorem registrable (rearranged : Rearranged batches others) {table : Table}
    (each : ∀ batch ∈ batches, Registrable table batch.entries) :
    ∀ batch ∈ others, Registrable table batch.entries := by
  intro ⟨kind, entries⟩ member
  obtain ⟨originals, originalMember, reordered⟩ := rearranged.exists_original member
  exact (each _ originalMember).perm reordered

end Rearranged

end RouteTree
