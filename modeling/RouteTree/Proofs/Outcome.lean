import RouteTree.Ordered.SortedSet
import RouteTree.RouteError

/-!
# Outcomes of searches

A search over a tree of routes either fails or lists what it found. `Yields`
says that a search succeeds and finds exactly what a predicate describes; it
is closed under the ways in which the searches of this library are composed.
-/

namespace RouteTree

variable {α β : Type}

theorem exists_eq_ok_iff {outcome : Except RouteError α} {result : α}
    (succeeds : outcome = .ok result) {holds : α → Prop} :
    (∃ other, outcome = .ok other ∧ holds other) ↔ holds result := by
  simp [succeeds]

/-- Two searches that succeed with the same members have the same outcome. -/
theorem eq_of_same_members [Ord α] [Std.TransOrd α] [Std.LawfulEqOrd α]
    {search other : Except RouteError (SortedSet α)} {wanted otherWanted : α → Prop}
    (finds : ∃ found, search = .ok found ∧ ∀ item, item ∈ found ↔ wanted item)
    (otherFinds : ∃ found, other = .ok found ∧ ∀ item, item ∈ found ↔ otherWanted item)
    (same : ∀ item, wanted item ↔ otherWanted item) : search = other := by
  obtain ⟨found, rfl, members⟩ := finds
  obtain ⟨otherFound, rfl, otherMembers⟩ := otherFinds
  have sameFound : found = otherFound := by
    apply SortedSet.ext_mem
    intro item
    rw [members, otherMembers, same]
  rw [sameFound]

theorem mapM_eq_ok_map {steps : α → Except RouteError β} {result : α → β} {items : List α}
    (each : ∀ item ∈ items, steps item = .ok (result item)) :
    items.mapM steps = .ok (items.map result) := by
  induction items with
  | nil => rfl
  | cons first rest ih =>
      rw [List.mapM_cons, each first List.mem_cons_self,
        ih fun item member => each item (List.mem_cons_of_mem first member)]
      rfl

theorem map_eq_ok_iff {outcome : Except RouteError α} {change : α → β} {result : β} :
    outcome.map change = .ok result ↔ ∃ item, outcome = .ok item ∧ change item = result := by
  cases outcome with
  | error failure => simp [Except.map]
  | ok item => simp [Except.map]

theorem map_eq_error_iff {outcome : Except RouteError α} {change : α → β} {error : RouteError} :
    outcome.map change = .error error ↔ outcome = .error error := by
  cases outcome with
  | error failure => simp [Except.map]
  | ok item => simp [Except.map]

/-- The query has an answer. -/
def Answered (query : Except RouteError α) : Prop :=
  ∃ answer, query = .ok answer

theorem exists_mapM_eq_ok {steps : α → Except RouteError β} {items : List α}
    (each : ∀ item ∈ items, Answered (steps item)) :
    ∃ results, items.mapM steps = .ok results ∧
      ∀ result ∈ results, ∃ item ∈ items, steps item = .ok result := by
  induction items with
  | nil => exact ⟨[], rfl, by simp⟩
  | cons first rest ih =>
      obtain ⟨result, succeeds⟩ := each first List.mem_cons_self
      obtain ⟨results, restSucceeds, origins⟩ :=
        ih fun item member => each item (List.mem_cons_of_mem first member)
      refine ⟨result :: results, ?_, ?_⟩
      · rw [List.mapM_cons, succeeds, restSucceeds]
        rfl
      · intro other member
        rcases List.mem_cons.mp member with rfl | member
        · exact ⟨first, List.mem_cons_self, succeeds⟩
        · obtain ⟨item, itemMember, itemSucceeds⟩ := origins other member
          exact ⟨item, List.mem_cons_of_mem first itemMember, itemSucceeds⟩

/-- A fold fails exactly at the first item at which its step fails. -/
theorem foldlM_eq_error_iff {step : β → α → Except RouteError β} {items : List α} {start : β}
    {error : RouteError} :
    items.foldlM step start = .error error ↔
      ∃ before item after state, items = before ++ item :: after ∧
        before.foldlM step start = .ok state ∧ step state item = .error error := by
  induction items generalizing start with
  | nil => simp [pure, Except.pure]
  | cons first rest ih =>
      rw [List.foldlM_cons]
      cases firstStep : step start first with
      | error failure =>
          constructor
          · intro failed
            cases failed
            exact ⟨[], first, rest, start, rfl, rfl, firstStep⟩
          · rintro ⟨before, item, after, state, split, reached, failed⟩
            cases before with
            | nil =>
                cases split
                cases reached
                rw [firstStep] at failed
                exact failed
            | cons head others =>
                cases split
                rw [List.foldlM_cons, firstStep] at reached
                cases reached
      | ok next =>
          constructor
          · intro failed
            obtain ⟨before, item, after, state, rfl, reached, itemFailed⟩ := ih.mp failed
            refine ⟨first :: before, item, after, state, rfl, ?_, itemFailed⟩
            rw [List.foldlM_cons, firstStep]
            exact reached
          · rintro ⟨before, item, after, state, split, reached, failed⟩
            cases before with
            | nil =>
                cases split
                cases reached
                rw [firstStep] at failed
                cases failed
            | cons head others =>
                cases split
                rw [List.foldlM_cons, firstStep] at reached
                exact ih.mpr ⟨others, item, after, state, rfl, reached, failed⟩

/-- Checking items in order succeeds exactly if every check does. -/
theorem foldlM_check_eq_ok_iff {check : α → Except RouteError Unit} {items : List α} :
    items.foldlM (fun _ item => check item) () = .ok () ↔
      ∀ item ∈ items, check item = .ok () := by
  induction items with
  | nil => simp [pure, Except.pure]
  | cons first rest ih =>
      rw [List.foldlM_cons, List.forall_mem_cons, ← ih]
      cases firstCheck : check first with
      | error failure => simp [bind, Except.bind]
      | ok passed => simp [bind, Except.bind]

/-- A search succeeds, and the items that it lists are those with a property. -/
def Yields (search : Except RouteError (List β)) (wanted : β → Prop) : Prop :=
  ∃ found, search = .ok found ∧ ∀ item, item ∈ found ↔ wanted item

namespace Yields

variable {search : Except RouteError (List β)} {wanted other : β → Prop}

theorem of_list (found : List β) :
    Yields (.ok found) (· ∈ found) :=
  ⟨found, rfl, fun _ => Iff.rfl⟩

theorem congr (yields : Yields search wanted)
    (same : ∀ item, wanted item ↔ other item) : Yields search other := by
  obtain ⟨found, succeeds, members⟩ := yields
  exact ⟨found, succeeds, fun item => (members item).trans (same item)⟩

theorem append (yields : Yields search wanted) (first : List β) :
    Yields (search.map (first ++ ·)) fun item => item ∈ first ∨ wanted item := by
  obtain ⟨found, rfl, members⟩ := yields
  refine ⟨first ++ found, rfl, ?_⟩
  intro item
  rw [List.mem_append, members]

theorem exists_mem_iff (yields : Yields search wanted) {item : β} :
    (∃ found, search = .ok found ∧ item ∈ found) ↔ wanted item := by
  obtain ⟨found, succeeds, members⟩ := yields
  rw [exists_eq_ok_iff succeeds, members]

/-- Searching from every item in turn finds what one of the searches finds. -/
theorem flatten_mapM {search : α → Except RouteError (List β)} (wanted : α → β → Prop) :
    ∀ {items : List α}, (∀ item ∈ items, Yields (search item) (wanted item)) →
      Yields ((items.mapM search).map List.flatten) fun result =>
        ∃ item ∈ items, wanted item result
  | [], _ => ⟨[], rfl, by simp⟩
  | first :: rest, each => by
      obtain ⟨found, succeeds, members⟩ := each first List.mem_cons_self
      obtain ⟨others, restSucceeds, restMembers⟩ :=
        flatten_mapM wanted fun item member => each item (List.mem_cons_of_mem first member)
      refine ⟨found ++ others, ?_, ?_⟩
      · rw [List.mapM_cons, succeeds]
        cases results : rest.mapM search with
        | error failure =>
            rw [results] at restSucceeds
            cases restSucceeds
        | ok results' =>
            rw [results] at restSucceeds
            cases restSucceeds
            rfl
      · intro result
        simp [members, restMembers]

variable [Ord β] [Std.TransOrd β] [Std.LawfulEqOrd β]

theorem toSet (yields : Yields search wanted) :
    ∃ found, search.map SortedSet.ofList = .ok found ∧
      ∀ item, item ∈ found ↔ wanted item := by
  obtain ⟨found, rfl, members⟩ := yields
  refine ⟨SortedSet.ofList found, rfl, ?_⟩
  intro item
  rw [SortedSet.mem_ofList, members]

end Yields

end RouteTree
