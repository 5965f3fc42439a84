import RouteTree.Ordered.SortedSet

/-!
# Sorted maps

A finite map is kept as its entries in increasing order of their keys. Adding
an entry under a key that is already bound combines the two values.
-/

namespace RouteTree

variable {κ ν : Type}

/-- The value of the first entry with the given key. -/
def findEntry [DecidableEq κ] (key : κ) : List (κ × ν) → Option ν
  | [] => none
  | (other, bound) :: tail => if other = key then some bound else findEntry key tail

theorem findEntry_isSome_iff [DecidableEq κ] {key : κ} {entries : List (κ × ν)} :
    (findEntry key entries).isSome ↔ key ∈ entries.map Prod.fst := by
  induction entries with
  | nil => simp [findEntry]
  | cons head tail ih =>
      obtain ⟨other, bound⟩ := head
      by_cases same : other = key
      · simp [findEntry, same]
      · simp [findEntry, same, ih, Ne.symm same]

theorem findEntry_eq_none [DecidableEq κ] {key : κ} {entries : List (κ × ν)}
    (absent : key ∉ entries.map Prod.fst) : findEntry key entries = none := by
  rwa [← Option.not_isSome_iff_eq_none, findEntry_isSome_iff]

/-- Entries under the same keys are the same when their lookups agree. -/
theorem entries_eq_of_findEntry [DecidableEq κ] {first second : List (κ × ν)}
    (distinct : (first.map Prod.fst).Nodup)
    (keys : first.map Prod.fst = second.map Prod.fst)
    (same : ∀ key, findEntry key first = findEntry key second) : first = second := by
  induction first generalizing second with
  | nil =>
      cases second with
      | nil => rfl
      | cons head tail => simp at keys
  | cons head tail ih =>
      cases second with
      | nil => simp at keys
      | cons head' tail' =>
          obtain ⟨key, value⟩ := head
          obtain ⟨key', value'⟩ := head'
          simp only [List.map_cons, List.cons.injEq] at keys
          obtain ⟨rfl, keys⟩ := keys
          have fresh := (List.nodup_cons.mp distinct).1
          have value : value = value' := by simpa [findEntry] using same key
          subst value
          refine congrArg _ (ih (List.nodup_cons.mp distinct).2 keys ?_)
          intro wanted
          by_cases hit : key = wanted
          · subst hit
            rw [findEntry_eq_none fresh, findEntry_eq_none (keys ▸ fresh)]
          · simpa [findEntry, hit] using same wanted

variable [Ord κ]

/-- Adds an entry at its place; a value already bound to the key is combined
with the new one, the bound value first. -/
def insertEntry (combine : ν → ν → ν) (key : κ) (value : ν) :
    List (κ × ν) → List (κ × ν)
  | [] => [(key, value)]
  | (other, bound) :: tail =>
      match compare key other with
      | .lt => (key, value) :: (other, bound) :: tail
      | .eq => (other, combine bound value) :: tail
      | .gt => (other, bound) :: insertEntry combine key value tail

theorem map_fst_insertEntry (combine : ν → ν → ν) (key : κ) (value : ν)
    (entries : List (κ × ν)) :
    (insertEntry combine key value entries).map Prod.fst =
      insertSorted key (entries.map Prod.fst) := by
  induction entries with
  | nil => rfl
  | cons head tail ih =>
      obtain ⟨other, bound⟩ := head
      simp only [insertEntry, List.map_cons, insertSorted]
      cases order : compare key other <;> simp [ih]

variable [Std.LawfulEqOrd κ]

/-- A finite map, listed in increasing order of its keys. -/
structure SortedMap (κ ν : Type) [Ord κ] where
  entries : List (κ × ν)
  increasing : StrictlyIncreasing (entries.map Prod.fst)

namespace SortedMap

omit [Std.LawfulEqOrd κ] in
theorem ext_entries {first second : SortedMap κ ν}
    (same : first.entries = second.entries) : first = second := by
  cases first
  cases second
  cases same
  rfl

instance [DecidableEq κ] [DecidableEq ν] : DecidableEq (SortedMap κ ν) :=
  fun first second =>
    decidable_of_iff (first.entries = second.entries)
      ⟨ext_entries, fun same => same ▸ rfl⟩

instance [Repr κ] [Repr ν] : Repr (SortedMap κ ν) where
  reprPrec map precedence := reprPrec map.entries precedence

def empty : SortedMap κ ν := ⟨[], strictlyIncreasing_nil⟩

instance : EmptyCollection (SortedMap κ ν) := ⟨empty⟩

instance : Inhabited (SortedMap κ ν) := ⟨empty⟩

def get? [DecidableEq κ] (map : SortedMap κ ν) (key : κ) : Option ν :=
  findEntry key map.entries

def contains [DecidableEq κ] (map : SortedMap κ ν) (key : κ) : Bool :=
  (map.get? key).isSome

def keys (map : SortedMap κ ν) : List κ := map.entries.map Prod.fst

def size (map : SortedMap κ ν) : Nat := map.entries.length

def isEmpty (map : SortedMap κ ν) : Bool := map.entries.isEmpty

/-- The entries whose key passes a test. -/
def filterKeys (keep : κ → Bool) (map : SortedMap κ ν) : SortedMap κ ν where
  entries := map.entries.filter fun entry => keep entry.1
  increasing := by
    have shorter : ((map.entries.filter fun entry => keep entry.1).map Prod.fst).Sublist
        (map.entries.map Prod.fst) := List.filter_sublist.map Prod.fst
    exact List.Pairwise.sublist shorter map.increasing

variable [Std.TransOrd κ]

/-- Binds a key, combining with the value it already has. -/
def insertWith (combine : ν → ν → ν) (map : SortedMap κ ν) (key : κ) (value : ν) :
    SortedMap κ ν where
  entries := insertEntry combine key value map.entries
  increasing := by
    rw [map_fst_insertEntry]
    exact strictlyIncreasing_insertSorted map.increasing

/-- Binds a key, replacing the value it already has. -/
def insert (map : SortedMap κ ν) (key : κ) (value : ν) : SortedMap κ ν :=
  map.insertWith (fun _ replacement => replacement) key value

/-- The map of a list of entries, where a later entry replaces an earlier one. -/
def ofList (entries : List (κ × ν)) : SortedMap κ ν :=
  entries.foldl (fun map entry => map.insert entry.1 entry.2) ∅

/-! ## Lookup -/

omit [Std.TransOrd κ] in
theorem findEntry_insertEntry [DecidableEq κ] (combine : ν → ν → ν) (key wanted : κ)
    (value : ν) (entries : List (κ × ν))
    (increasing : StrictlyIncreasing (entries.map Prod.fst)) [Std.TransOrd κ] :
    findEntry wanted (insertEntry combine key value entries) =
      if wanted = key then
        some ((findEntry key entries).elim value fun bound => combine bound value)
      else findEntry wanted entries := by
  induction entries with
  | nil =>
      by_cases same : wanted = key
      · simp [insertEntry, findEntry, same]
      · simp [insertEntry, findEntry, same, Ne.symm same]
  | cons head tail ih =>
      obtain ⟨other, bound⟩ := head
      have headSmall := (List.pairwise_cons.mp increasing).1
      have tailIncreasing := (List.pairwise_cons.mp increasing).2
      rw [insertEntry]
      cases order : compare key other with
      | lt =>
          have fresh : findEntry key ((other, bound) :: tail) = none := by
            refine findEntry_eq_none ?_
            intro member
            rcases List.mem_cons.mp member with same | member
            · have reflexive : compare key other = .eq :=
                Std.compare_eq_iff_eq.mpr same
              simp [reflexive] at order
            · have smaller := Std.TransCmp.lt_trans order (headSmall key member)
              simp [Std.ReflCmp.compare_self] at smaller
          rw [fresh]
          by_cases same : wanted = key
          · simp [findEntry, same]
          · rw [findEntry, if_neg (Ne.symm same), if_neg same]
      | eq =>
          have equal : key = other := Std.compare_eq_iff_eq.mp order
          subst equal
          by_cases same : wanted = key
          · simp [findEntry, same]
          · simp [findEntry, same, Ne.symm same]
      | gt =>
          have distinct : other ≠ key := by
            intro equal
            have reflexive : compare key other = .eq :=
              Std.compare_eq_iff_eq.mpr equal.symm
            simp [reflexive] at order
          have rest := ih tailIncreasing
          by_cases same : wanted = key
          · subst same
            simp only [if_true] at rest ⊢
            simp [findEntry, distinct, rest]
          · by_cases hit : other = wanted
            · simp [findEntry, hit, same]
            · simp only [if_neg same] at rest ⊢
              simp [findEntry, hit, rest]

theorem get?_insertWith [DecidableEq κ] (combine : ν → ν → ν) (map : SortedMap κ ν)
    (key wanted : κ) (value : ν) :
    (map.insertWith combine key value).get? wanted =
      if wanted = key then
        some ((map.get? key).elim value fun bound => combine bound value)
      else map.get? wanted :=
  findEntry_insertEntry combine key wanted value map.entries map.increasing

theorem get?_insert [DecidableEq κ] (map : SortedMap κ ν) (key wanted : κ) (value : ν) :
    (map.insert key value).get? wanted = if wanted = key then some value else map.get? wanted := by
  rw [insert, get?_insertWith]
  cases map.get? key <;> rfl

omit [Std.LawfulEqOrd κ] [Std.TransOrd κ] in
theorem get?_empty [DecidableEq κ] (key : κ) : (∅ : SortedMap κ ν).get? key = none := rfl

/-- The lookups of a map determine it. -/
theorem ext_get? [DecidableEq κ] {first second : SortedMap κ ν}
    (same : ∀ key, first.get? key = second.get? key) : first = second := by
  have keys : first.keys = second.keys := by
    refine first.increasing.eq_of_mem_iff second.increasing ?_
    intro key
    have lookup : findEntry key first.entries = findEntry key second.entries := same key
    simp only [SortedMap.keys, ← findEntry_isSome_iff, lookup]
  exact ext_entries (entries_eq_of_findEntry first.increasing.nodup keys same)

/-! ## Order

Maps are compared entry by entry, key before value; a map that runs out first
is the smaller one. -/

section Order

attribute [local instance] lexOrd

variable [Ord ν]

omit [Std.LawfulEqOrd κ] [Std.TransOrd κ] in
instance : Ord (SortedMap κ ν) where
  compare first second := compare first.entries second.entries

omit [Std.LawfulEqOrd κ] in
instance [Std.TransOrd ν] : Std.TransOrd (SortedMap κ ν) :=
  inferInstanceAs <|
    Std.TransCmp fun first second : SortedMap κ ν =>
      compareOn SortedMap.entries first second

omit [Std.TransOrd κ] in
instance [Std.LawfulEqOrd ν] : Std.LawfulEqOrd (SortedMap κ ν) where
  compare_self := Std.ReflCmp.compare_self (α := List (κ × ν))
  eq_of_compare same :=
    ext_entries (Std.LawfulEqCmp.eq_of_compare (α := List (κ × ν)) same)

end Order

end SortedMap

end RouteTree
