/-!
# Sorted sets

A finite set is kept as the list of its members in increasing order, so two
sets with the same members are the same value and a set is always listed in
one way.
-/

namespace RouteTree

variable {α : Type} [Ord α]

/-- `StrictlyIncreasing items` says that every item stands before all larger
ones and no item is repeated. -/
def StrictlyIncreasing (items : List α) : Prop :=
  items.Pairwise fun left right => compare left right = .lt

theorem strictlyIncreasing_nil : StrictlyIncreasing ([] : List α) :=
  List.Pairwise.nil

/-- Adds an item at its place, unless it is there already. -/
def insertSorted (item : α) : List α → List α
  | [] => [item]
  | head :: tail =>
      match compare item head with
      | .lt => item :: head :: tail
      | .eq => head :: tail
      | .gt => head :: insertSorted item tail

/-- Merges a list in increasing order into another one that starts with the
given head; `mergeTail` merges it into the tail. -/
def mergeAhead (head : α) (tail : List α) (mergeTail : List α → List α) :
    List α → List α
  | [] => head :: tail
  | other :: rest =>
      match compare head other with
      | .lt => head :: mergeTail (other :: rest)
      | .eq => head :: mergeTail rest
      | .gt => other :: mergeAhead head tail mergeTail rest

/-- Merges two lists in increasing order; what is in both is kept once. -/
def mergeSorted : List α → List α → List α
  | [] => id
  | head :: tail => mergeAhead head tail (mergeSorted tail)

variable [Std.TransOrd α] [Std.LawfulEqOrd α]

omit [Std.TransOrd α] in
@[simp]
theorem mem_insertSorted {item other : α} {items : List α} :
    other ∈ insertSorted item items ↔ other = item ∨ other ∈ items := by
  induction items with
  | nil => simp [insertSorted]
  | cons head tail ih =>
      rw [insertSorted]
      cases order : compare item head with
      | lt => simp
      | eq =>
          have same : item = head := Std.compare_eq_iff_eq.mp order
          simp [same]
      | gt =>
          simp only [List.mem_cons, ih]
          exact or_left_comm

theorem strictlyIncreasing_insertSorted {item : α} {items : List α}
    (increasing : StrictlyIncreasing items) :
    StrictlyIncreasing (insertSorted item items) := by
  induction items with
  | nil => simp [StrictlyIncreasing, insertSorted]
  | cons head tail ih =>
      have headSmall := (List.pairwise_cons.mp increasing).1
      have tailIncreasing := (List.pairwise_cons.mp increasing).2
      rw [insertSorted]
      cases order : compare item head with
      | lt =>
          refine List.pairwise_cons.mpr ⟨?_, increasing⟩
          intro other member
          rcases List.mem_cons.mp member with rfl | member
          · exact order
          · exact Std.TransCmp.lt_trans order (headSmall other member)
      | eq => exact increasing
      | gt =>
          refine List.pairwise_cons.mpr ⟨?_, ih tailIncreasing⟩
          intro other member
          rcases mem_insertSorted.mp member with rfl | member
          · exact Std.OrientedCmp.gt_iff_lt.mp order
          · exact headSmall other member

omit [Std.TransOrd α] in
@[simp]
theorem mem_mergeSorted {item : α} {first second : List α} :
    item ∈ mergeSorted first second ↔ item ∈ first ∨ item ∈ second := by
  induction first generalizing second with
  | nil => simp [mergeSorted]
  | cons head tail outer =>
      rw [mergeSorted]
      induction second with
      | nil => simp [mergeAhead]
      | cons other rest inner =>
          rw [mergeAhead]
          cases order : compare head other with
          | lt => simp [outer, or_assoc]
          | eq =>
              have same : head = other := Std.compare_eq_iff_eq.mp order
              simp only [List.mem_cons, outer, same]
              exact ⟨fun h => by rcases h with h | h | h <;> simp [h],
                fun h => by rcases h with (h | h) | h | h <;> simp [h]⟩
          | gt =>
              simp only [List.mem_cons, inner]
              exact or_left_comm

theorem strictlyIncreasing_mergeSorted {first second : List α}
    (firstIncreasing : StrictlyIncreasing first)
    (secondIncreasing : StrictlyIncreasing second) :
    StrictlyIncreasing (mergeSorted first second) := by
  induction first generalizing second with
  | nil => exact secondIncreasing
  | cons head tail outer =>
      have headSmall := (List.pairwise_cons.mp firstIncreasing).1
      have tailIncreasing := (List.pairwise_cons.mp firstIncreasing).2
      rw [mergeSorted]
      induction second with
      | nil => exact firstIncreasing
      | cons other rest inner =>
          have otherSmall := (List.pairwise_cons.mp secondIncreasing).1
          have restIncreasing := (List.pairwise_cons.mp secondIncreasing).2
          rw [mergeAhead]
          cases order : compare head other with
          | lt =>
              refine List.pairwise_cons.mpr ⟨?_, outer tailIncreasing secondIncreasing⟩
              intro item member
              rcases mem_mergeSorted.mp member with member | member
              · exact headSmall item member
              · rcases List.mem_cons.mp member with rfl | member
                · exact order
                · exact Std.TransCmp.lt_trans order (otherSmall item member)
          | eq =>
              have same : head = other := Std.compare_eq_iff_eq.mp order
              refine List.pairwise_cons.mpr ⟨?_, outer tailIncreasing restIncreasing⟩
              intro item member
              rcases mem_mergeSorted.mp member with member | member
              · exact headSmall item member
              · exact same ▸ otherSmall item member
          | gt =>
              have before : compare other head = .lt := Std.OrientedCmp.gt_iff_lt.mp order
              refine List.pairwise_cons.mpr ⟨?_, inner restIncreasing⟩
              intro item member
              have member : item ∈ mergeSorted (head :: tail) rest := member
              rcases mem_mergeSorted.mp member with member | member
              · rcases List.mem_cons.mp member with rfl | member
                · exact before
                · exact Std.TransCmp.lt_trans before (headSmall item member)
              · exact otherSmall item member

namespace StrictlyIncreasing

omit [Std.TransOrd α] in
theorem nodup {items : List α} (increasing : StrictlyIncreasing items) : items.Nodup := by
  refine List.Pairwise.imp ?_ increasing
  intro left right before same
  have reflexive : compare left right = .eq := Std.compare_eq_iff_eq.mpr same
  simp [reflexive] at before

/-- The members of a set determine the list. -/
theorem eq_of_mem_iff {first second : List α} (firstIncreasing : StrictlyIncreasing first)
    (secondIncreasing : StrictlyIncreasing second)
    (same : ∀ item, item ∈ first ↔ item ∈ second) : first = second := by
  have perm : first.Perm second :=
    (List.perm_ext_iff_of_nodup firstIncreasing.nodup secondIncreasing.nodup).mpr same
  refine List.Perm.eq_of_pairwise ?_ firstIncreasing secondIncreasing perm
  intro left right _ _ before after
  exact absurd after (Std.OrientedCmp.not_lt_of_lt before)

end StrictlyIncreasing

/-- A finite set, listed in increasing order. -/
structure SortedSet (α : Type) [Ord α] where
  toList : List α
  increasing : StrictlyIncreasing toList

namespace SortedSet

omit [Std.TransOrd α] [Std.LawfulEqOrd α] in
theorem ext_toList {first second : SortedSet α}
    (same : first.toList = second.toList) : first = second := by
  cases first
  cases second
  cases same
  rfl

instance [DecidableEq α] : DecidableEq (SortedSet α) := fun first second =>
  decidable_of_iff (first.toList = second.toList)
    ⟨ext_toList, fun same => same ▸ rfl⟩

instance [Repr α] : Repr (SortedSet α) where
  reprPrec set precedence := reprPrec set.toList precedence

instance : Membership α (SortedSet α) where
  mem set item := item ∈ set.toList

instance [DecidableEq α] (item : α) (set : SortedSet α) : Decidable (item ∈ set) :=
  inferInstanceAs (Decidable (item ∈ set.toList))

def empty : SortedSet α := ⟨[], strictlyIncreasing_nil⟩

instance : EmptyCollection (SortedSet α) := ⟨empty⟩

instance : Inhabited (SortedSet α) := ⟨empty⟩

def insert (set : SortedSet α) (item : α) : SortedSet α :=
  ⟨insertSorted item set.toList, strictlyIncreasing_insertSorted set.increasing⟩

def insertMany (set : SortedSet α) (items : List α) : SortedSet α :=
  items.foldl insert set

def union (first second : SortedSet α) : SortedSet α :=
  ⟨mergeSorted first.toList second.toList,
    strictlyIncreasing_mergeSorted first.increasing second.increasing⟩

instance : Union (SortedSet α) := ⟨union⟩

/-- The set of a list, united from the sets of its halves; the fuel bounds how
often the list is halved. -/
def ofHalves : Nat → List α → SortedSet α
  | 0, items => insertMany ∅ items
  | fuel + 1, items =>
      if items.length ≤ 1 then insertMany ∅ items
      else
        ofHalves fuel (items.take (items.length / 2)) ∪
          ofHalves fuel (items.drop (items.length / 2))

def ofList (items : List α) : SortedSet α :=
  ofHalves items.length items

def size (set : SortedSet α) : Nat := set.toList.length

def isEmpty (set : SortedSet α) : Bool := set.toList.isEmpty

/-! ## Membership -/

omit [Std.TransOrd α] [Std.LawfulEqOrd α] in
@[simp]
theorem mem_toList {item : α} {set : SortedSet α} : item ∈ set.toList ↔ item ∈ set :=
  Iff.rfl

omit [Std.TransOrd α] [Std.LawfulEqOrd α] in
@[simp]
theorem not_mem_empty (item : α) : ¬ item ∈ (∅ : SortedSet α) :=
  List.not_mem_nil

theorem ext_mem {first second : SortedSet α}
    (same : ∀ item, item ∈ first ↔ item ∈ second) : first = second :=
  ext_toList (first.increasing.eq_of_mem_iff second.increasing same)

@[simp]
theorem mem_insert {item other : α} {set : SortedSet α} :
    other ∈ set.insert item ↔ other = item ∨ other ∈ set :=
  mem_insertSorted

@[simp]
theorem mem_insertMany {item : α} {items : List α} {set : SortedSet α} :
    item ∈ set.insertMany items ↔ item ∈ set ∨ item ∈ items := by
  induction items generalizing set with
  | nil => simp [insertMany]
  | cons head tail ih =>
      have step : set.insertMany (head :: tail) = (set.insert head).insertMany tail := rfl
      rw [step, ih, mem_insert, List.mem_cons]
      exact ⟨fun h => by rcases h with (h | h) | h <;> simp [h],
        fun h => by rcases h with h | h | h <;> simp [h]⟩

@[simp]
theorem mem_union {item : α} {first second : SortedSet α} :
    item ∈ first ∪ second ↔ item ∈ first ∨ item ∈ second :=
  mem_mergeSorted

theorem mem_ofHalves {item : α} {fuel : Nat} {items : List α} :
    item ∈ ofHalves fuel items ↔ item ∈ items := by
  induction fuel generalizing items with
  | zero => simp [ofHalves]
  | succ fuel ih =>
      rw [ofHalves]
      split
      · simp
      · rw [mem_union, ih, ih, ← List.mem_append, List.take_append_drop]

@[simp]
theorem mem_ofList {item : α} {items : List α} : item ∈ ofList items ↔ item ∈ items :=
  mem_ofHalves

end SortedSet

end RouteTree
