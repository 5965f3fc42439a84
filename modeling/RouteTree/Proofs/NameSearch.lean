import Mathlib.Data.Finset.Card
import Mathlib.Data.Finset.Image
import Mathlib.Data.Finset.SDiff
import Mathlib.Order.Bounds.Defs
import RouteTree.Codegen.Naming

/-!
# The search for a free name

A request is tried first, then the request with two, three and so on, until a
candidate is not in use. Nothing in the search bounds it: it ends because each
candidate that is passed over is one of the used names, and the candidates of a
request all differ. So a used name stands in the way once at most.
-/

namespace RouteTree.Codegen

variable {used after : Finset String} {request name stem : String} {passed tried : Nat}

/-! ## Numbers -/

theorem eq_of_numbered_eq {first second : Nat}
    (same : stem ++ toString first = stem ++ toString second) : first = second := by
  have sameText : first.repr = second.repr := (String.append_right_inj stem).mp same
  have sameDigits : Nat.toDigits 10 first = Nat.toDigits 10 second := by
    rw [← Nat.toList_repr, sameText, Nat.toList_repr]
  have readBack := congrArg (Nat.ofDigitChars 10 · 0) sameDigits
  simpa using readBack

theorem isDigit_of_mem_toString {number : Nat} {letter : Char}
    (member : letter ∈ (toString number).toList) : letter.isDigit := by
  rw [Nat.toString_eq_repr, Nat.toList_repr] at member
  exact Nat.isDigit_of_mem_toDigits (by decide) (by decide) member

theorem toString_ne_nil (number : Nat) : (toString number).toList ≠ [] := by
  rw [Nat.toString_eq_repr, Nat.toList_repr]
  exact Nat.toDigits_ne_nil

/-! ## Candidates -/

/-- What the numbers of a request are put after. -/
def stemOf (request : String) : String :=
  if endsInDigit request.toList then request ++ "_" else request

def numbered (request : String) (number : Nat) : String :=
  stemOf request ++ toString number

/-- The candidate that is tried after so many others. -/
def candidate (request : String) : Nat → String
  | 0 => request
  | passed + 1 => numbered request (passed + 2)

theorem length_le_length_stemOf (request : String) : request.length ≤ (stemOf request).length := by
  rw [stemOf]
  by_cases digit : endsInDigit request.toList
  · rw [if_pos digit, String.length_append]
    exact Nat.le_add_right _ _
  · rw [if_neg digit]

theorem numbered_ne (request : String) (number : Nat) : numbered request number ≠ request := by
  have digits : 0 < (toString number).length := by
    rw [← String.length_toList]
    exact List.length_pos_of_ne_nil (toString_ne_nil number)
  have stem := length_le_length_stemOf request
  intro same
  have sameLength := congrArg String.length same
  rw [numbered, String.length_append] at sameLength
  omega

theorem candidate_injective (request : String) : Function.Injective (candidate request) := by
  intro first second same
  cases first with
  | zero =>
      cases second with
      | zero => rfl
      | succ second => exact absurd same.symm (numbered_ne request (second + 2))
  | succ first =>
      cases second with
      | zero => exact absurd same (numbered_ne request (first + 2))
      | succ second =>
          have sameNumber : first + 2 = second + 2 := eq_of_numbered_eq same
          omega

/-- A search that is about to try a candidate, with the number to be put after the
request should the candidate be in use. -/
structure NameSearch where
  used : Finset String
  request : String
  candidate : String
  number : Nat

namespace NameSearch

def start (used : Finset String) (request : String) : NameSearch :=
  ⟨used, request, request, 2⟩

def onwards (search : NameSearch) : NameSearch :=
  { search with
    candidate := numbered search.request search.number
    number := search.number + 1 }

/-- A search ends after it has tried so many candidates, with a name and with the
names that are in use from then on. A search that never ends is in no such relation. -/
inductive Ends : NameSearch → Nat → String → Finset String → Prop
  | free {search : NameSearch} : search.candidate ∉ search.used →
      Ends search 1 search.candidate (insert search.candidate search.used)
  | taken {search : NameSearch} {tried : Nat} {name : String} {after : Finset String} :
      search.candidate ∈ search.used → Ends search.onwards tried name after →
      Ends search (tried + 1) name after

theorem Ends.unique {search : NameSearch} {others : Nat} {other : String}
    {otherAfter : Finset String} (ends : search.Ends tried name after)
    (otherEnds : search.Ends others other otherAfter) :
    tried = others ∧ name = other ∧ after = otherAfter := by
  induction ends generalizing others with
  | free isFree =>
      cases otherEnds with
      | free _ => exact ⟨rfl, rfl, rfl⟩
      | taken isTaken _ => exact absurd isTaken isFree
  | taken isTaken _ ih =>
      cases otherEnds with
      | free isFree => exact absurd isTaken isFree
      | taken _ otherRest =>
          obtain ⟨rfl, rfl, rfl⟩ := ih otherRest
          exact ⟨rfl, rfl, rfl⟩

/-- The search that has passed over so many candidates. -/
def past (used : Finset String) (request : String) (passed : Nat) : NameSearch :=
  ⟨used, request, Codegen.candidate request passed, passed + 2⟩

theorem onwards_past (used : Finset String) (request : String) (passed : Nat) :
    (past used request passed).onwards = past used request (passed + 1) := rfl

/-- A search that ends has passed over used names only, and adds nothing but the name
it ends with. -/
theorem Ends.exists_candidate (ends : (past used request passed).Ends tried name after) :
    ∃ steps, tried = steps + 1 ∧ name = Codegen.candidate request (passed + steps) ∧
      name ∉ used ∧ after = insert name used ∧
      ∀ earlier < steps, Codegen.candidate request (passed + earlier) ∈ used := by
  -- The induction is on the turns of the search, and the search moves on with them.
  generalize same : past used request passed = search at ends
  induction ends generalizing passed with
  | free isFree =>
      subst same
      exact ⟨0, rfl, rfl, isFree, rfl, by simp⟩
  | taken isTaken _ ih =>
      subst same
      obtain ⟨steps, rfl, found, isFree, added, others⟩ :=
        ih (onwards_past used request passed).symm
      have sameStep (count : Nat) : passed + 1 + count = passed + (count + 1) := by omega
      simp only [sameStep] at found others
      refine ⟨steps + 1, rfl, found, isFree, added, ?_⟩
      intro earlier before
      cases earlier with
      | zero => exact isTaken
      | succ earlier => exact others earlier (by omega)

theorem Ends.exists_steps (ends : (start used request).Ends tried name after) :
    ∃ steps, tried = steps + 1 ∧ name = Codegen.candidate request steps ∧ name ∉ used ∧
      after = insert name used ∧
      ∀ earlier < steps, Codegen.candidate request earlier ∈ used := by
  have fromThere : (past used request 0).Ends tried name after := ends
  simpa only [Nat.zero_add] using fromThere.exists_candidate

/-- The used names that have not been passed over yet. -/
def pending (used : Finset String) (request : String) (passed : Nat) : Finset String :=
  used \ (Finset.range passed).image (Codegen.candidate request)

theorem pending_zero (used : Finset String) (request : String) : pending used request 0 = used := by
  rw [pending, Finset.range_zero, Finset.image_empty, Finset.sdiff_empty]

theorem mem_pending (isTaken : Codegen.candidate request passed ∈ used) :
    Codegen.candidate request passed ∈ pending used request passed := by
  rw [pending, Finset.mem_sdiff]
  refine ⟨isTaken, ?_⟩
  intro again
  obtain ⟨earlier, before, same⟩ := Finset.mem_image.mp again
  have sameTurn : earlier = passed := candidate_injective request same
  rw [sameTurn, Finset.mem_range] at before
  exact Nat.lt_irrefl passed before

/-- Each candidate that is passed over leaves one used name less in the way. -/
theorem card_pending_succ (isTaken : Codegen.candidate request passed ∈ used) :
    (pending used request (passed + 1)).card + 1 = (pending used request passed).card := by
  have erased : pending used request (passed + 1) =
      (pending used request passed).erase (Codegen.candidate request passed) := by
    rw [pending, Finset.range_add_one, Finset.image_insert, Finset.sdiff_insert, pending]
  rw [erased, Finset.card_erase_add_one (mem_pending isTaken)]

/-- Given fuel for the used names that are still in the way, the search with fuel finds
the name with which the search without fuel ends. -/
theorem exists_ends_firstFree (taken : List String) (request : String) (fuel passed : Nat)
    (covered : (pending taken.toFinset request (passed + 1)).card ≤ fuel) :
    ∃ tried ≤ (pending taken.toFinset request (passed + 1)).card + 1,
      (past taken.toFinset request (passed + 1)).Ends tried
        (firstFree taken (stemOf request) fuel (passed + 2))
        (insert (firstFree taken (stemOf request) fuel (passed + 2)) taken.toFinset) := by
  induction fuel generalizing passed with
  | zero =>
      -- Nothing is pending, so the candidate that is given unseen is free all the same.
      have isFree : Codegen.candidate request (passed + 1) ∉ taken.toFinset := by
        intro isTaken
        have stillThere := Finset.card_pos.mpr ⟨_, mem_pending isTaken⟩
        omega
      exact ⟨1, by omega, .free isFree⟩
  | succ fuel ih =>
      by_cases isTaken : numbered request (passed + 2) ∈ taken
      · have inUse : Codegen.candidate request (passed + 1) ∈ taken.toFinset :=
          List.mem_toFinset.mpr isTaken
        have fewer := card_pending_succ inUse
        obtain ⟨tried, inTime, ends⟩ := ih (passed + 1) (by omega)
        have unfolded : firstFree taken (stemOf request) (fuel + 1) (passed + 2) =
            firstFree taken (stemOf request) fuel (passed + 1 + 2) := if_pos isTaken
        rw [unfolded]
        exact ⟨tried + 1, by omega, .taken inUse ends⟩
      · have isFree : Codegen.candidate request (passed + 1) ∉ taken.toFinset :=
          fun inUse => isTaken (List.mem_toFinset.mp inUse)
        have unfolded : firstFree taken (stemOf request) (fuel + 1) (passed + 2) =
            numbered request (passed + 2) := if_neg isTaken
        rw [unfolded]
        exact ⟨1, by omega, .free isFree⟩

/-- Every search ends, at the latest with one candidate more than there are used names. -/
theorem exists_ends_freeName (taken : List String) (request : String) :
    ∃ tried ≤ taken.toFinset.card + 1,
      (start taken.toFinset request).Ends tried (freeName taken request)
        (insert (freeName taken request) taken.toFinset) := by
  by_cases isTaken : request ∈ taken
  · have inUse : Codegen.candidate request 0 ∈ taken.toFinset := List.mem_toFinset.mpr isTaken
    have fewer := card_pending_succ inUse
    rw [pending_zero] at fewer
    have enough : taken.toFinset.card ≤ taken.length := List.toFinset_card_le taken
    obtain ⟨tried, inTime, ends⟩ :=
      exists_ends_firstFree taken request taken.length 0 (by omega)
    have unfolded : freeName taken request =
        firstFree taken (stemOf request) taken.length 2 := if_pos isTaken
    rw [unfolded]
    exact ⟨tried + 1, by omega, .taken inUse ends⟩
  · have isFree : request ∉ taken.toFinset := fun inUse => isTaken (List.mem_toFinset.mp inUse)
    have unfolded : freeName taken request = request := if_neg isTaken
    rw [unfolded]
    exact ⟨1, by omega, .free isFree⟩

end NameSearch

end RouteTree.Codegen
