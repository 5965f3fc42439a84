import Mathlib.Data.List.Nodup
import RouteTree.Proofs.NameSearch

/-!
# Free names

A name that is taken gets a number. The search for the number ends at a free name
over whatever names are in use, and a list of requests gets distinct names, also
where a request looks like the numbered name of another.
-/

namespace RouteTree.Codegen

variable {taken requests : List String} {name request : String} {after : Finset String}

/-! ## Requests -/

theorem freeName_not_mem : freeName taken name ∉ taken := by
  obtain ⟨_, _, ends⟩ := NameSearch.exists_ends_freeName taken name
  obtain ⟨_, _, _, isFree, _⟩ := ends.exists_steps
  intro isTaken
  exact isFree (List.mem_toFinset.mpr isTaken)

/-- A request is granted as it is or with a number, after an underscore where two
numbers would run together. -/
theorem freeName_cases (taken : List String) (name : String) :
    freeName taken name = name ∨
      ∃ number : Nat, freeName taken name =
        (if endsInDigit name.toList then name ++ "_" else name) ++ toString number := by
  obtain ⟨_, _, ends⟩ := NameSearch.exists_ends_freeName taken name
  obtain ⟨steps, _, found, _⟩ := ends.exists_steps
  cases steps with
  | zero => exact Or.inl found
  | succ steps => exact Or.inr ⟨steps + 2, found⟩

theorem length_freeNames (taken requests : List String) :
    (freeNames taken requests).length = requests.length := by
  induction requests generalizing taken with
  | nil => rfl
  | cons request rest ih => rw [freeNames, List.length_cons, List.length_cons, ih]

theorem exists_request_of_mem_freeNames (granted : name ∈ freeNames taken requests) :
    ∃ request ∈ requests, ∃ others, name = freeName others request := by
  induction requests generalizing taken with
  | nil => cases granted
  | cons request rest ih =>
      rw [freeNames] at granted
      rcases List.mem_cons.mp granted with rfl | granted
      · exact ⟨request, List.mem_cons_self, taken, rfl⟩
      · obtain ⟨later, member, others, same⟩ := ih granted
        exact ⟨later, List.mem_cons_of_mem request member, others, same⟩

/-- A requested name is there unless it was taken before. -/
theorem mem_taken_or_mem_freeNames {taken : List String} (requested : request ∈ requests) :
    request ∈ taken ∨ request ∈ freeNames taken requests := by
  induction requests generalizing taken with
  | nil => cases requested
  | cons first rest ih =>
      rw [freeNames]
      by_cases isTaken : request ∈ taken
      · exact Or.inl isTaken
      · apply Or.inr
        rcases List.mem_cons.mp requested with rfl | requested
        · have granted : freeName taken request = request := by
            rw [freeName, if_neg isTaken]
          rw [granted]
          exact List.mem_cons_self
        · rcases ih requested with inTaken | later
          · rcases List.mem_cons.mp inTaken with same | inTaken
            · exact List.mem_cons.mpr (Or.inl same)
            · exact absurd inTaken isTaken
          · exact List.mem_cons_of_mem _ later

theorem not_mem_of_mem_freeNames (granted : name ∈ freeNames taken requests) : name ∉ taken := by
  induction requests generalizing taken with
  | nil => cases granted
  | cons request rest ih =>
      rw [freeNames] at granted
      rcases List.mem_cons.mp granted with rfl | granted
      · exact freeName_not_mem
      · intro isTaken
        exact ih granted (List.mem_cons_of_mem _ isTaken)

theorem nodup_freeNames (taken requests : List String) : (freeNames taken requests).Nodup := by
  induction requests generalizing taken with
  | nil => exact List.nodup_nil
  | cons request rest ih =>
      rw [freeNames]
      apply List.nodup_cons.mpr
      refine ⟨?_, ih _⟩
      intro again
      exact not_mem_of_mem_freeNames again List.mem_cons_self

/-! ## Requests in a row -/

/-- The third request looks like the name of the second. -/
example : freeNames [] ["Id", "Id", "Id2", "R1", "R1"] = ["Id", "Id2", "Id2_2", "R1", "R1_2"] := by
  decide

end RouteTree.Codegen
