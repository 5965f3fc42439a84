import RouteTree.Proofs.Climbing
import RouteTree.Proofs.Representation

/-!
# Hops one at a time

A walk towards the root gives one hop for each call and is then ready for the next.
What the next call gives depends on two things that advance at different rates: the
place reached, which moves with every link to a parent, and the text of the hop, which
grows only where a path is met. Followed link by link every call comes to an end,
because the links of an accepted tree lead up a chain.
-/

namespace RouteTree

/-! ## Calls -/

namespace Hops

/-- What is left of a walk after a number of calls. -/
def after : Nat → Hops → Hops
  | 0, hops => hops
  | calls + 1, hops => after calls hops.next.2

theorem step_along (taken : Nat) (ahead : List Record) :
    (step taken ahead).1 = (along taken ahead).head? ∧
      (step taken ahead).2.toList = (along taken ahead).tail := by
  induction ahead with
  | nil => exact ⟨rfl, rfl⟩
  | cons record rest ih =>
      rw [step, along]
      by_cases present : record.path.isSome
      · rw [if_pos present, if_pos present]
        exact ⟨rfl, rfl⟩
      · rw [if_neg present, if_neg present]
        exact ih

theorem toList_after (calls : Nat) (hops : Hops) :
    (hops.after calls).toList = hops.toList.drop calls := by
  induction calls generalizing hops with
  | zero => rfl
  | succ calls ih =>
      have stepped : hops.next.2.toList = hops.toList.tail :=
        (step_along hops.taken hops.ahead).2
      rw [after, ih, stepped, List.drop_tail]

/-- Each call gives the next of the hops that were left at the start. -/
theorem next_after (calls : Nat) (hops : Hops) :
    (hops.after calls).next.1 = hops.toList[calls]? := by
  have answer : (hops.after calls).next.1 = (hops.after calls).toList.head? :=
    (step_along _ _).1
  rw [answer, toList_after, List.head?_drop]

theorem length_step_le (taken : Nat) (ahead : List Record) :
    (step taken ahead).2.ahead.length ≤ ahead.length := by
  induction ahead with
  | nil => exact Nat.le_refl 0
  | cons record rest ih =>
      rw [step, List.length_cons]
      by_cases present : record.path.isSome
      · rw [if_pos present]
        exact Nat.le_succ rest.length
      · rw [if_neg present]
        exact Nat.le_succ_of_le ih

theorem length_after_le (calls : Nat) (hops : Hops) :
    (hops.after calls).ahead.length ≤ hops.ahead.length := by
  induction calls generalizing hops with
  | zero => exact Nat.le_refl _
  | succ calls ih => exact Nat.le_trans (ih _) (length_step_le hops.taken hops.ahead)

/-- Once a call has given nothing, no later call gives anything. -/
theorem next_after_add {calls : Nat} {hops : Hops} (ended : (hops.after calls).next.1 = none)
    (more : Nat) : (hops.after (calls + more)).next.1 = none := by
  rw [next_after] at ended ⊢
  exact List.getElem?_eq_none
    (Nat.le_trans (List.getElem?_eq_none_iff.mp ended) (Nat.le_add_right calls more))

theorem start_of_descends {forest above : List Node} {node : Node} {records : Records}
    (flattened : flatten forest = .ok records) (inside : Descends forest (above ++ [node])) :
    start records node.id = ⟨(recordsAlong none above).reverse, 0⟩ := by
  rw [start, ancestors_of_descends flattened inside]

end Hops

/-! ## Links -/

theorem climb_succ_succ (hops : Nat) : climb (hops + 2) = "../" ++ climb (hops + 1) := by
  have further : List.replicate (hops + 1) ".." ≠ [] := by simp
  have lead : ".." ++ "/" = "../" := by decide
  rw [climb, List.replicate_succ, Text.joinWithSlashes, String.intercalate_cons_of_ne_nil further,
    lead]
  rfl

/-- A walk that follows the links to the parents: the record it stands on, if there is
one, and the text of the hop that comes next. -/
structure LinkWalk where
  current : Option Record
  lead : String

namespace LinkWalk

def start (records : Records) (id : String) : LinkWalk where
  current := records.get? id
  lead := ".."

/-- What comes of following one link. -/
inductive Turn where
  /-- The call is over. -/
  | ended (answer : Option (String × Record)) (walk : LinkWalk)
  /-- The parent has no path, so one more link is followed. -/
  | onwards (walk : LinkWalk)

def turn (records : Records) (walk : LinkWalk) : Turn :=
  match walk.current with
  | none => .ended none walk
  | some record =>
      match record.parentId.bind records.get? with
      | none => .ended none { walk with current := none }
      | some parent =>
          if parent.path.isSome then
            .ended (some (walk.lead, parent)) ⟨some parent, "../" ++ walk.lead⟩
          else .onwards { walk with current := some parent }

/-- A call ends after so many turns with an answer and leaves a walk. -/
inductive Call (records : Records) :
    LinkWalk → Nat → Option (String × Record) → LinkWalk → Prop
  | ended {walk rest : LinkWalk} {answer : Option (String × Record)} :
      walk.turn records = .ended answer rest → Call records walk 1 answer rest
  | onwards {walk further rest : LinkWalk} {turns : Nat} {answer : Option (String × Record)} :
      walk.turn records = .onwards further → Call records further turns answer rest →
      Call records walk (turns + 1) answer rest

/-- A number of calls, whatever they answer, lead from one walk to another. -/
inductive Calls (records : Records) : Nat → LinkWalk → LinkWalk → Prop
  | none {walk : LinkWalk} : Calls records 0 walk walk
  | more {calls turns : Nat} {walk further rest : LinkWalk} {answer : Option (String × Record)} :
      Call records walk turns answer further → Calls records calls further rest →
      Calls records (calls + 1) walk rest

theorem Call.unique {records : Records} {walk rest other : LinkWalk} {turns others : Nat}
    {answer otherAnswer : Option (String × Record)} (call : Call records walk turns answer rest)
    (otherCall : Call records walk others otherAnswer other) :
    answer = otherAnswer ∧ rest = other := by
  induction call generalizing others with
  | ended ends =>
      cases otherCall with
      | ended otherEnds =>
          rw [ends] at otherEnds
          cases otherEnds
          exact ⟨rfl, rfl⟩
      | onwards goesOn _ =>
          rw [ends] at goesOn
          cases goesOn
  | onwards goesOn _ ih =>
      cases otherCall with
      | ended otherEnds =>
          rw [goesOn] at otherEnds
          cases otherEnds
      | onwards otherGoesOn otherRest =>
          rw [goesOn] at otherGoesOn
          cases otherGoesOn
          exact ih otherRest

/-- The links lead from the record along the given ones and no further. -/
def LeadsUp (records : Records) : Record → List Record → Prop
  | record, [] => record.parentId.bind records.get? = none
  | record, parent :: ahead =>
      record.parentId.bind records.get? = some parent ∧ LeadsUp records parent ahead

theorem leadsUp_of_descends {forest above : List Node} {node : Node} {records : Records}
    (flattened : flatten forest = .ok records) (inside : Descends forest (above ++ [node])) :
    LeadsUp records (node.record (lastId none above)) (recordsAlong none above).reverse := by
  induction above using List.reverseRecOn generalizing node with
  | nil => rfl
  | append_singleton up parent ih =>
      have parentInside : Descends forest (up ++ [parent]) := (descends_append_iff.mp inside).1
      rw [recordsAlong_concat, List.reverse_append, List.reverse_singleton, List.singleton_append]
      refine ⟨?_, ih parentInside⟩
      rw [Node.record_parentId, lastId_concat]
      exact get?_of_descends flattened parentInside

/-- The walk by links is where the other walk is. -/
inductive Follows (records : Records) : LinkWalk → Hops → Prop
  | nowhere {taken : Nat} : Follows records ⟨none, climb (taken + 1)⟩ ⟨[], taken⟩
  | standing {record : Record} {ahead : List Record} {taken : Nat} :
      LeadsUp records record ahead →
      Follows records ⟨some record, climb (taken + 1)⟩ ⟨ahead, taken⟩

/-- From a record the call that follows links gives what the other walk gives, and the
two stay together. It takes a turn for each ancestor without a path that it passes. -/
theorem exists_call {records : Records} {record : Record} {ahead : List Record} (taken : Nat)
    (up : LeadsUp records record ahead) :
    ∃ turns rest, turns ≤ ahead.length + 1 ∧
      Call records ⟨some record, climb (taken + 1)⟩ turns (Hops.step taken ahead).1 rest ∧
      Follows records rest (Hops.step taken ahead).2 := by
  induction ahead generalizing record with
  | nil =>
      have ends : turn records ⟨some record, climb (taken + 1)⟩ =
          .ended none ⟨none, climb (taken + 1)⟩ := by
        rw [LeadsUp] at up
        simp [turn, up]
      exact ⟨1, _, Nat.le_refl 1, .ended ends, .nowhere⟩
  | cons parent ahead ih =>
      obtain ⟨link, further⟩ := up
      rw [Hops.step]
      by_cases present : parent.path.isSome
      · rw [if_pos present]
        have ends : turn records ⟨some record, climb (taken + 1)⟩ =
            .ended (some (climb (taken + 1), parent)) ⟨some parent, climb (taken + 2)⟩ := by
          simp [turn, link, present, climb_succ_succ]
        exact ⟨1, _, Nat.le_add_left 1 _, .ended ends, .standing further⟩
      · rw [if_neg present]
        have goesOn : turn records ⟨some record, climb (taken + 1)⟩ =
            .onwards ⟨some parent, climb (taken + 1)⟩ := by
          simp [turn, link, present]
        obtain ⟨turns, rest, few, call, follows⟩ := ih further
        exact ⟨turns + 1, rest, Nat.succ_le_succ few, .onwards goesOn call, follows⟩

theorem Follows.exists_call {records : Records} {walk : LinkWalk} {hops : Hops}
    (follows : Follows records walk hops) :
    ∃ turns rest, turns ≤ hops.ahead.length + 1 ∧ Call records walk turns hops.next.1 rest ∧
      Follows records rest hops.next.2 := by
  cases follows with
  | nowhere => exact ⟨1, _, Nat.le_refl 1, .ended rfl, .nowhere⟩
  | standing up => exact LinkWalk.exists_call _ up

theorem Follows.exists_calls {records : Records} {walk : LinkWalk} {hops : Hops}
    (follows : Follows records walk hops) (calls : Nat) :
    ∃ rest, Calls records calls walk rest := by
  induction calls generalizing walk hops with
  | zero => exact ⟨walk, .none⟩
  | succ calls ih =>
      obtain ⟨turns, further, _, call, goesOn⟩ := follows.exists_call
      obtain ⟨rest, others⟩ := ih goesOn
      exact ⟨rest, .more call others⟩

theorem Follows.of_calls {records : Records} {walk rest : LinkWalk} {hops : Hops} {calls : Nat}
    (follows : Follows records walk hops) (run : Calls records calls walk rest) :
    Follows records rest (hops.after calls) := by
  induction run generalizing hops with
  | none => exact follows
  | more call _ ih =>
      obtain ⟨_, _, _, sameCall, goesOn⟩ := follows.exists_call
      obtain ⟨_, rfl⟩ := call.unique sameCall
      exact ih goesOn

theorem start_follows {forest above : List Node} {node : Node} {records : Records}
    (flattened : flatten forest = .ok records) (inside : Descends forest (above ++ [node])) :
    Follows records (start records node.id) (Hops.start records node.id) := by
  have firstHop : ".." = climb (0 + 1) := by decide
  rw [Hops.start_of_descends flattened inside, start, get?_of_descends flattened inside, firstHop]
  exact .standing (leadsUp_of_descends flattened inside)

end LinkWalk

/-! ## Answers -/

/-- The answer to the call after a number of calls: as many hops as there are stops up to
the next one, and the record of that stop, or nothing when no stop is left. -/
def AnswersAt (records : Records) (above : List Node) (calls : Nat) :
    Option (String × Record) → Prop
  | some (lead, record) => lead = climb (calls + 1) ∧
      ∃ stop, (stops above)[calls]? = some stop ∧ records.get? stop.id = some record
  | none => (stops above)[calls]? = none

theorem length_recordsAlong (top : Option String) (chain : List Node) :
    (recordsAlong top chain).length = chain.length := by
  induction chain generalizing top with
  | nil => rfl
  | cons node rest ih => rw [recordsAlong, List.length_cons, ih, List.length_cons]

section Flattened

variable {forest above : List Node} {node : Node} {records : Records}

theorem answersAt_next_after (flattened : flatten forest = .ok records)
    (inside : Descends forest (above ++ [node])) (calls : Nat) :
    AnswersAt records above calls ((Hops.start records node.id).after calls).next.1 := by
  have sameAt := congrArg (·[calls]?) (map_along_recordsAlong above)
  simp only [List.getElem?_map, List.getElem?_mapIdx] at sameAt
  rw [Hops.next_after, Hops.start_of_descends flattened inside, Hops.toList]
  cases answer : (Hops.along 0 (recordsAlong none above).reverse)[calls]? with
  | none =>
      rw [answer] at sameAt
      exact Option.map_eq_none_iff.mp sameAt.symm
  | some hop =>
      rw [answer] at sameAt
      obtain ⟨stop, reached, same⟩ := Option.map_eq_some_iff.mp sameAt.symm
      obtain ⟨sameLead, sameId⟩ := Prod.mk.inj same
      have ahead : hop.2 ∈ (recordsAlong none above).reverse :=
        Hops.mem_of_mem_along (List.mem_of_getElem? answer)
      obtain ⟨up, ancestor, below, split, made⟩ :=
        exists_record_of_mem_recordsAlong (List.mem_reverse.mp ahead)
      rw [split, List.append_assoc, List.cons_append] at inside
      refine ⟨sameLead.symm, stop, reached, ?_⟩
      rw [sameId, made, Node.record_id]
      exact get?_of_descends flattened (descends_append_cons.mp inside).1

/-- Whatever the number of calls so far, the next call of a walk that starts at a route
gives the next stop with as many hops as there are stops up to it, and nothing if no stop
is left; from then on every call gives nothing. Followed link by link the same calls can
all be made, and each ends with this answer after no more turns than the route has
ancestors, and one. -/
theorem hops_meet_stops (flattened : flatten forest = .ok records) {id : String}
    (known : id ∈ records.ids) :
    ∃ above node, Descends forest (above ++ [node]) ∧ node.id = id ∧ ∀ calls,
      AnswersAt records above calls ((Hops.start records id).after calls).next.1 ∧
      (((Hops.start records id).after calls).next.1 = none →
        ∀ more, ((Hops.start records id).after (calls + more)).next.1 = none) ∧
      (∃ walk, LinkWalk.Calls records calls (LinkWalk.start records id) walk) ∧
      ∀ walk, LinkWalk.Calls records calls (LinkWalk.start records id) walk →
        ∃ turns rest, turns ≤ above.length + 1 ∧
          LinkWalk.Call records walk turns ((Hops.start records id).after calls).next.1 rest := by
  obtain ⟨above, node, inside, rfl⟩ := (mem_ids_iff flattened).mp known
  have follows := LinkWalk.start_follows flattened inside
  refine ⟨above, node, inside, rfl, fun calls => ⟨answersAt_next_after flattened inside calls,
    Hops.next_after_add, follows.exists_calls calls, ?_⟩⟩
  intro walk run
  obtain ⟨turns, rest, few, call, _⟩ := (follows.of_calls run).exists_call
  have left : ((Hops.start records node.id).after calls).ahead.length ≤ above.length := by
    have atStart : (Hops.start records node.id).ahead.length = above.length := by
      rw [Hops.start_of_descends flattened inside, List.length_reverse, length_recordsAlong]
    exact atStart ▸ Hops.length_after_le calls _
  exact ⟨turns, rest, Nat.le_trans few (Nat.succ_le_succ left), call⟩

end Flattened

/-- The second call for the page passes over the layout, and the third gives nothing. -/
theorem page_hops_meet_stops :
    flatten [Sample.home] = .ok Sample.records ∧ "page" ∈ Sample.records.ids ∧
      ((Hops.start Sample.records "page").after 2).next.1 = none ∧
      ∃ walk turns rest,
        LinkWalk.Calls Sample.records 1 (LinkWalk.start Sample.records "page") walk ∧
        LinkWalk.Call Sample.records walk turns (some ("../..", Sample.home.record none)) rest := by
  have known : "page" ∈ Sample.records.ids := by decide
  obtain ⟨_, _, _, _, meets⟩ := hops_meet_stops Sample.flatten_home known
  obtain ⟨_, _, ⟨walk, run⟩, answered⟩ := meets 1
  obtain ⟨turns, rest, _, call⟩ := answered walk run
  have second : ((Hops.start Sample.records "page").after 1).next.1 =
      some ("../..", Sample.home.record none) := by decide
  rw [second] at call
  exact ⟨Sample.flatten_home, known, by decide, walk, turns, rest, run, call⟩

end RouteTree
