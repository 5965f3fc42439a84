import RouteTree.Params.Shape
import RouteTree.Proofs.Chain

/-!
# Needs of a shape

A shape is determined by the names that it mentions and those that it
requires. Merging unites both, so it is commutative, associative and
idempotent, and the shape along a chain of routes does not depend on the order
in which the routes are met.
-/

namespace RouteTree

theorem findEntry_eq_some_iff {κ ν : Type} [DecidableEq κ] {key : κ} {bound : ν}
    {entries : List (κ × ν)} (distinct : (entries.map Prod.fst).Nodup) :
    findEntry key entries = some bound ↔ (key, bound) ∈ entries := by
  induction entries with
  | nil => simp [findEntry]
  | cons entry rest ih =>
      obtain ⟨other, value⟩ := entry
      obtain ⟨fresh, restDistinct⟩ := List.nodup_cons.mp distinct
      rw [findEntry, List.mem_cons, Prod.mk.injEq]
      by_cases same : other = key
      · subst same
        have notLater : (other, bound) ∉ rest := fun member =>
          fresh (List.mem_map.mpr ⟨(other, bound), member, rfl⟩)
        simp [notLater, eq_comm]
      · simp [same, Ne.symm same, ih restDistinct]

namespace Params.Shape

def Mentions (shape : Shape) (name : String) : Prop :=
  (shape.get? name).isSome

def Requires (shape : Shape) (name : String) : Prop :=
  shape.get? name = some .required

theorem Requires.mentions {shape : Shape} {name : String} (required : shape.Requires name) :
    shape.Mentions name := by
  rw [Requires] at required
  simp [Mentions, required]

theorem ext_needs {first second : Shape}
    (mentions : ∀ name, first.Mentions name ↔ second.Mentions name)
    (requires : ∀ name, first.Requires name ↔ second.Requires name) : first = second := by
  apply SortedMap.ext_get?
  intro name
  have sameMentions := mentions name
  have sameRequires := requires name
  simp only [Mentions, Requires] at sameMentions sameRequires
  cases firstNeed : first.get? name with
  | none =>
      cases secondNeed : second.get? name with
      | none => rfl
      | some need => simp [firstNeed, secondNeed] at sameMentions
  | some need =>
      cases secondNeed : second.get? name with
      | none => simp [firstNeed, secondNeed] at sameMentions
      | some other =>
          rw [firstNeed, secondNeed] at sameRequires
          cases need <;> cases other <;> simp at sameRequires ⊢

@[simp]
theorem not_mentions_empty (name : String) : ¬ (∅ : Shape).Mentions name := by
  intro mentioned
  cases mentioned

@[simp]
theorem not_requires_empty (name : String) : ¬ (∅ : Shape).Requires name :=
  fun required => not_mentions_empty name required.mentions

@[simp]
theorem mentions_mention {shape : Shape} {name other : String} {need : Need} :
    (shape.mention name need).Mentions other ↔ shape.Mentions other ∨ other = name := by
  simp only [Mentions, mention, SortedMap.get?_insertWith]
  by_cases same : other = name
  · simp [same]
  · simp [same]

@[simp]
theorem requires_mention {shape : Shape} {name other : String} {need : Need} :
    (shape.mention name need).Requires other ↔
      shape.Requires other ∨ other = name ∧ need = .required := by
  simp only [Requires, mention, SortedMap.get?_insertWith]
  by_cases same : other = name
  · subst same
    cases bound : shape.get? other with
    | none => simp
    | some earlier => simp [Need.both_eq_required_iff]
  · simp [same]

theorem mentions_mentionAll {shape : Shape} {name : String} {entries : List (String × Need)} :
    (shape.mentionAll entries).Mentions name ↔
      shape.Mentions name ∨ name ∈ entries.map Prod.fst := by
  induction entries generalizing shape with
  | nil => simp [mentionAll]
  | cons entry rest ih =>
      have step : shape.mentionAll (entry :: rest) =
          (shape.mention entry.1 entry.2).mentionAll rest := rfl
      rw [step, ih, mentions_mention, List.map_cons, List.mem_cons, or_assoc]

theorem requires_mentionAll {shape : Shape} {name : String} {entries : List (String × Need)} :
    (shape.mentionAll entries).Requires name ↔
      shape.Requires name ∨ (name, .required) ∈ entries := by
  induction entries generalizing shape with
  | nil => simp [mentionAll]
  | cons entry rest ih =>
      obtain ⟨other, need⟩ := entry
      have step : shape.mentionAll ((other, need) :: rest) =
          (shape.mention other need).mentionAll rest := rfl
      rw [step, ih, requires_mention, List.mem_cons, Prod.mk.injEq, or_assoc,
        eq_comm (a := need)]

theorem mentions_ofEntries {name : String} {entries : List (String × Need)} :
    (ofEntries entries).Mentions name ↔ name ∈ entries.map Prod.fst := by
  simp [ofEntries, mentions_mentionAll]

theorem requires_ofEntries {name : String} {entries : List (String × Need)} :
    (ofEntries entries).Requires name ↔ (name, .required) ∈ entries := by
  simp [ofEntries, requires_mentionAll]

theorem mem_entries_iff_mentions {shape : Shape} {name : String} :
    name ∈ shape.entries.map Prod.fst ↔ shape.Mentions name :=
  findEntry_isSome_iff.symm

theorem mem_entries_iff_requires {shape : Shape} {name : String} :
    (name, .required) ∈ shape.entries ↔ shape.Requires name :=
  (findEntry_eq_some_iff shape.increasing.nodup).symm

/-! ## Merging -/

@[simp]
theorem mentions_merge {first second : Shape} {name : String} :
    (first.merge second).Mentions name ↔ first.Mentions name ∨ second.Mentions name := by
  rw [merge, mentions_mentionAll, mem_entries_iff_mentions]

@[simp]
theorem requires_merge {first second : Shape} {name : String} :
    (first.merge second).Requires name ↔ first.Requires name ∨ second.Requires name := by
  rw [merge, requires_mentionAll, mem_entries_iff_requires]

theorem merge_comm (first second : Shape) : first.merge second = second.merge first := by
  apply ext_needs
  · intro name
    rw [mentions_merge, mentions_merge, or_comm]
  · intro name
    rw [requires_merge, requires_merge, or_comm]

theorem merge_assoc (first second third : Shape) :
    (first.merge second).merge third = first.merge (second.merge third) := by
  apply ext_needs
  · intro name
    simp only [mentions_merge, or_assoc]
  · intro name
    simp only [requires_merge, or_assoc]

@[simp]
theorem merge_self (shape : Shape) : shape.merge shape = shape := by
  apply ext_needs <;> simp

@[simp]
theorem merge_empty (shape : Shape) : shape.merge ∅ = shape := by
  apply ext_needs <;> simp

@[simp]
theorem empty_merge (shape : Shape) : Shape.merge ∅ shape = shape := by
  rw [merge_comm, merge_empty]

theorem merge_left_comm (first second third : Shape) :
    first.merge (second.merge third) = second.merge (first.merge third) := by
  rw [← merge_assoc, merge_comm first second, merge_assoc]

end Params.Shape

/-! ## Shapes of routes and chains -/

open Params

theorem segmentEntry?_eq_required_iff {segment : Segment} {name : String} :
    segmentEntry? segment = some (name, .required) ↔
      segment = .param name ∨ segment = .splat ∧ name = "*" := by
  cases segment <;> simp [eq_comm, segmentEntry?]

theorem Node.requires_shape {node : Node} {name : String} :
    node.shape.Requires name ↔
      ∃ segment ∈ node.segments, segmentEntry? segment = some (name, .required) := by
  rw [Node.shape, ofSegments, Shape.requires_ofEntries, List.mem_filterMap]

/-- What all routes of a chain need together. -/
def shapeAlong (chain : List Node) : Shape :=
  chain.foldr (fun node below => node.shape.merge below) ∅

@[simp]
theorem shapeAlong_nil : shapeAlong [] = ∅ := rfl

@[simp]
theorem shapeAlong_cons (node : Node) (below : List Node) :
    shapeAlong (node :: below) = node.shape.merge (shapeAlong below) := rfl

theorem shapeAlong_append (above below : List Node) :
    shapeAlong (above ++ below) = (shapeAlong above).merge (shapeAlong below) := by
  induction above with
  | nil => simp
  | cons node rest ih =>
      rw [List.cons_append, shapeAlong_cons, ih, shapeAlong_cons, Shape.merge_assoc]

theorem shapeAlong_concat (above : List Node) (node : Node) :
    shapeAlong (above ++ [node]) = (shapeAlong above).merge node.shape := by
  rw [shapeAlong_append, shapeAlong_cons, shapeAlong_nil, Shape.merge_empty]

theorem mentions_shapeAlong {chain : List Node} {name : String} :
    (shapeAlong chain).Mentions name ↔ ∃ node ∈ chain, node.shape.Mentions name := by
  induction chain with
  | nil => simp
  | cons node rest ih => simp [ih]

theorem requires_shapeAlong {chain : List Node} {name : String} :
    (shapeAlong chain).Requires name ↔ ∃ node ∈ chain, node.shape.Requires name := by
  induction chain with
  | nil => simp
  | cons node rest ih => simp [ih]

end RouteTree
