import RouteTree.Tree.Record

/-!
# Hops towards the root

Each `..` of a relative target leads to the next ancestor that has a path. An
ancestor without a path adds nothing to the URL, so it is passed over without
a hop.
-/

namespace RouteTree

/-- The relative target that climbs a number of hops. -/
def climb (hops : Nat) : String :=
  Text.joinWithSlashes (List.replicate hops "..")

/-- A walk towards the root: the ancestors that lie ahead, nearest first, and
the hops taken so far. -/
structure Hops where
  ahead : List Record
  taken : Nat
deriving DecidableEq, Repr

namespace Hops

/-- A walk that starts at a route; there is nowhere to go from an unknown id. -/
def start (records : Records) (id : String) : Hops :=
  match records.ancestors id with
  | .ok ancestors => ⟨ancestors, 0⟩
  | .error _ => ⟨[], 0⟩

/-- Takes the next hop, if there is one: its target and the route it leads to,
and the rest of the walk. -/
def step (taken : Nat) : List Record → Option (String × Record) × Hops
  | [] => (none, ⟨[], taken⟩)
  | record :: ahead =>
      if record.path.isSome then (some (climb (taken + 1), record), ⟨ahead, taken + 1⟩)
      else step taken ahead

def next (hops : Hops) : Option (String × Record) × Hops :=
  step hops.taken hops.ahead

/-- The hops that lead along the given ancestors. -/
def along (taken : Nat) : List Record → List (String × Record)
  | [] => []
  | record :: ahead =>
      if record.path.isSome then (climb (taken + 1), record) :: along (taken + 1) ahead
      else along taken ahead

/-- All hops that are left. -/
def toList (hops : Hops) : List (String × Record) :=
  along hops.taken hops.ahead

end Hops

end RouteTree
