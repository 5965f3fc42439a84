import RouteTree.Entry.Bundle
import RouteTree.RouteError

/-!
# Resolving lazy entries

All loads of a route are started together and then asked in rounds until every
one has finished. The first that fails ends the whole resolution. When all have
finished, each kind takes its value from its own bundle; values of other kinds
are ignored.
-/

namespace RouteTree

variable {δ γ : Type}

/-- The loads of one route, by the kind that waits for them. -/
structure Resolver (δ γ : Type) where
  id : String
  load? : EntryKind → Option (Load δ γ)

/-- What happens to the load with the given label. -/
inductive LoadEvent where
  | called (label : String)
  | polled (label : String) (count : Nat)
  | loaded (label : String)
  | failed (label : String) (cause : String)
deriving DecidableEq, Repr

namespace LoadEvent

def cause? : LoadEvent → Option String
  | .failed _ cause => some cause
  | _ => none

/-- One line of a log. -/
def text : LoadEvent → String
  | .called label => "call:" ++ label
  | .polled label count => "poll:" ++ label ++ ":" ++ Nat.repr count
  | .loaded label => "done:" ++ label
  | .failed label _ => "fail:" ++ label

end LoadEvent

namespace Load

/-- How a load ends. -/
def ending (load : Load δ γ) : LoadEvent :=
  match load.outcome with
  | .ok _ => .loaded load.label
  | .error cause => .failed load.label cause

/-- What happens when a load is asked in the round after so many others. -/
def poll (passed : Nat) (load : Load δ γ) : List LoadEvent :=
  if passed < load.delay then [.polled load.label (passed + 1)]
  else if passed = load.delay then [.polled load.label (passed + 1), load.ending]
  else []

end Load

/-- How long a list of loads takes. -/
def longestDelay (loads : List (Load δ γ)) : Nat :=
  loads.foldl (fun delay load => max delay load.delay) 0

/-- Everything that happens to loads that nobody interrupts. -/
def schedule (loads : List (Load δ γ)) : List LoadEvent :=
  loads.map (fun load => .called load.label) ++
    (List.range (longestDelay loads + 1)).flatMap fun passed => loads.flatMap (Load.poll passed)

/-- The events up to the first failure. -/
def untilFailure : List LoadEvent → List LoadEvent
  | [] => []
  | event :: rest => if event.cause?.isSome then [event] else event :: untilFailure rest

/-- A value of a bundle, if its tag is that of the given route and kind. -/
def Bundle.provide? (bundle : Bundle δ γ) (id : String) (kind : EntryKind) :
    Option (kind.Value δ γ) :=
  match bundle kind with
  | some entry => if entry.id = id ∧ entry.kind = kind then some entry.value else none
  | none => none

/-- How a resolution went, and what came of it. -/
structure Resolution (δ γ : Type) where
  events : List LoadEvent
  result : Except RouteError (Props δ γ)

namespace Resolver

/-- The kinds that wait for a load. -/
def kinds (resolver : Resolver δ γ) : List EntryKind :=
  EntryKind.visited.filter fun kind => (resolver.load? kind).isSome

def loads (resolver : Resolver δ γ) : List (Load δ γ) :=
  EntryKind.visited.filterMap resolver.load?

/-- What a kind gets from its bundle. -/
def provided (resolver : Resolver δ γ) : Props δ γ := fun kind =>
  (resolver.load? kind).bind fun load =>
    load.outcome.toOption.bind fun bundle => Bundle.provide? bundle resolver.id kind

/-- The cause of the failure that is reported first. -/
def firstCause? (resolver : Resolver δ γ) : Option String :=
  (schedule resolver.loads).findSome? LoadEvent.cause?

/-- The first kind whose bundle has nothing for it. -/
def firstMissing? (resolver : Resolver δ γ) : Option EntryKind :=
  resolver.kinds.find? fun kind => (resolver.provided kind).isNone

/-- Loads what every kind waits for. -/
def resolve (resolver : Resolver δ γ) : Resolution δ γ where
  events := untilFailure (schedule resolver.loads)
  result :=
    match resolver.firstCause?, resolver.firstMissing? with
    | some cause, _ => .error (.lazyFailure resolver.id cause)
    | none, some kind => .error (.incompleteBundle resolver.id kind)
    | none, none => .ok resolver.provided

end Resolver

end RouteTree
