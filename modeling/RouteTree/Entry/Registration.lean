import RouteTree.Entry.BoundRoute

/-!
# Registration in phases

Loaders and actions come first, components and error boundaries second, and
each kind comes at most once. The phase is part of the type, so a registration
that comes too late or twice cannot be written down.
-/

namespace RouteTree

/-- What has been registered, as far as it decides what may come next. -/
inductive Phase where
  | data (loaders actions : Bool)
  | render (components errorBoundaries : Bool)
deriving DecidableEq, Repr

namespace Phase

/-- Nothing has been registered. -/
def start : Phase := .data false false

/-- Whether entries of a kind may still be registered. -/
def offers : Phase → EntryKind → Bool
  | .data loaders _, .loader => !loaders
  | .data _ actions, .action => !actions
  | .data _ _, .component => true
  | .data _ _, .errorBoundary => true
  | .render _ _, .loader => false
  | .render _ _, .action => false
  | .render components _, .component => !components
  | .render _ errorBoundaries, .errorBoundary => !errorBoundaries

/-- Whether loaders and actions are still to come. -/
def isData : Phase → Bool
  | .data _ _ => true
  | .render _ _ => false

/-- The phase after entries of an offered kind have been registered. -/
def after : Phase → EntryKind → Phase
  | .data _ actions, .loader => .data true actions
  | .data loaders _, .action => .data loaders true
  | .data _ _, .component => .render true false
  | .data _ _, .errorBoundary => .render false true
  | .render components errorBoundaries, .loader => .render components errorBoundaries
  | .render components errorBoundaries, .action => .render components errorBoundaries
  | .render _ errorBoundaries, .component => .render true errorBoundaries
  | .render components _, .errorBoundary => .render components true

end Phase

/-- A route table with the entries registered so far. -/
structure Registration (δ γ : Type) (phase : Phase) where
  table : Table
  registry : Registry δ γ

namespace Registration

variable {δ γ : Type} {phase : Phase}

/-- Starts with a table and no entries. -/
def ofTable (table : Table) : Registration δ γ Phase.start where
  table := table
  registry := Registry.empty

/-- Starts with the table of a route tree. -/
def ofDescriptions (descriptions : List Description) :
    Except RouteError (Registration δ γ Phase.start) :=
  (Table.ofDescriptions descriptions).map ofTable

/-- Registers all entries of a kind. -/
def add (registration : Registration δ γ phase) (kind : EntryKind)
    (_offered : phase.offers kind = true) (entries : List (Entry δ γ kind)) :
    Except RouteError (Registration δ γ (phase.after kind)) :=
  (EntryMap.ofEntries registration.table entries).map fun entries =>
    { table := registration.table, registry := registration.registry.put kind entries }

/-- Leaves the data phase without registering anything. -/
def startRendering (registration : Registration δ γ phase)
    (_isData : phase.isData = true) : Registration δ γ (.render false false) where
  table := registration.table
  registry := registration.registry

/-- The route tree for the router. -/
def routes (registration : Registration δ γ phase) : List (BoundRoute δ γ) :=
  registration.registry.bindRoutes registration.table.forest

end Registration

end RouteTree
