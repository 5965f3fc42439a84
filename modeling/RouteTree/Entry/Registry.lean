import RouteTree.Entry.Resolver
import RouteTree.Table

/-!
# Registered entries

Entries are registered one kind at a time. Each must be for a known route, must
not be tagged as another kind, and must be the only one for its route.
-/

namespace RouteTree

variable {δ γ : Type}

/-- The entries of one kind by the route that they are for. -/
abbrev EntryMap (δ γ : Type) (kind : EntryKind) := SortedMap String (Entry δ γ kind)

/-- What is wrong with a tag. -/
def Entry.misplacement? {kind : EntryKind} (entry : Entry δ γ kind) : Option RouteError :=
  match entry.tag? with
  | some found => if found = kind then none else some (.misplacedEntry entry.id kind found)
  | none => none

namespace EntryMap

variable {kind : EntryKind}

/-- Registers one more entry: its tag is checked first, then its route, and
then whether the route has an entry already. -/
def register (table : Table) (registered : EntryMap δ γ kind) (entry : Entry δ γ kind) :
    Except RouteError (EntryMap δ γ kind) :=
  match entry.misplacement?, table.route entry.id with
  | some error, _ => .error error
  | none, .error error => .error error
  | none, .ok _ =>
      if registered.contains entry.id then .error (.duplicateEntry kind entry.id)
      else .ok (registered.insert entry.id entry)

/-- Registers entries in order, up to the first that is refused. -/
def registerAll (table : Table) (registered : EntryMap δ γ kind) :
    List (Entry δ γ kind) → Except RouteError (EntryMap δ γ kind)
  | [] => .ok registered
  | entry :: rest =>
      (register table registered entry).bind fun registered =>
        registerAll table registered rest

def ofEntries (table : Table) (entries : List (Entry δ γ kind)) :
    Except RouteError (EntryMap δ γ kind) :=
  registerAll table ∅ entries

end EntryMap

/-- The registered entries of every kind. -/
abbrev Registry (δ γ : Type) := (kind : EntryKind) → EntryMap δ γ kind

namespace Registry

def empty : Registry δ γ := fun _ => ∅

/-- Replaces the entries of one kind. -/
def put (registry : Registry δ γ) (kind : EntryKind) (entries : EntryMap δ γ kind) :
    Registry δ γ := fun other =>
  if same : kind = other then same ▸ entries else registry other

@[simp]
theorem put_same (registry : Registry δ γ) (kind : EntryKind) (entries : EntryMap δ γ kind) :
    registry.put kind entries kind = entries := by
  simp [put]

theorem put_other (registry : Registry δ γ) {kind other : EntryKind}
    (entries : EntryMap δ γ kind) (different : kind ≠ other) :
    registry.put kind entries other = registry other := by
  simp [put, different]

end Registry

end RouteTree
