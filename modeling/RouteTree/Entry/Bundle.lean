import RouteTree.Entry.Tagged

/-!
# Entries and what they load

An entry binds a value to a route, either now or when it is first needed. A
lazy entry loads a bundle, which may hold values of all kinds; a loader and a
component can come from one bundle. Throughout, `δ` is what loaders and actions
are, and `γ` is what components and error boundaries are.
-/

namespace RouteTree

/-- The values of a kind. -/
def EntryKind.Value (δ γ : Type) : EntryKind → Type
  | .loader => δ
  | .action => δ
  | .component => γ
  | .errorBoundary => γ

/-- At most one value of each kind, for each kind of value. -/
abbrev Props (δ γ : Type) := (kind : EntryKind) → Option (kind.Value δ γ)

/-- At most one tagged value for each kind of entry. Nothing says that the tags
are right. -/
abbrev Bundle (δ γ : Type) := (kind : EntryKind) → Option (Tagged (kind.Value δ γ))

/-- Loads a bundle, or fails with a cause. The load is not finished before it
has been asked for more often than its delay. -/
structure Load (δ γ : Type) where
  /-- The name under which its progress is reported. -/
  label : String
  delay : Nat
  outcome : Except String (Bundle δ γ)

/-- Something offered as an entry of one kind. -/
inductive Entry (δ γ : Type) (kind : EntryKind) where
  | eager (entry : Tagged (kind.Value δ γ))
  | lazy (id : String) (load : Load δ γ)

namespace Entry

variable {δ γ : Type} {kind : EntryKind}

/-- The route that the entry is for. -/
def id : Entry δ γ kind → String
  | .eager entry => entry.id
  | .lazy id _ => id

def isLazy : Entry δ γ kind → Bool
  | .eager _ => false
  | .lazy _ _ => true

/-- The kind that the entry says it is of; a lazy entry does not say. -/
def tag? : Entry δ γ kind → Option EntryKind
  | .eager entry => some entry.kind
  | .lazy _ _ => none

def value? : Entry δ γ kind → Option (kind.Value δ γ)
  | .eager entry => some entry.value
  | .lazy _ _ => none

def load? : Entry δ γ kind → Option (Load δ γ)
  | .eager _ => none
  | .lazy _ load => some load

end Entry

end RouteTree
