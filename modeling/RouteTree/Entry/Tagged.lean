import RouteTree.Entry.Kind

namespace RouteTree

/-- A value for one route, tagged with the kind of entry that it is. -/
structure Tagged (α : Type) where
  id : String
  kind : EntryKind
  value : α
deriving DecidableEq, Repr

end RouteTree
