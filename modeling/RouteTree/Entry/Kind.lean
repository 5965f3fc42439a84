namespace RouteTree

/-- The kinds of entry that a route can carry. -/
inductive EntryKind where
  | loader
  | action
  | component
  | errorBoundary
deriving DecidableEq, Repr

namespace EntryKind

/-- Every kind, data before rendering. -/
def all : List EntryKind := [.action, .loader, .component, .errorBoundary]

/-- Every kind, in the order in which the entries of one route are visited. -/
def visited : List EntryKind := [.loader, .action, .component, .errorBoundary]

/-- The property under which a router keeps entries of this kind. -/
def name : EntryKind → String
  | .loader => "loader"
  | .action => "action"
  | .component => "Component"
  | .errorBoundary => "ErrorBoundary"

def ofName? (name : String) : Option EntryKind :=
  all.find? fun kind => kind.name = name

/-- The name in outlines, always capitalised. -/
def title : EntryKind → String
  | .loader => "Loader"
  | .action => "Action"
  | .component => "Component"
  | .errorBoundary => "ErrorBoundary"

theorem mem_all (kind : EntryKind) : kind ∈ all := by
  cases kind <;> decide

theorem mem_visited (kind : EntryKind) : kind ∈ visited := by
  cases kind <;> decide

theorem nodup_visited : visited.Nodup := by
  decide

theorem ofName?_name (kind : EntryKind) : ofName? kind.name = some kind := by
  cases kind <;> decide

end EntryKind

end RouteTree
