namespace RouteTree

/-- A route as its author writes it. An index route has no path and no
children; any other route without a path is a layout. -/
structure Description where
  id : Option String := none
  path : Option String := none
  index : Bool := false
  children : List Description := []
deriving Repr

namespace Description

def ofPath (path : String) : Description := { path := some path }

def indexRoute : Description := { index := true }

def layout : Description := {}

def withId (description : Description) (id : String) : Description :=
  { description with id := some id }

/-- Adds children after those that the route already has. -/
def withChildren (description : Description) (children : List Description) :
    Description :=
  { description with children := description.children ++ children }

end Description

end RouteTree
