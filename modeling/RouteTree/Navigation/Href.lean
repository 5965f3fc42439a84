import RouteTree.Table
import RouteTree.Url.Target

/-!
# Navigation from a route

A route may lead to its own targets only. The empty target is the place where
the user already is; it is open to every route.
-/

namespace RouteTree.Table

/-- Refuses a target that a route may not lead to. -/
def checkTarget (table : Table) (source target : String) : Except RouteError Unit :=
  if target.isEmpty then .ok ()
  else (table.reaches source target).bind fun reached =>
    if reached then .ok () else .error (.invalidNavigation source target)

/-- The URL for a target of a route. The target is checked before anything is
filled in. -/
def href (table : Table) (source target : String) (filling : Url.Filling) :
    Except RouteError String :=
  (table.checkTarget source target).bind fun _ => Url.build target filling

end RouteTree.Table
