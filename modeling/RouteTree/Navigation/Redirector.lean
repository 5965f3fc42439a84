import RouteTree.Navigation.Href
import RouteTree.Navigation.Redirect

namespace RouteTree

/-- What the author of a redirect fills in and asks for. -/
structure RedirectOptions where
  filling : Url.Filling := {}
  init : Option ResponseInit := none
deriving DecidableEq, Repr

/-- Makes redirects from one route to its targets. -/
structure Redirector where
  routeId : String
  table : Table
  make : RedirectMaker

/-- A redirect to a target. Without options the location is the target as it
stands, and with options its URL. -/
def Redirector.redirect (redirector : Redirector) (target : String) :
    Option RedirectOptions → Except RouteError Redirect
  | none =>
      (redirector.table.checkTarget redirector.routeId target).map fun _ =>
        redirector.make target none
  | some options =>
      (redirector.table.href redirector.routeId target options.filling).map fun location =>
        redirector.make location options.init

end RouteTree
