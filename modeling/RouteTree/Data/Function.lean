import RouteTree.Data.Request
import RouteTree.Entry.Tagged
import RouteTree.Navigation.Redirector
import RouteTree.Params.Values

/-!
# Loaders and actions

The author of a loader or an action writes a body, which sees checked
parameters. The router calls the function made from it, with the parameters as
they come from the URL. A body may end in a redirect, which is an answer and no
failure.
-/

namespace RouteTree

open Params

/-- What the router calls a loader or an action with. -/
structure Call where
  request : Request
  params : RawValues := ∅
deriving Repr

/-- What a body works with. -/
structure Arguments where
  request : Request
  params : Values
  redirector : Redirector

/-- Why a loader or an action fails: a rule of the routes is broken, or the
body gives up for a reason of its own. -/
inductive Failure where
  | route (error : RouteError)
  | other (message : String)
deriving DecidableEq, Repr

/-- How a body ends without data. -/
inductive Interruption where
  | redirect (redirect : Redirect)
  | failure (failure : Failure)
deriving DecidableEq, Repr

abbrev Body (α : Type) := Arguments → Except Interruption α

/-- The answer of a loader or an action. -/
inductive Response (α : Type) where
  | data (value : α)
  | redirect (redirect : Redirect)
deriving DecidableEq, Repr

namespace Response

def data? {α : Type} : Response α → Option α
  | .data value => some value
  | .redirect _ => none

def redirect? {α : Type} : Response α → Option Redirect
  | .data _ => none
  | .redirect answer => some answer

/-- A redirect that interrupts a body is its answer. -/
def ofOutcome {α : Type} : Except Interruption α → Except Failure (Response α)
  | .ok value => .ok (.data value)
  | .error (.redirect answer) => .ok (.redirect answer)
  | .error (.failure failure) => .error failure

end Response

/-- What the router calls for a loader or an action. -/
abbrev DataFunction (α : Type) := Call → Except Failure (Response α)

/-- The function of a body. The body runs only if every required parameter has
a value. -/
def Body.toFunction {α : Type} (body : Body α) (shape : Shape) (redirector : Redirector) :
    DataFunction α := fun call =>
  match Values.ofRaw shape call.params with
  | .ok params => Response.ofOutcome (body { request := call.request, params, redirector })
  | .error error => .error (.route error)

namespace Table

/-- A loader or an action for one route. Its shape is settled here, once for
all calls. -/
def dataEntry {α : Type} (table : Table) (make : RedirectMaker) (kind : EntryKind)
    (id : String) (body : Body α) : Except RouteError (Tagged (DataFunction α)) :=
  (table.params id).map fun alternatives =>
    { id, kind,
      value := body.toFunction alternatives.merged { routeId := id, table, make } }

def loader {α : Type} (table : Table) (make : RedirectMaker) (id : String) (body : Body α) :
    Except RouteError (Tagged (DataFunction α)) :=
  table.dataEntry make .loader id body

def action {α : Type} (table : Table) (make : RedirectMaker) (id : String) (body : Body α) :
    Except RouteError (Tagged (DataFunction α)) :=
  table.dataEntry make .action id body

end Table

end RouteTree
