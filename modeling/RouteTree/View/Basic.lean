import RouteTree.Data.Datum
import RouteTree.Entry.Tagged
import RouteTree.Navigation.Href
import RouteTree.Params.Values
import RouteTree.View.Instruction

/-!
# Views

A view is what a component or an error boundary sees of the page: where its
route may lead, which parameters matched, and the data of related routes.
-/

namespace RouteTree

open Params

/-- The state of the page that is shown. -/
structure Page where
  /-- The parameters that matched the current location. -/
  params : RawValues := ∅
  /-- The loader data of the routes on screen. -/
  loaderData : SortedMap String Datum := ∅
  /-- What the last action left, if one ran. -/
  actionData : Option Datum := none
deriving DecidableEq, Repr

structure View where
  routeId : String
  table : Table
  page : Page

/-- Fills in parameters only, as forms require. -/
def Url.Filling.paramsOnly (filling : Filling) : Filling :=
  { params := filling.params }

/-- Data that must be of the given type. -/
def Datum.readFor (datum : Datum) (id : String) (type : DatumType) :
    Except RouteError type.Value :=
  match datum.read? type with
  | some value => .ok value
  | none => .error (.dataMismatch id type)

namespace View

/-! ## Navigation -/

section Navigation

variable {Props : Type}

/-- The URL for a target of this route. -/
def href (view : View) (target : String) (filling : Url.Filling) :
    Except RouteError String :=
  view.table.href view.routeId target filling

def link (view : View) (target : String) (filling : Url.Filling) (props : Props) :
    Except RouteError (Instruction Props) :=
  (view.href target filling).map fun location => .link location props

def navLink (view : View) (target : String) (filling : Url.Filling) (props : Props) :
    Except RouteError (Instruction Props) :=
  (view.href target filling).map fun location => .navLink location props

def navigateElement (view : View) (target : String) (filling : Url.Filling)
    (options : NavigateOptions) : Except RouteError (Instruction Props) :=
  (view.href target filling).map fun location => .navigateElement location options

/-- A form that is sent to a target; only parameters are filled in. -/
def form (view : View) (target : String) (filling : Url.Filling) (props : Props) :
    Except RouteError (Instruction Props) :=
  (view.href target filling.paramsOnly).map fun location => .form location props

def navigate (view : View) (target : String) (filling : Url.Filling)
    (options : NavigateOptions) : Except RouteError (Instruction Props) :=
  (view.href target filling).map fun location => .navigate location options

/-- Sends data to a target; only parameters are filled in. -/
def submit (view : View) (data : Json) (target : String) (filling : Url.Filling)
    (options : SubmitOptions) : Except RouteError (Instruction Props) :=
  (view.href target filling.paramsOnly).map fun location => .submit data location options

end Navigation

/-! ## Data -/

/-- The parameters of the page, checked against the shape of this route. -/
def params (view : View) : Except RouteError Values :=
  (view.table.params view.routeId).bind fun alternatives =>
    Values.ofRaw alternatives.merged view.page.params

/-- The loader data of a route that is on screen for certain. -/
def dataOf (view : View) (id : String) (type : DatumType) : Except RouteError type.Value :=
  match view.page.loaderData.get? id with
  | some datum => datum.readFor id type
  | none => .error (.missingLoaderData id)

/-- The loader data of this route. -/
def loaderData (view : View) (type : DatumType) : Except RouteError type.Value :=
  view.dataOf view.routeId type

/-- Data that need not be there, but has the given type if it is. -/
def readIfPresent (datum : Option Datum) (id : String) (type : DatumType) :
    Except RouteError (Option type.Value) :=
  match datum with
  | some datum => (datum.readFor id type).map some
  | none => .ok none

/-- The loader data of a related route. This route and those above it are on
screen, so their data is required; a route below need not be, and routes on
other branches are out of reach. -/
def routeLoaderData (view : View) (id : String) (type : DatumType) :
    Except RouteError (Option type.Value) :=
  (view.table.relation view.routeId id).bind fun
    | .same => (view.dataOf id type).map some
    | .ancestor => (view.dataOf id type).map some
    | .descendant => readIfPresent (view.page.loaderData.get? id) id type
    | .unrelated => .error (.unrelatedRoute view.routeId id)

/-- What the last action left. -/
def actionData (view : View) (type : DatumType) : Except RouteError (Option type.Value) :=
  readIfPresent view.page.actionData view.routeId type

end View

namespace Table

variable {γ : Type}

/-- A component or an error boundary for one route, made from its view. -/
def viewEntry (table : Table) (page : Page) (kind : EntryKind) (id : String)
    (make : View → γ) : Except RouteError (Tagged γ) :=
  (table.route id).map fun _ => { id, kind, value := make { routeId := id, table, page } }

def component (table : Table) (page : Page) (id : String) (make : View → γ) :
    Except RouteError (Tagged γ) :=
  table.viewEntry page .component id make

def errorBoundary (table : Table) (page : Page) (id : String) (make : View → γ) :
    Except RouteError (Tagged γ) :=
  table.viewEntry page .errorBoundary id make

end Table

end RouteTree
