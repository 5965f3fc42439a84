import RouteTree.Codegen.Source
import RouteTree.Config.RouteFile
import RouteTree.Json.Writer
import RouteTree.Tree.RecordJson

/-!
# Reports on route files

What each command prints about the route table of a file, and what can go wrong
on the way.
-/

namespace RouteTree.Command

inductive CommandError where
  | load (error : RouteFile.LoadError)
  | tree (failure : RouteFile.InvalidTree)
  /-- The targets of a route cannot be listed. -/
  | targets (id : String) (cause : RouteError)
  | route (error : RouteError)
  | directory (path : String)
  | write (path : String)
deriving DecidableEq, Repr

namespace CommandError

def message : CommandError → String
  | .load error => error.message
  | .tree failure => failure.message
  | .targets id _ => "Failed to derive paths for '" ++ id ++ "'"
  | .route error => error.message
  | .directory path => "Failed to create directory: " ++ Text.quoted path
  | .write path => "Failed to write " ++ Text.quoted path

/-- What lies behind an error that only names the task. -/
def cause? : CommandError → Option String
  | .tree failure => some failure.cause.message
  | .targets _ cause => some cause.message
  | _ => none

/-- The error as it is printed, with its cause in a paragraph of its own. -/
def text (error : CommandError) : String :=
  let cause :=
    match error.cause? with
    | some cause => "\n\nCaused by:\n    " ++ cause
    | none => ""
  "Error: " ++ error.message ++ cause ++ "\n"

end CommandError

/-- A route file together with its table, from the content of the file. -/
def openFile (path : String) (content : Option String) :
    Except CommandError (RouteFile × Table) :=
  ((RouteFile.ofContent path content).mapError CommandError.load).bind fun file =>
    (file.table.mapError CommandError.tree).map fun table => (file, table)

/-- Lines of text, each with its end. -/
def printLines (lines : List String) : String :=
  String.join (lines.map (· ++ "\n"))

/-- The routes in preorder as indented JSON. -/
def inspection (table : Table) : String :=
  printLines [(Json.array (table.records.toList.map Record.toJson)).pretty]

/-- A heading, the indented items, and a closing line. -/
def listing (heading : String) (items : List String) (closing : String) : String :=
  printLines ([heading, ""] ++ items.map ("  " ++ ·) ++ ["", closing])

/-- The targets of one route, or the absolute targets. -/
def targetListing (table : Table) (route : Option String) : Except CommandError String :=
  let found :=
    match route with
    | some id => (table.targets id).mapError (CommandError.targets id)
    | none => table.absoluteTargets.mapError CommandError.route
  found.map fun targets =>
    let heading := route.elim "Absolute paths" ("Paths from " ++ ·)
    listing heading targets.toList (Nat.repr targets.size ++ " targets")

/-- The shapes that a route can meet, and all of them in one. -/
def shapeListing (table : Table) (route : String) : Except CommandError String :=
  ((table.params route).mapError CommandError.route).map fun alternatives =>
    listing ("Params for " ++ route)
      (alternatives.toList.map fun shape => "| " ++ Params.Shape.text shape)
      ("Merged: " ++ Params.Shape.text alternatives.merged)

/-- The module generated for a table. -/
def generatedSource (table : Table) (settings : Codegen.Settings) :
    Except CommandError String :=
  (Codegen.source table settings).mapError CommandError.route

/-- What is printed once a generated module has been written to a file. -/
def writtenNote (table : Table) (path : String) : String :=
  printLines ["  ✓ " ++ Nat.repr table.size ++ " routes -> " ++ path]

end RouteTree.Command
