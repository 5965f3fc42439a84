import RouteTree.Command.Line
import RouteTree.Command.Report
import RouteTree.Files.Store

/-!
# Running commands

A command reads its route file from a store of files and answers with a text to
print. Only generation may write, and only after everything else has succeeded.
-/

namespace RouteTree.Command

variable {m : Type → Type} [Monad m]

/-- Writes a text to a path, with the directories above it. -/
def save (store : FileStore m) (path text : String) : m (Except CommandError Unit) := do
  let directory := (Text.directory? path).getD ""
  if directory ≠ "" then
    if !(← store.makeDirectory directory) then
      return .error (.directory directory)
  if ← store.write path text then
    return .ok ()
  return .error (.write path)

/-- Prints generated source, or writes it to a file. -/
def publish (store : FileStore m) (table : Table) (source : String) :
    Option String → m (Except CommandError String)
  | none => return .ok source
  | some path => return (← save store path source).map fun _ => writtenNote table path

/-- The file that a command works on. -/
def file : Command → String
  | .inspect file => file
  | .paths file _ => file
  | .params file _ => file
  | .generate file _ => file

/-- Runs a command on a file that has been opened. -/
def runOn (store : FileStore m) (routes : RouteFile) (table : Table) :
    Command → m (Except CommandError String)
  | .inspect _ => return .ok (inspection table)
  | .paths _ route => return targetListing table route
  | .params _ route => return shapeListing table route
  | .generate _ output =>
      match generatedSource table routes.codegen with
      | .ok source => publish store table source output
      | .error error => return .error error

def run (store : FileStore m) (command : Command) : m (Except CommandError String) := do
  match openFile command.file (← store.read? command.file) with
  | .ok (routes, table) => command.runOn store routes table
  | .error error => return .error error

/-! ## The program -/

/-- What a program leaves behind when it ends. -/
structure Outcome where
  code : UInt8
  output : String := ""
  complaint : String := ""
  /-- What a verbose program says about its work. -/
  log : String := ""
deriving DecidableEq, Repr

def versionText : String := printLines ["typesafe-router 0.1.0"]

def helpText : String :=
  printLines
    ["Inspect route trees and generate typed route modules", "",
      "Usage: typesafe-router [OPTIONS] <COMMAND>", "",
      "Commands:",
      "  inspect <FILE>                  Print the flattened route table as JSON",
      "  paths <FILE> [-r <ROUTE>]       List navigation targets",
      "  params <FILE> -r <ROUTE>        Show the params a route can be rendered with",
      "  generate <FILE> [-o <OUTPUT>]   Generate a module with typed route ids and params", "",
      "Options:",
      "  -v, --verbose  Log the work to stderr",
      "  -h, --help     Print help",
      "  -V, --version  Print version"]

def workLog (command : Command) (verbose : Bool) : String :=
  if verbose then printLines ["reading " ++ Text.quoted command.file] else ""

/-- Asking for help or the version is no failure; a command that fails is told
from a command line that cannot be read. -/
def execute (store : FileStore m) (arguments : List String) : m Outcome := do
  match ofArguments arguments with
  | .ok (command, verbose) =>
      let log := workLog command verbose
      match ← command.run store with
      | .ok output => return { code := 0, output, log }
      | .error error => return { code := 1, complaint := error.text, log }
  | .error .help => return { code := 0, output := helpText }
  | .error .version => return { code := 0, output := versionText }
  | .error .misuse => return { code := 2, complaint := helpText }

end RouteTree.Command
