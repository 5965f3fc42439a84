import RouteTree.Codegen.Settings
import RouteTree.Config.DescriptionJson
import RouteTree.Json.Reader
import RouteTree.Table
import RouteTree.Text.FileName
import RouteTree.Text.Quoted
import RouteTree.Toml.Reader

/-!
# Route files

A route file holds a route tree and the settings for the module generated from
it. Both may be left out. A file whose name ends in `.json` is JSON, any other
file is TOML.
-/

namespace RouteTree

open Json (Surplus)

namespace Codegen.Settings

/-- The names of the settings, in order. -/
def fieldNames : List String := ["module_name", "emit_paths", "emit_params", "derive_serde"]

/-- Reads settings; each one that is missing has its default. -/
def ofJson? (surplus : Surplus) (value : Json) : Option Settings :=
  match Json.recordFields? surplus fieldNames value with
  | some [moduleName, emitPaths, emitParams, deriveSerialization] =>
      (Json.fieldOr? "routes" Json.text? moduleName).bind fun moduleName =>
        (Json.fieldOr? true Json.bool? emitPaths).bind fun emitPaths =>
          (Json.fieldOr? true Json.bool? emitParams).bind fun emitParams =>
            (Json.fieldOr? false Json.bool? deriveSerialization).map fun deriveSerialization =>
              { moduleName, emitPaths, emitParams, deriveSerialization }
  | _ => none

/-- Every setting is written. -/
def toJson (settings : Settings) : Json :=
  .object [("module_name", .text settings.moduleName), ("emit_paths", .bool settings.emitPaths),
    ("emit_params", .bool settings.emitParams), ("derive_serde", .bool settings.deriveSerialization)]

end Codegen.Settings

structure RouteFile where
  routes : List Description := []
  codegen : Codegen.Settings := {}
deriving Repr

namespace RouteFile

def fieldNames : List String := ["routes", "codegen"]

def ofJson? (surplus : Surplus) (value : Json) : Option RouteFile :=
  match Json.recordFields? surplus fieldNames value with
  | some [routes, codegen] =>
      (Json.fieldOr? [] (Description.listOfJson? surplus) routes).bind fun routes =>
        (Json.fieldOr? {} (Codegen.Settings.ofJson? surplus) codegen).map fun codegen =>
          { routes, codegen }
  | _ => none

def toJson (file : RouteFile) : Json :=
  .object [("routes", .array (Description.listToJson file.routes)),
    ("codegen", file.codegen.toJson)]

/-! ## Texts -/

/-- How many arrays and objects of a JSON text can be open at once. -/
def deepestNesting : Nat := 127

/-- Whether the routes of a record are nested no deeper than can be read. -/
def isShallow : Json → Bool
  | .object fields =>
      fields.all fun (name, value) =>
        name ≠ "routes" || Description.listNesting value + 1 ≤ deepestNesting
  | .array (routes :: _) => Description.listNesting routes + 1 ≤ deepestNesting
  | _ => true

def ofJsonText? (content : String) : Option RouteFile :=
  (Json.ofText? content).bind fun value =>
    if isShallow value then ofJson? .refused value else none

def ofTomlText? (content : String) : Option RouteFile :=
  (Toml.ofText? content).bind (ofJson? .ignored)

/-! ## Files -/

/-- Whether a file is read as JSON. -/
def isJsonPath (path : String) : Bool :=
  (Text.extension? path).any fun ending => ending.toList.map Char.toLower = "json".toList

/-- Why a route file could not be loaded. -/
inductive LoadError where
  | unreadable (path : String)
  | malformed (path : String)
deriving DecidableEq, Repr

def LoadError.message : LoadError → String
  | .unreadable path => "Failed to read route file: " ++ Text.quoted path
  | .malformed path => "Failed to parse route file: " ++ Text.quoted path

/-- The route file at a path, from its content if it could be read. -/
def ofContent (path : String) (content : Option String) : Except LoadError RouteFile :=
  match content with
  | none => .error (.unreadable path)
  | some content =>
      match if isJsonPath path then ofJsonText? content else ofTomlText? content with
      | some file => .ok file
      | none => .error (.malformed path)

/-! ## Tables -/

/-- The routes of a file are not those of any table. -/
structure InvalidTree where
  cause : RouteError
deriving DecidableEq, Repr

/-- The text for a failure of the whole tree; the cause has a text of its own. -/
def InvalidTree.message (_ : InvalidTree) : String := "Invalid route tree"

/-- The table of the routes. -/
def table (file : RouteFile) : Except InvalidTree Table :=
  (Table.ofDescriptions file.routes).mapError InvalidTree.mk

end RouteFile

end RouteTree
