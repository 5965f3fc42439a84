import RouteTree.Codegen.Identifier
import RouteTree.Codegen.Item
import RouteTree.Codegen.Settings
import RouteTree.Codegen.Token

/-!
# The generated module

The module holds a record of parameters for each route, an enum of all route
ids with their texts, parents and navigation targets, and the absolute targets
of the whole table.
-/

namespace RouteTree.Codegen

open Params
open Token (words parens brackets braces separated attributed literal documentation
  fixedDocumentation)

private def name (text : String) : Token := .word (identifierText text)

/-! ## Records of parameters -/

/-- What a field holds. -/
def fieldType : Need → List Token
  | .required => words "String"
  | .optional => words "Option < String >"

/-- The attribute that a field needs to be serialized under its parameter. -/
def serializationAttribute (options : SerializationOptions) : List Token :=
  let renamed := options.rename.toList.map fun key => words "rename =" ++ [literal key]
  let skipped :=
    if options.optional then
      [words "default", words "skip_serializing_if = \"Option::is_none\""]
    else []
  match renamed ++ skipped with
  | [] => []
  | parts => attributed [.word "serde", parens (separated parts)]

def fieldTokens (settings : Settings) (field : Field) : List Token :=
  (if settings.deriveSerialization then serializationAttribute field.serialization else []) ++
    words "pub" ++ [name field.name] ++ words ":" ++ fieldType field.need

/-- The statement that stores a value under the name of its parameter. -/
def insertion (param : String) (value : List Token) : List Token :=
  words "map . insert" ++
    [parens ([literal param] ++ words ". to_string" ++ [parens []] ++ words "," ++ value)] ++
    words ";"

/-- The statement that stores a field, if it has a value. -/
def fieldInsertion (field : Field) : List Token :=
  match field.need with
  | .required => insertion field.param (words "self ." ++ [name field.name])
  | .optional =>
      words "if let Some" ++ [parens (words "value")] ++ words "= self ." ++
        [name field.name, braces (insertion field.param (words "value"))]

/-- The body that turns a record into a map. -/
def mapBody (fields : List Field) : List Token :=
  let empty := words "BTreeMap :: new" ++ [parens []]
  if fields.isEmpty then empty
  else words "let mut map =" ++ empty ++ words ";" ++ fields.flatMap fieldInsertion ++ words "map"

def recordDerives (settings : Settings) : List Token :=
  let serde :=
    if settings.deriveSerialization then [words "serde :: Serialize", words "serde :: Deserialize"]
    else []
  attributed [.word "derive", parens (separated
    ([words "Debug", words "Clone", words "Default", words "PartialEq", words "Eq"] ++ serde))]

/-- The record of the parameters of a route. -/
def recordTokens (settings : Settings) (item : Item) : List Token :=
  documentation (" Params of `" ++ item.id ++ "`: `" ++ Shape.text item.shape ++ "`") ++
    recordDerives settings ++
    words "pub struct" ++
    [name item.recordName, braces (separated (item.fields.map (fieldTokens settings)))] ++
    words "impl" ++
    [name item.recordName, braces (
      fixedDocumentation "Params keyed by their pattern names, ready for path building" ++
        words "pub fn into_map" ++ [parens (words "self")] ++
        words "-> BTreeMap < String , String >" ++ [braces (mapBody item.fields)])]

/-! ## The enum of route ids -/

/-- A variant with the name of the enum. -/
def variantPath (variant : String) : List Token :=
  words "RouteId ::" ++ [name variant]

/-- One arm for each variant. -/
def arms (results : List (String × List Token)) : Token :=
  braces (results.flatMap fun (variant, result) =>
    variantPath variant ++ words "=>" ++ result ++ words ",")

/-- A method that gives a result for each variant. -/
def methodTokens (methodName : String) (resultType : List Token)
    (results : List (String × List Token)) : List Token :=
  words "pub fn" ++ [.word methodName, parens (words "self")] ++ words "->" ++ resultType ++
    [braces (words "match self" ++ [arms results])]

def parentTokens (items : List Item) (item : Item) : List Token :=
  match item.parentId.bind (variantOf? items) with
  | some parent => words "Some" ++ [parens (variantPath parent)]
  | none => words "None"

/-- A list of literals that lives as long as the program. -/
def literalList (texts : List String) : List Token :=
  [.word "&", brackets (separated (texts.map fun text => [literal text]))]

/-- The variants of the enum, each with its id. -/
def enumTokens (items : List Item) : List Token :=
  fixedDocumentation "Every route id in the table" ++
    attributed [.word "derive", parens (separated
      [words "Debug", words "Clone", words "Copy", words "PartialEq", words "Eq",
        words "Hash"])] ++
    words "pub enum RouteId" ++
    [braces (items.flatMap fun item =>
      documentation (" `" ++ item.id ++ "`") ++ [name item.variant] ++ words ",")]

/-- The list of all variants. -/
def allTokens (items : List Item) : List Token :=
  words "pub const ALL :" ++
    [brackets (words ("RouteId ; " ++ toString items.length ++ "usize"))] ++
    words "=" ++ [brackets (separated (items.map fun item => variantPath item.variant))] ++
    words ";"

/-- The search for the variant with an id. -/
def lookupTokens : List Token :=
  words "pub fn from_id" ++ [parens (words "id : & str")] ++ words "-> Option < RouteId >" ++
    [braces (
      words "RouteId :: ALL . iter" ++ [parens []] ++ words ". copied" ++ [parens []] ++
        words ". find" ++
        [parens (words "| route | route . as_str" ++ [parens []] ++ words "== id")])]

/-- The targets of each variant, unless they are not wanted. -/
def targetsTokens (targets : Option (List (String × SortedSet String))) : List Token :=
  match targets with
  | none => []
  | some known =>
      fixedDocumentation "Navigation targets allowed from this route" ++
        methodTokens "paths" (words "& 'static" ++ [brackets (words "& 'static str")])
          (known.map fun (variant, found) => (variant, literalList found.toList))

/-- The enum of route ids with its methods. -/
def routeIdTokens (items : List Item)
    (targets : Option (List (String × SortedSet String))) : List Token :=
  enumTokens items ++ words "impl RouteId" ++
    [braces (
      allTokens items ++
        methodTokens "as_str" (words "& 'static str")
          (items.map fun item => (item.variant, [literal item.id])) ++
        lookupTokens ++
        methodTokens "parent" (words "Option < RouteId >")
          (items.map fun item => (item.variant, parentTokens items item)) ++
        targetsTokens targets)]

/-! ## The module -/

/-- The absolute targets, unless they are not wanted. -/
def absoluteTokens (targets : Option (SortedSet String)) : List Token :=
  match targets with
  | none => []
  | some targets =>
      fixedDocumentation "Absolute paths of every route" ++
        words "pub const ABSOLUTE_PATHS : &" ++ [brackets (words "& str")] ++ words "=" ++
        literalList targets.toList ++ words ";"

def paramsTokens (settings : Settings) (items : List Item) : List Token :=
  if settings.emitParams then
    words "use std :: collections :: BTreeMap ;" ++ items.flatMap (recordTokens settings)
  else []

/-- The targets of each variant, if the settings want them. -/
def variantTargets (table : Table) (settings : Settings) (items : List Item) :
    Except RouteError (Option (List (String × SortedSet String))) :=
  if settings.emitPaths then
    (items.mapM fun item => (table.targets item.id).map (item.variant, ·)).map some
  else .ok none

/-- The absolute targets of a table, if the settings want them. -/
def wantedAbsoluteTargets (table : Table) (settings : Settings) :
    Except RouteError (Option (SortedSet String)) :=
  if settings.emitPaths then table.absoluteTargets.map some else .ok none

/-- The source of the module for a table. The name of the module is checked
before anything is generated. -/
def source (table : Table) (settings : Settings) : Except RouteError String :=
  match identifierOfText? settings.moduleName with
  | none => .error (.invalidIdentifier settings.moduleName)
  | some moduleName =>
      (itemsOf table).bind fun items =>
        (variantTargets table settings items).bind fun targets =>
          (wantedAbsoluteTargets table settings).map fun absolute =>
            let tokens :=
              attributed [.word "allow", parens (words "dead_code")] ++ words "pub mod" ++
                [.word moduleName, braces (
                  paramsTokens settings items ++ routeIdTokens items targets ++
                    absoluteTokens absolute)]
            "// @generated by typesafe-router. Do not edit by hand.\n\n" ++
              Token.print tokens ++ "\n"

end RouteTree.Codegen
