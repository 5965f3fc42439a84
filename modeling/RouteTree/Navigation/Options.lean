import RouteTree.Json.Record

/-!
# Options of navigations and submissions

The router takes these options as they are. Options that are not given are not
written, apart from `replace`.
-/

namespace RouteTree

structure NavigateOptions where
  /-- Replace the current history entry instead of adding one. -/
  replace : Bool := false
  /-- Kept with the history entry. -/
  state : Option Json := none
deriving Repr

namespace NavigateOptions

def fieldNames : List String := ["replace", "state"]

def ofJson? (value : Json) : Option NavigateOptions :=
  match Json.recordFields? .refused fieldNames value with
  | some [replace, state] =>
      (Json.fieldOr? false Json.bool? replace).map fun replace =>
        { replace, state := state.bind Json.nullable }
  | _ => none

def toJson (options : NavigateOptions) : Json :=
  .object <|
    [("replace", .bool options.replace)] ++
    (options.state.toList.map fun state => ("state", state))

end NavigateOptions

structure SubmitOptions where
  method : Option String := none
  /-- How the submitted data is encoded. -/
  encoding : Option String := none
  /-- Replace the current history entry instead of adding one. -/
  replace : Bool := false
deriving DecidableEq, Repr

namespace SubmitOptions

def fieldNames : List String := ["method", "enc_type", "replace"]

def ofJson? (value : Json) : Option SubmitOptions :=
  match Json.recordFields? .refused fieldNames value with
  | some [method, encoding, replace] =>
      (Json.fieldOr? none Json.nullableText? method).bind fun method =>
        (Json.fieldOr? none Json.nullableText? encoding).bind fun encoding =>
          (Json.fieldOr? false Json.bool? replace).map fun replace =>
            { method, encoding, replace }
  | _ => none

def toJson (options : SubmitOptions) : Json :=
  .object <|
    (options.method.toList.map fun method => ("method", .text method)) ++
    (options.encoding.toList.map fun encoding => ("enc_type", .text encoding)) ++
    [("replace", .bool options.replace)]

end SubmitOptions

end RouteTree
