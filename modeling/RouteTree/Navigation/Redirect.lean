import RouteTree.Json.Record

/-!
# Redirects

A redirect answers a request with another location. The router decides how one
is made from a location and what its author asked for.
-/

namespace RouteTree

/-- What the author of a response asked for. -/
structure ResponseInit where
  status : Option UInt16 := none
  headers : List (String × String) := []
deriving DecidableEq, Repr

structure Redirect where
  location : String
  status : UInt16
  headers : List (String × String)
deriving DecidableEq, Repr

/-- How a router makes a redirect to a location, with what was asked for. -/
abbrev RedirectMaker := String → Option ResponseInit → Redirect

namespace Redirect

/-- Unless another status is asked for, the location is found elsewhere. -/
def standard : RedirectMaker := fun location init =>
  let asked := init.getD {}
  { location, status := asked.status.getD 302, headers := asked.headers }

/-- The text shown for a redirect that nobody follows. -/
def text (redirect : Redirect) : String :=
  "redirect to '" ++ redirect.location ++ "' (" ++ Nat.repr redirect.status.toNat ++ ")"

end Redirect

/-! ## In JSON -/

def headersToJson (headers : List (String × String)) : Json :=
  .array (headers.map fun (name, value) => .array [.text name, .text value])

def Redirect.toJson (redirect : Redirect) : Json :=
  .object [("location", .text redirect.location),
    ("status", .integer redirect.status.toNat), ("headers", headersToJson redirect.headers)]

namespace ResponseInit

def fieldNames : List String := ["status", "headers"]

def ofJson? (value : Json) : Option ResponseInit :=
  match Json.recordFields? .refused fieldNames value with
  | some [status, headers] =>
      (Json.fieldOr? none (Json.nullable? Json.word16?) status).bind fun status =>
        (Json.fieldOr? [] (Json.list? Json.textPair?) headers).map fun headers =>
          { status, headers }
  | _ => none

/-- Both fields are always written. -/
def toJson (init : ResponseInit) : Json :=
  .object [("status", init.status.elim .null fun status => .integer status.toNat),
    ("headers", headersToJson init.headers)]

end ResponseInit

end RouteTree
