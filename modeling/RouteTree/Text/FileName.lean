import RouteTree.Text.Slashes

/-!
# File names

A path is a list of names between slashes. Empty names and single dots lead
nowhere, so they do not count, except that a path may start with one.
-/

namespace RouteTree.Text

/-- Whether a name leads nowhere. -/
def isIdleName (name : String) : Bool := name = "" || name = "."

/-- The names of a path that count. -/
def pathNames (path : String) : List String :=
  (cutAtSlashes path).filter fun name => !isIdleName name

/-- The last name of a path, unless it leads upwards. -/
def fileName? (path : String) : Option String :=
  match (pathNames path).getLast? with
  | some name => if name = ".." then none else some name
  | none => none

/-- What follows the last point of a file name; a point at the very start does
not count. -/
def extension? (path : String) : Option String :=
  (fileName? path).bind fun name =>
    match (name.toList.splitOn '.').reverse with
    | ending :: before :: others =>
        if before.isEmpty && others.isEmpty then none else some (String.ofList ending)
    | _ => none

/-- Drops names that lead nowhere from the front, but never the last name of
the list. -/
def dropIdleNames : List String → List String
  | [] => []
  | [name] => [name]
  | name :: next :: rest =>
      if isIdleName name then dropIdleNames (next :: rest) else name :: next :: rest

/-- The path of the directory that a path is in. It is empty for a single name;
the root and the empty path are in no directory. -/
def directory? (path : String) : Option String :=
  match dropIdleNames (cutAtSlashes path).reverse with
  | [] => none
  | [name] => if name = "" then none else some ""
  | _ :: above =>
      let names := (dropIdleNames above).reverse
      some (if names = [""] then "/" else "/".intercalate names)

end RouteTree.Text
