import RouteTree.Files.Store
import RouteTree.Text.FileName

/-!
# Trees of files

A tree of files in memory, seen from its top directory. Paths may go up again,
but not out of the tree. As in most file systems, neither a name nor a path may
be too long.
-/

namespace RouteTree

/-- What stands under a name in a directory. -/
inductive FileNode where
  | file (text : String)
  | directory (entries : List (String × FileNode))

/-- The names in a directory, with what stands under them. -/
abbrev Directory := List (String × FileNode)

structure FileTree where
  top : Directory := []

/-- The bytes of the longest name. -/
def longestName : Nat := 255

/-- The bytes of the longest path. -/
def longestPath : Nat := 4095

/-- Replaces what stands under a name. -/
def Directory.put (directory : Directory) (name : String) (node : FileNode) : Directory :=
  (name, node) :: directory.filter fun entry => entry.1 ≠ name

/-! ## Places -/

/-- A directory together with the way up from it: the names that lead to it,
nearest first, each with the directory that it is in. -/
structure FilePlace where
  here : Directory
  above : List (String × Directory) := []

namespace FilePlace

/-- The place of a directory that is here under the given name. -/
def into (place : FilePlace) (name : String) (inner : Directory) : FilePlace :=
  ⟨inner, (name, place.here) :: place.above⟩

/-- The place above, which keeps what has changed here. -/
def up? (place : FilePlace) : Option FilePlace :=
  match place.above with
  | [] => none
  | (name, outer) :: above => some ⟨outer.put name (.directory place.here), above⟩

/-- Goes into a directory. -/
def enter? (place : FilePlace) (name : String) : Option FilePlace :=
  match place.here.lookup name with
  | some (.directory inner) => some (place.into name inner)
  | _ => none

/-- Goes into a directory, which is made if nothing has its name. -/
def enterNew? (place : FilePlace) (name : String) : Option FilePlace :=
  match place.here.lookup name with
  | some (.directory inner) => some (place.into name inner)
  | some (.file _) => none
  | none => if longestName < name.utf8ByteSize then none else some (place.into name [])

/-- Follows one name of a path; `down?` tells how to go into a directory. -/
def step? (down? : FilePlace → String → Option FilePlace) (place : FilePlace)
    (name : String) : Option FilePlace :=
  if Text.isIdleName name then some place
  else if name = ".." then place.up?
  else down? place name

/-- Follows names through directories that are there. -/
def follow? (place : FilePlace) (names : List String) : Option FilePlace :=
  names.foldlM (step? enter?) place

/-- Follows names and makes the directories that are missing. -/
def followNew? (place : FilePlace) (names : List String) : Option FilePlace :=
  names.foldlM (step? enterNew?) place

/-- The top directory, once all that has changed on the way down is kept. -/
def topOf (here : Directory) : List (String × Directory) → Directory
  | [] => here
  | (name, outer) :: above => topOf (outer.put name (.directory here)) above

/-- The tree that the place is in. -/
def tree (place : FilePlace) : FileTree where
  top := topOf place.here place.above

/-- Replaces the text of a file in this directory. -/
def writeHere? (place : FilePlace) (name text : String) : Option FilePlace :=
  if Text.isIdleName name || name = ".." || longestName < name.utf8ByteSize then none
  else
    match place.here.lookup name with
    | some (.directory _) => none
    | _ => some { place with here := place.here.put name (.file text) }

end FilePlace

namespace FileTree

/-- The place of the top directory. -/
def root (tree : FileTree) : FilePlace where
  here := tree.top

/-- The names of a path that does not leave the tree and is not too long. -/
def names? (path : String) : Option (List String) :=
  if path.toList.head? = some '/' || longestPath < path.utf8ByteSize then none
  else some (Text.cutAtSlashes path)

/-- The directory that a path leads into, and the last name of the path. -/
def locate? (tree : FileTree) (path : String) : Option (FilePlace × String) :=
  (names? path).bind fun names =>
    (tree.root.follow? names.dropLast).bind fun place =>
      names.getLast?.map fun name => (place, name)

def read? (tree : FileTree) (path : String) : Option String :=
  (tree.locate? path).bind fun (place, name) =>
    match place.here.lookup name with
    | some (.file text) => some text
    | _ => none

def makeDirectory? (tree : FileTree) (path : String) : Option FileTree :=
  (names? path).bind fun names => (tree.root.followNew? names).map FilePlace.tree

def write? (tree : FileTree) (path text : String) : Option FileTree :=
  (tree.locate? path).bind fun (place, name) =>
    (place.writeHere? name text).map FilePlace.tree

/-- The tree of a list of files, with the directories that they are in. -/
def ofFiles (files : List (String × String)) : FileTree :=
  files.foldl
    (fun tree (path, text) =>
      let ready := (tree.makeDirectory? ((Text.directory? path).getD "")).getD tree
      (ready.write? path text).getD ready)
    {}

/-- Goes on with the changed tree, if there is one. -/
def change (next : FileTree → Option FileTree) : StateM FileTree Bool := fun tree =>
  match next tree with
  | some tree => (true, tree)
  | none => (false, tree)

/-- A tree of files as a store. -/
def store : FileStore (StateM FileTree) where
  read? path := fun tree => (tree.read? path, tree)
  makeDirectory path := change fun tree => tree.makeDirectory? path
  write path text := change fun tree => tree.write? path text

end FileTree

end RouteTree
