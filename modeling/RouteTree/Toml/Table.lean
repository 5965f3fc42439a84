import RouteTree.Json.Value

/-!
# Tables in TOML

A table can be opened by a header, come into being because a header or a
dotted key leads through it, or be an element of an array of tables. A table
that a header opened cannot be opened again, and dotted keys only add to
tables that dotted keys have made.
-/

namespace RouteTree.Toml

/-- How a table came into being. -/
inductive Origin where
  /-- A header opened it, or it is the document or an inline table. -/
  | opened
  /-- A header leads through it. -/
  | implied
  /-- A dotted key leads through it. -/
  | dotted
deriving DecidableEq, Repr

inductive Entry where
  | value (value : Json)
  | table (origin : Origin) (entries : List (String × Entry))
  /-- An array of tables, all opened by headers. -/
  | tables (elements : List (List (String × Entry)))
deriving Repr

/-- A table with its origin. -/
structure Table where
  origin : Origin
  entries : List (String × Entry)
deriving Repr

namespace Table

def empty (origin : Origin) : Table := ⟨origin, []⟩

def find? (table : Table) (key : String) : Option Entry :=
  (table.entries.find? (·.1 = key)).map Prod.snd

/-- Replaces the entry under a key, or adds it at the end. -/
def set (table : Table) (key : String) (entry : Entry) : Table :=
  if (table.find? key).isSome then
    { table with
      entries := table.entries.map fun other => if other.1 = key then (key, entry) else other }
  else { table with entries := table.entries ++ [(key, entry)] }

/-- Changes the table that a path of keys leads to. Missing tables are made on
the way; in an array of tables the last element is meant. -/
def updateAt (viaDots : Bool) (change : Table → Option Table) :
    List String → Table → Option Table
  | [], table => change table
  | key :: rest, table =>
      match table.find? key with
      | none =>
          (updateAt viaDots change rest (empty (if viaDots then .dotted else .implied))).map
            fun inner => table.set key (.table inner.origin inner.entries)
      | some (.value _) => none
      | some (.table origin entries) =>
          if viaDots && origin = .opened then none
          else
            (updateAt viaDots change rest ⟨origin, entries⟩).map
              fun inner => table.set key (.table inner.origin inner.entries)
      | some (.tables elements) =>
          (updateAt viaDots change rest ⟨.opened, elements.getLast?.getD []⟩).map
            fun inner => table.set key (.tables (elements.dropLast ++ [inner.entries]))

/-- Adds a value under a dotted key. -/
def addPair (path : List String) (value : Json) (table : Table) : Option Table :=
  match path.reverse with
  | [] => none
  | key :: above =>
      let insert (inner : Table) : Option Table :=
        let misplaced := above.isEmpty = decide (inner.origin = .dotted)
        if misplaced || (inner.find? key).isSome then none
        else some (inner.set key (.value value))
      updateAt true insert above.reverse table

/-- Opens the table of a header. -/
def openTable (path : List String) (root : Table) : Option Table :=
  match path.reverse with
  | [] => none
  | key :: above =>
      let enter (inner : Table) : Option Table :=
        match inner.find? key with
        | none => some (inner.set key (.table .opened []))
        | some (.table .implied entries) => some (inner.set key (.table .opened entries))
        | some _ => none
      updateAt false enter above.reverse root

/-- Opens one more element of an array of tables. -/
def openElement (path : List String) (root : Table) : Option Table :=
  match path.reverse with
  | [] => none
  | key :: above =>
      let enter (inner : Table) : Option Table :=
        match inner.find? key with
        | none => some (inner.set key (.tables [[]]))
        | some (.tables elements) => some (inner.set key (.tables (elements ++ [[]])))
        | some _ => none
      updateAt false enter above.reverse root

end Table

mutual

/-- What an entry holds, as a value. -/
def Entry.toJson : Entry → Json
  | .value value => value
  | .table _ entries => .object (entriesToJson entries)
  | .tables elements => .array (elementsToJson elements)

def entriesToJson : List (String × Entry) → List (String × Json)
  | [] => []
  | (key, entry) :: rest => (key, entry.toJson) :: entriesToJson rest

def elementsToJson : List (List (String × Entry)) → List Json
  | [] => []
  | entries :: rest => .object (entriesToJson entries) :: elementsToJson rest

end

def Table.toJson (table : Table) : Json := .object (entriesToJson table.entries)

end RouteTree.Toml
