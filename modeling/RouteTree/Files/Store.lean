namespace RouteTree

/-- What a program can do with files, wherever they are kept. -/
structure FileStore (m : Type → Type) where
  /-- The text of a file, if there is one that can be read. -/
  read? (path : String) : m (Option String)
  /-- Makes a directory together with those above it, and tells whether it is
  there now. -/
  makeDirectory (path : String) : m Bool
  /-- Replaces the text of a file, and tells whether that was possible. -/
  write (path text : String) : m Bool

end RouteTree
