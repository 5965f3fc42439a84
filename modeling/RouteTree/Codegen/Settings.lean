namespace RouteTree.Codegen

/-- What the generated module is called and which parts it has. -/
structure Settings where
  moduleName : String := "routes"
  /-- Emit the navigation targets. -/
  emitPaths : Bool := true
  /-- Emit a record of parameters for each route. -/
  emitParams : Bool := true
  /-- Let the records of parameters be serialized. -/
  deriveSerialization : Bool := false
deriving DecidableEq, Repr

end RouteTree.Codegen
