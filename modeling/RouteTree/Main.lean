import RouteTree.Command.Run

/-!
# The program

Files are those of the machine; everything else is decided by the commands.
-/

namespace RouteTree

/-- Whether an action succeeded. -/
def succeeds (action : IO Unit) : IO Bool := do
  try
    action
    return true
  catch _ => return false

/-- The files of the machine as a store. -/
def machineFiles : FileStore IO where
  read? path := do
    try
      return some (← IO.FS.readFile path)
    catch _ => return none
  makeDirectory path := succeeds (IO.FS.createDirAll path)
  write path text := succeeds (IO.FS.writeFile path text)

end RouteTree

def main (arguments : List String) : IO UInt32 := do
  let outcome ← RouteTree.Command.execute RouteTree.machineFiles arguments
  (← IO.getStdout).putStr outcome.output
  (← IO.getStderr).putStr (outcome.log ++ outcome.complaint)
  return outcome.code.toUInt32
