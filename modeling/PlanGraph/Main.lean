import PlanGraph.Server.Message

/-!
# The tool server as a program

Reads messages from standard input, one on a line, and writes the replies to standard output.
-/

namespace PlanGraph

/-- The environment of the process, as far as settings are read from it. -/
def processEnvironment : IO Environment := do
  let values ← Settings.variableNames.mapM fun name => do
    pure (name, ← IO.getEnv name)
  pure fun name => (values.lookup name).join

/-- A supply that starts anywhere. -/
def freshSupply : IO Supply := do
  let bytes ← IO.getRandomBytes 16
  pure (.countingFrom (bytes.toList.foldl (fun total byte => 256 * total + byte.toNat) 0))

/-- Answers lines until the input ends. -/
partial def serve (settings : Settings) (supply : Supply) : IO Unit := do
  let line ← (← IO.getStdin).getLine
  if line.isEmpty then return
  let (reply?, rest) := Server.lineReply? settings line supply
  if let some reply := reply? then
    let output ← IO.getStdout
    output.putStrLn reply
    output.flush
  serve settings rest

end PlanGraph

/-- Launches the server, or tells why it cannot be launched. -/
def main : IO UInt32 := do
  match PlanGraph.Settings.forLaunch (← PlanGraph.processEnvironment) with
  | .ok settings =>
    PlanGraph.serve settings (← PlanGraph.freshSupply)
    return 0
  | .error fault =>
    IO.eprintln fault.message
    return 1
