import Courier.Cli.Files
import Courier.Cli.Network
import Courier.Cli.Program

/-!
The command line: arguments and files come in, and what the run prints goes out.
-/

namespace Courier.Cli

/-- The paths that a command line reads or writes. -/
def paths (args : List String) : List String :=
  match Arguments.parse args with
  | .ok a => a.options.config.toList.flatMap fun p => [p, Settings.stagingPath p]
  | .error _ => []

/-- A run brought to its end: its request is sent, if it waits for an answer. -/
def Run.complete : Run → IO Ending
  | .ended e => return e
  | .waiting w => do
    match w.client.prepare w.request with
    | .error e => return w.finish (.error e)
    | .ok (u, seen) =>
      match ← (Network.ask u seen w.timeoutMs).block with
      | none => return .interrupted
      | some peer => return w.finish (w.client.exchange (fun _ => peer) w.request).result

end Courier.Cli

open Courier.Cli in
/-- The command line with these arguments run: its exit code. -/
def main (args : List String) : IO UInt32 := do
  let before ← Files.load (paths args)
  let (run, after) := Run.start args before
  Files.store before after
  let ending ← run.complete
  IO.print ending.output
  IO.eprint ending.errors
  return ending.code.toUInt32
