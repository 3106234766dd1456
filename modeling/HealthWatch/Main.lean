import HealthWatch.Startup
/-!
# The command line

The service starts from the variables of the environment and the manifest. Events then come line
by line on standard input: `publish`, or a method and a target such as `GET /health`. The end of the
input stops the service. Nothing is sent from here: to the checks every endpoint is out of reach.
-/

namespace HealthWatch.CommandLine

def readEnvironment : IO Environment := do
  let set ← Settings.keys.filterMapM fun key => do return (← IO.getEnv key).map (key, ·)
  return fun key => set.lookup key

def readSource (path : String) : IO Manifest.Source := do
  try
    return .bytes (← IO.FS.readBinFile path).toList
  catch
    | .noFileOrDirectory .. => return .missing
    | .inappropriateType .. => return .directory
    | e => throw e

def event? (line : String) : Option Service.Event :=
  match (Text.fields ' ' (Text.trim line.toList)).map String.ofList with
  | ["publish"] => some .publish
  | [method, url] => some (.request { method, url })
  | _ => none

def print : Service.Answer → IO Unit
  | .response r => do
    IO.println (Numeral.text r.code ++ " " ++ r.contentType.getD "")
    IO.println (String.ofList r.body)
  | .readiness _ => pure ()
  | .round r => IO.println (String.ofList (Dashboard.ofVerdict r.evaluation.verdict).text)

/-- Handles the events of the input until it ends. -/
partial def handleAll (s : Service) (input : IO.FS.Stream) (state : ServiceState) : IO Unit := do
  let line ← input.getLine
  if line.isEmpty then return
  match event? line with
  | some event =>
    let answer := s.handle state (← IO.monoMsNow) event
    print answer.2
    handleAll s input answer.1
  | none => handleAll s input state

def report (entries : List LogEntry) : IO Unit := entries.forM fun e => IO.eprintln e.message

end HealthWatch.CommandLine

open HealthWatch in
/-- Starts the service and runs it until the input ends. -/
def main : IO UInt32 := do
  let env ← CommandLine.readEnvironment
  let path := (Settings.value? env Settings.manifestKey).getD Settings.defaultManifest
  let source ← CommandLine.readSource path
  match (Startup.boot env (fun _ => source) .isolated).result with
  | (.ok (_, s), log) => do
    CommandLine.report log
    CommandLine.handleAll s (← IO.getStdin) { ready := true }
    CommandLine.report (Startup.shutdownLog .terminate)
    return 0
  | (.error fault, log) => do
    CommandLine.report log
    IO.eprintln (Run.faultLine fault)
    return 1
