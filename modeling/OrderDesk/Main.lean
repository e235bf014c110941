import OrderDesk.Api.Supplier
import OrderDesk.Api.Wire
import OrderDesk.Config
import Std.Time.DateTime.Timestamp

/-!
# The command line

Reads the settings from arguments and environment variables, opens a desk, and answers one request
per line until there are no more lines.  A product service that is set up is never reached from
here, because requests only come in.
-/

namespace OrderDesk.CommandLine

/-- The present point in time. -/
def now : IO Timestamp := do
  return .ofNanoseconds (← Std.Time.Timestamp.now).toNanosecondsSinceUnixEpoch.val

/-- An identifier that nothing has. -/
def freshId : IO Uuid := do
  let bytes ← IO.getRandomBytes 16
  return .ofRandom (Text.ofDigits 256 (bytes.toList.map (·.toNat)))

/-- Answers one request. -/
def respond {κ : Type} (supplier : Nat → Supplier κ) (desk : Desk κ) (incoming : Incoming) :
    IO (Desk κ × ApiResponse) := do
  if incoming.monitor then return (desk, desk.metrics.answer incoming.request)
  let started ← IO.monoNanosNow
  let (desk, response) :=
    desk.answer (supplier (started / 1000000)) (← freshId) (← now) incoming.request
  let seconds := Float.ofNat ((← IO.monoNanosNow) - started) / 1000000000
  return (desk.count incoming.request response seconds, response)

/-- Answers a request per line. -/
partial def serve {κ : Type} (supplier : Nat → Supplier κ) (desk : Desk κ) : IO Unit := do
  let line ← (← IO.getStdin).getLine
  if line.isEmpty then return
  let output ← IO.getStdout
  match (Json.parse? line).bind Incoming.ofJson? with
  | none =>
    output.putStrLn (ApiResponse.empty 400).toJson.text
    output.flush
    serve supplier desk
  | some incoming =>
    let (desk, response) ← respond supplier desk incoming
    output.putStrLn response.toJson.text
    output.flush
    serve supplier desk

/-- Opens a desk and answers requests. -/
def openDesk {κ : Type} (supplier : Nat → Supplier κ) (catalog : κ) (c : Config) : IO UInt32 := do
  match Desk.start catalog .builtIn c.seed (← now) with
  | .error e =>
    IO.eprintln e.message
    return 1
  | .ok desk =>
    serve supplier desk
    return 0

/-- Runs with settings. -/
def run (c : Config) : IO UInt32 :=
  match c.catalogUrl with
  | none => openDesk (fun _ => .builtIn) .builtIn c
  | some url =>
    openDesk (.remote (.make url c.catalogToken c.breaker) fun _ => .noConnection) .closed c

/-- The environment variables that settings are taken from. -/
def environment : IO (List (String × String)) :=
  Config.Setting.all.filterMapM fun s => do
    return (← IO.getEnv s.environmentName).map fun value => (s.environmentName, value)

end OrderDesk.CommandLine

open OrderDesk in
/-- Reads the settings and runs. -/
def main (args : List String) : IO UInt32 := do
  match Config.parse args (← CommandLine.environment) with
  | .ok c => CommandLine.run c
  | .error .helpRequested =>
    IO.println Config.usage
    return 0
  | .error e =>
    IO.eprintln ("error: " ++ e.message)
    IO.eprintln Config.usage
    return 2
