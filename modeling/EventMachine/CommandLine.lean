import EventMachine.Notice

/-!
# Command line

The arguments of the program: an optional setup file, and one of three requests.
-/

namespace EventMachine

inductive Request
  | check (machine : String)
  | run (machine script : String) (asJson : Bool)
  | prompt (machine : String)
  deriving DecidableEq, Repr

structure CommandLine where
  setup : Option String
  request : Request
  deriving DecidableEq, Repr

namespace CommandLine

/-- Takes the option that names the setup file, wherever it stands; it must have a value and must
not be repeated. -/
def takeSetup : List String → Option (Option String × List String)
  | [] => some (none, [])
  | [a] => if a = "-c" ∨ a = "--config" then none else some (none, [a])
  | a :: b :: rest =>
    if a = "-c" ∨ a = "--config" then
      (takeSetup rest).bind fun p ↦ if p.1.isSome then none else some (some b, p.2)
    else (takeSetup (b :: rest)).map fun p ↦ (p.1, a :: p.2)

def request? : List String → Option Request
  | ["check", machine] => some (.check machine)
  | ["repl", machine] => some (.prompt machine)
  | "run" :: rest =>
    let flags := rest.filter (· = "--json")
    match rest.filter (· ≠ "--json") with
    | [machine, script] =>
      if flags.length ≤ 1 then some (.run machine script (flags.length = 1)) else none
    | _ => none
  | _ => none

def ofArguments? (args : List String) : Option CommandLine := do
  let (setup, rest) ← takeSetup args
  let request ← request? rest
  return { setup, request }

def levels (setting : String) : List Level :=
  match setting with
  | "error" => [.error]
  | "warn" => [.error, .warn]
  | "debug" | "trace" => [.error, .warn, .info, .debug]
  | "off" => []
  | _ => [.error, .warn, .info]

def usage : String :=
  "Usage: jsonfsm [--config <FILE>] check <MACHINE>\n" ++
  "       jsonfsm [--config <FILE>] run [--json] <MACHINE> <EVENTS>\n" ++
  "       jsonfsm [--config <FILE>] repl <MACHINE>"

end CommandLine

end EventMachine
