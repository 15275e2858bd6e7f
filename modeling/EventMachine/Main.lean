import EventMachine.CommandLine
import EventMachine.Prompt
import EventMachine.Summary

/-!
# The program

Reads the arguments, the environment and the files, asks for the answer, and prints it.  Notices go
to the standard error stream.
-/

namespace EventMachine.CommandLine

def readText (path : String) : IO FileText := do
  try
    return FileText.ofBytes (← IO.FS.readBinFile path)
  catch
    | .noFileOrDirectory .. => return .error .missing
    | e => return .error (.other (toString e))

def tell (shown : List Level) (notices : List Notice) : IO Unit := do
  for n in notices do
    if n.level ∈ shown then
      IO.eprintln (n.level.name ++ ": " ++ n.message)

def fail (colors : Bool) (code : UInt32) (message : String) : IO UInt32 := do
  IO.eprintln (paint colors .red "Error" ++ ": " ++ message)
  return code

partial def converse (colors : Bool) (shown : List Level) (x : Session) : IO Unit := do
  let out ← IO.getStdout
  out.putStr (Prompt.mark colors)
  out.flush
  let line ← (← IO.getStdin).getLine
  let t := Prompt.turn colors x (if line.isEmpty then .endOfInput else .line line)
  tell shown t.notices
  for s in t.printed do
    IO.println s
  match t.next with
  | some y => converse colors shown y
  | none => return ()

def finish (colors : Bool) (result : Except SessionError String) : IO UInt32 := do
  match result with
  | .ok s =>
    if s ≠ "" then IO.println s
    return 0
  | .error e => fail colors 1 e.message

end EventMachine.CommandLine

open EventMachine EventMachine.CommandLine in
def main (args : List String) : IO UInt32 := do
  let colors := (← (← IO.getStdout).isTty) && (← IO.getEnv "NO_COLOR").isNone
  match ofArguments? args with
  | none =>
    IO.eprintln usage
    return 2
  | some line =>
    let level ← IO.getEnv "JSONFSM_LOG_LEVEL"
    let kind ← IO.getEnv "JSONFSM_DEFAULT_DEVICE"
    let stop ← IO.getEnv "JSONFSM_STOP_ON_FINAL"
    let env : Setup.Environment := fun k ↦
      [("JSONFSM_LOG_LEVEL", level), ("JSONFSM_DEFAULT_DEVICE", kind),
        ("JSONFSM_STOP_ON_FINAL", stop)].lookup k |>.join
    let path ← match line.setup with
      | some path => pure (some path)
      | none => IO.getEnv "JSONFSM_CONFIG"
    let file ← path.mapM fun p ↦ do return (p, ← readText p)
    let (loaded, notices) := Setup.load env file
    match loaded with
    | .error e => fail colors 2 e.message
    | .ok setup =>
      let shown := levels setup.logLevel
      tell shown notices
      match line.request with
      | .check machine => finish colors (checkFile colors machine (← readText machine))
      | .run machine script asJson =>
        let events ← readText script
        let (result, notices) :=
          replayFiles colors asJson setup machine (← readText machine) script events
        tell shown notices
        finish colors result
      | .prompt machine =>
        let (opened, notices) := Session.ofFile setup machine (← readText machine)
        tell shown notices
        match opened with
        | .error e => fail colors 1 e.message
        | .ok x =>
          for s in Prompt.intro colors x do
            IO.println s
          converse colors shown x
          return 0
