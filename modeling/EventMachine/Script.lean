import EventMachine.File
import EventMachine.Text.Blank
import EventMachine.Text.Decimal

/-!
# Event scripts

A script has one event per line: the source, white space, and the payload, which is the rest of the
line.  White space at both ends of a line is dropped, and blank lines and lines that start with `#`
are skipped.  The first line that is none of these is reported.
-/

namespace EventMachine

open EventMachine.Text

/-- An event of a script with the number of its line, counted from 1. -/
structure ScriptEvent where
  line : Nat
  source : UInt32
  payload : String
  deriving DecidableEq, Repr

inductive ScriptFault
  | badSource (word : String)
  | noPayload
  deriving DecidableEq, Repr

def ScriptFault.message : ScriptFault → String
  | badSource word => "invalid event source id '" ++ word ++ "'"
  | noPayload => "missing event payload"

structure ScriptError where
  line : Nat
  fault : ScriptFault
  deriving DecidableEq, Repr

def ScriptError.message (e : ScriptError) : String :=
  "script line " ++ decimal e.line ++ ": " ++ e.fault.message

namespace Script

/-- The event of a line, if it is not one to skip. -/
def event? (line : List Char) : Except ScriptFault (Option (UInt32 × String)) :=
  let cs := trim line
  if cs = [] ∨ cs.head? = some '#' then .ok none
  else
    let (word, rest) := (cutAtBlank cs).getD (cs, [])
    match readId word with
    | none => .error (.badSource (String.ofList word))
    | some source =>
      let payload := trim rest
      if payload = [] then .error .noPayload
      else .ok (some (source, String.ofList payload))

def eventsFrom (n : Nat) : List (List Char) → Except ScriptError (List ScriptEvent)
  | [] => .ok []
  | l :: ls =>
    match event? l with
    | .error fault => .error ⟨n, fault⟩
    | .ok e =>
      (eventsFrom (n + 1) ls).map fun es ↦ (e.map fun e ↦ ⟨n, e.1, e.2⟩).toList ++ es

/-- The lines of a text.  A carriage return before a line feed is left to be trimmed. -/
def lines (s : String) : List (List Char) := s.toList.splitOn '\n'

def read (s : String) : Except ScriptError (List ScriptEvent) := eventsFrom 1 (lines s)

end Script

end EventMachine
