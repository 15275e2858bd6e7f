import EventMachine.Report

/-!
# The prompt

An interactive session: lines are entered one after another and each is answered by a text, until
one of them or the end of input ends the loop.  Blank lines have no answer.  The command is the
first word of a line, in any case, and most commands have a short form.
-/

namespace EventMachine

open EventMachine.Text

namespace Prompt

def helpText : String :=
  "\nAvailable commands:\n" ++
  "  help                          Show this help\n" ++
  "  inject <source> <payload>     Inject an event\n" ++
  "  fire <trigger>                Fire a trigger by name\n" ++
  "  state                         Show the current state\n" ++
  "  reset                         Return to the initial state\n" ++
  "  journal                       Show and clear executed commands\n" ++
  "\n" ++
  "  quit, exit                    Exit the REPL\n"

inductive Order
  | help
  | quit
  | inject
  | fire
  | state
  | reset
  | journal
  deriving DecidableEq, Repr

def Order.words : Order → List String
  | help => ["help", "?"]
  | quit => ["quit", "exit", "q"]
  | inject => ["inject", "i"]
  | fire => ["fire", "f"]
  | state => ["state", "s"]
  | reset => ["reset"]
  | journal => ["journal", "j"]

def Order.all : List Order := [help, quit, inject, fire, state, reset, journal]

def Order.ofWord? (word : String) : Option Order :=
  Order.all.find? fun o ↦ lower word ∈ o.words

/-- A source and a payload, as they follow the order to inject an event. -/
def event? (cs : List Char) : Option (UInt32 × String) := do
  let (word, rest) ← cutAtBlank cs
  let source ← readId word
  let payload := trim rest
  if payload = [] then none else return (source, String.ofList payload)

def currentState (colors : Bool) (x : Session) : String :=
  stateLine colors x.machine.state x.machine.isFinal

def arrow (colors : Bool) (what : String) (x : Session) : String :=
  what ++ " => " ++ currentState colors x

structure Reply where
  text : String
  session : Session
  notices : List Notice := []

def triggerList (x : Session) : String :=
  let names := x.machine.triggers
  if names = [] then "-" else ", ".intercalate names

def journalText (colors : Bool) (entries : List JournalEntry) : String :=
  if entries = [] then paint colors .yellow "No entries"
  else "\n".intercalate (entries.map (JournalEntry.line colors))

/-- Carries out an order on the rest of its line; the order to quit has no reply. -/
def obey (colors : Bool) (x : Session) (rest : List Char) : Order → Option Reply
  | .help => some { text := helpText, session := x }
  | .quit => none
  | .inject =>
    match event? rest with
    | none => some { text := "Usage: inject <source> <payload>", session := x }
    | some (source, payload) =>
      let (r, y, notices) := x.step source payload
      some { text := arrow colors (r.outcome.line colors) y, session := y, notices }
  | .fire =>
    if rest = [] then some { text := "Usage: fire <trigger>", session := x }
    else
      let (o, y, notices) := x.fireTrigger (String.ofList rest)
      some { text := arrow colors (o.line colors) y, session := y, notices }
  | .state =>
    some { text := currentState colors x ++ "\n  triggers: " ++ triggerList x, session := x }
  | .reset => some { text := arrow colors "reset" x.reset, session := x.reset }
  | .journal =>
    let (entries, y) := x.drain
    some { text := journalText colors entries, session := y }

/-- The reply to a line that is not blank and has no white space at its ends. -/
def reply? (colors : Bool) (x : Session) (line : List Char) : Option Reply :=
  let (word, rest) := (cutAtBlank line).getD (line, [])
  let word := String.ofList word
  match Order.ofWord? word with
  | some o => obey colors x (trim rest) o
  | none =>
    some { text := "Unknown command: " ++ word ++ ". Type 'help' for help.", session := x }

inductive Input
  | line (s : String)
  | interrupt
  | endOfInput
  | failure (name : String)
  deriving DecidableEq, Repr

/-- The texts that an input prints, each to be followed by a line feed, and the session to go on
with. -/
structure Turn where
  printed : List String
  next : Option Session
  notices : List Notice := []

def turn (colors : Bool) (x : Session) : Input → Turn
  | .line s =>
    let line := trim s.toList
    if line = [] then { printed := [], next := some x }
    else
      match reply? colors x line with
      | none => { printed := [], next := none }
      | some r => { printed := [r.text ++ "\n"], next := some r.session, notices := r.notices }
  | .interrupt => { printed := ["^C"], next := some x }
  | .endOfInput => { printed := ["^D"], next := none }
  | .failure name => { printed := [paint colors .red "Error" ++ ": " ++ name], next := none }

/-- The texts printed for each input, up to the one that ends the loop. -/
def run (colors : Bool) (x : Session) : List Input → List (List String) × List Notice
  | [] => ([], [])
  | i :: is =>
    let t := turn colors x i
    match t.next with
    | none => ([t.printed], t.notices)
    | some y =>
      let (rest, notices) := run colors y is
      (t.printed :: rest, t.notices ++ notices)

def intro (colors : Bool) (x : Session) : List String := [
  paint colors .boldCyan "jsonfsm REPL",
  "Machine " ++ x.machine.program.checksum ++ " in state " ++
    paint colors .yellow x.machine.state,
  "Type 'help' for available commands.\n"]

def mark (colors : Bool) : String := paint colors .cyan "jsonfsm>" ++ " "

end Prompt

end EventMachine
