import EventMachine.Report

/-!
# One-shot answers

The summary of a machine file, and the text of a replayed script.
-/

namespace EventMachine

open EventMachine.Text

def idsText (ids : List UInt32) : String :=
  if ids = [] then "-" else ", ".intercalate (ids.map fun i ↦ decimal i.toNat)

def Description.summary (colors : Bool) (path : String) (d : Description) : String :=
  "\n".intercalate [
    paint colors .boldGreen "OK" ++ " " ++ path,
    "  checksum:      " ++ d.checksum,
    "  initial state: " ++ paint colors .cyan d.initialState,
    "  final states:  " ++ ", ".intercalate d.finalStates,
    "  states:        " ++ ", ".intercalate (d.states.map (·.name)),
    "  triggers:      " ++ decimal d.triggers.length,
    "  devices:       " ++ idsText d.requiredDevices,
    "  event sources: " ++ idsText d.eventSources]

def checkFile (colors : Bool) (path : String) (file : FileText) : Except SessionError String :=
  match file with
  | .error fault => .error (.unreadable path fault)
  | .ok s =>
    match Description.ofText s with
    | .error e => .error (.description e)
    | .ok d => .ok (d.summary colors path)

def Script.ofFile (path : String) (file : FileText) : Except SessionError (List ScriptEvent) :=
  match file with
  | .error fault => .error (.unreadable path fault)
  | .ok s => (Script.read s).mapError .script

def replayLines (colors : Bool) (rs : List Report) (journal : List JournalEntry) : List String :=
  rs.map (Report.line colors) ++
    (if journal = [] then []
    else
      ["", paint colors .bold "Journal:"] ++ journal.map fun e ↦ "  " ++ e.line colors)

/-- The text of a replay, without white space at its end. -/
def replayText (colors : Bool) (rs : List Report) (journal : List JournalEntry) : String :=
  String.ofList
    (trimEnd (String.join ((replayLines colors rs journal).map (· ++ "\n"))).toList)

/-- Replays the script in one file against the machine in another.  The script is read first. -/
def replayFiles (colors asJson : Bool) (setup : Setup) (machinePath : String) (machine : FileText)
    (scriptPath : String) (script : FileText) : Except SessionError String × List Notice :=
  match Script.ofFile scriptPath script with
  | .error e => (.error e, [])
  | .ok events =>
    match Session.ofFile setup machinePath machine with
    | (.error e, notices) => (.error e, notices)
    | (.ok x, notices) =>
      let (reports, y, more) := x.replay events
      (.ok (if asJson then Report.jsonLines reports else replayText colors reports y.journal),
        notices ++ more)

end EventMachine
