import EventMachine.Compilation
import EventMachine.Performance
import EventMachine.Script
import EventMachine.Setup

/-!
# Sessions

A session is a machine with the devices of a setup, which are the host of its commands, and a
journal of what its print and fail devices have executed.
-/

namespace EventMachine

/-- What one event did, and where it led. -/
structure Report where
  source : UInt32
  payload : String
  outcome : Outcome
  state : String
  isFinal : Bool
  deriving DecidableEq, Repr

structure Session where
  machine : Machine
  devices : Setup.DeviceMap
  stopOnFinal : Bool
  journal : List JournalEntry := []
  deriving DecidableEq, Repr

namespace Setup.DeviceMap

def compilers (m : DeviceMap) : Compilers := fun id ↦ (m.lookup id).map Device.compiler

def perform? (m : DeviceMap) (c : Command) : Option Performance :=
  (m.lookup c.device).map fun d ↦ d.perform c.text

/-- The host that the devices are.  A command without a device, which is never compiled, could not
be executed. -/
def host (m : DeviceMap) : Host := fun _ c ↦
  match m.perform? c with
  | some p => p.fault?
  | none => some (.panicked none)

def notices (m : DeviceMap) (c : Command) : List Notice :=
  ((m.perform? c).map Performance.notices).getD []

def entries (m : DeviceMap) (c : Command) : List JournalEntry :=
  ((m.perform? c).map Performance.entries).getD []

end Setup.DeviceMap

inductive SessionError
  | unreadable (path : String) (fault : FileFault)
  | description (e : DescriptionError)
  | compilation (e : CompileError)
  | script (e : ScriptError)

def SessionError.message : SessionError → String
  | unreadable path fault => "failed to read '" ++ path ++ "': " ++ fault.message
  | description e => e.message
  | compilation e => e.message
  | script e => e.message

namespace Session

def compile (setup : Setup) (d : Description) : Except SessionError Session × List Notice :=
  let (devices, notices) := setup.deviceMap d.requiredDevices
  let c := d.compile devices.compilers
  let notices := notices ++ c.notices
  match c.result with
  | .error e => (.error (.compilation e), notices)
  | .ok p =>
    (.ok { machine := .start p, devices, stopOnFinal := setup.stopOnFinal },
      notices ++ [.sessionCompiled p.checksum p.initialState p.devices.length])

def ofText (setup : Setup) (s : String) : Except SessionError Session × List Notice :=
  match Description.ofText s with
  | .error e => (.error (.description e), [])
  | .ok d => compile setup d

def ofDocument (setup : Setup) (d : Json.Document) : Except SessionError Session × List Notice :=
  match Description.ofDocument d with
  | .error e => (.error (.description e), [])
  | .ok d => compile setup d

def ofFile (setup : Setup) (path : String) (file : FileText) :
    Except SessionError Session × List Notice :=
  match file with
  | .error fault => (.error (.unreadable path fault), [])
  | .ok s =>
    match ofText setup s with
    | (.ok x, notices) => (.ok x, notices ++ [.machineLoaded path])
    | r => r

def after (x : Session) (s : Step) : Session :=
  { x with
    machine := s.machine
    journal := x.journal ++ s.ran.flatMap fun e ↦ x.devices.entries e.command }

def notices (x : Session) (s : Step) : List Notice := s.notices x.devices.notices

def step (x : Session) (source : UInt32) (payload : String) :
    Report × Session × List Notice :=
  let s := x.machine.fire x.devices.host [] source payload
  (⟨source, payload, s.outcome, s.machine.state, s.machine.isFinal⟩, x.after s, x.notices s)

def fireTrigger (x : Session) (trigger : String) : Outcome × Session × List Notice :=
  let s := x.machine.fireTrigger x.devices.host [] trigger
  (s.outcome, x.after s, x.notices s)

def reset (x : Session) : Session := { x with machine := x.machine.reset }

def record (x : Session) (device : UInt32) (command : String) : Session :=
  { x with journal := x.journal ++ [⟨device, command⟩] }

def drain (x : Session) : List JournalEntry × Session := (x.journal, { x with journal := [] })

/-- Fires the events of a script in order; a session that stops on final states ends with the first
report of one. -/
def replay (x : Session) : List ScriptEvent → List Report × Session × List Notice
  | [] => ([], x, [])
  | e :: es =>
    let (r, y, ns) := x.step e.source e.payload
    if x.stopOnFinal ∧ r.isFinal then
      ([r], y, ns ++ [.finalReached y.machine.state e.line])
    else
      let (rs, z, ms) := y.replay es
      (r :: rs, z, ns ++ ms)

end Session

end EventMachine
