import EventMachine.Machine
import EventMachine.Validation

/-!
# Compilation

Compiling binds every behavior of a description to the compiler of its device.  If a device is
missing, nothing is compiled at all; otherwise the first command that a device rejects ends the
compilation.  The calls made to device compilers are part of the result.  The table of rows starts
with an empty row for each state, and the row that is filed under the name of a state is filled when
its turn comes.
-/

namespace EventMachine

open EventMachine.Text

/-- The compilers of the devices that are there. -/
abbrev Compilers := UInt32 → Option Compiler

inductive CompileError
  | missingCompiler (device : UInt32)
  | rejected (c : Command) (fault : Fault)
  | unresolved (state : String)
  deriving DecidableEq, Repr

namespace CompileError

def message : CompileError → String
  | missingCompiler device =>
    "compiler for commands of device " ++ decimal device.toNat ++ " is missing"
  | rejected c fault =>
    "cannot compile '" ++ c.text ++ "' for device " ++ decimal c.device.toNat ++ " in " ++
      c.location.text ++ ": " ++ fault.message
  | unresolved state =>
    "internal compiler error: state '" ++ state ++ "' missing from transition table"

def device? : CompileError → Option UInt32
  | missingCompiler device => some device
  | rejected c _ => some c.device
  | unresolved _ => none

def command? : CompileError → Option Command
  | rejected c _ => some c
  | _ => none

end CompileError

def Row.empty (name : String) : Row := ⟨name, [], [], []⟩

/-- The row with the commands of its state, and with rules in addition to those it has. -/
def Row.fill (r : Row) (onEntry onExit : List Command) (rules : List (String × Rule)) : Row :=
  { r with onEntry, onExit, rules := fileAll rules r.rules }

/-- A computation that calls device compilers. -/
abbrev Binding := ExceptT CompileError (StateM (List Call))

namespace Binding

def submit (compilers : Compilers) (c : Command) : Binding Unit := do
  match compilers c.device with
  | none => throw (.missingCompiler c.device)
  | some compile =>
    let earlier ← get
    set (earlier ++ [⟨c.device, c.text⟩])
    match compile ⟨earlier, c.text⟩ with
    | some fault => throw (.rejected c fault)
    | none => return ()

def command (compilers : Compilers) (l : Location) (b : Behavior) : Binding Command := do
  let c : Command := ⟨l, b.device, b.command⟩
  submit compilers c
  return c

def chain (compilers : Compilers) (l : Location) : List Behavior → Binding (List Command)
  | [] => return []
  | b :: bs => do
    let c ← command compilers l b
    let cs ← chain compilers l bs
    return c :: cs

def stateNumber (numbers : List (String × Nat)) (name : String) : Binding Nat :=
  match numbers.lookup name with
  | some i => return i
  | none => throw (.unresolved name)

def rule (compilers : Compilers) (numbers : List (String × Nat)) (source : String)
    (t : Transition) : Binding (String × Rule) := do
  match t.reaction with
  | .ignore => return (t.trigger, .ignore)
  | .permit target effects =>
    let i ← stateNumber numbers target
    let cs ← chain compilers (.transition source target t.trigger) effects
    return (t.trigger, .permit i cs)

def rules (compilers : Compilers) (numbers : List (String × Nat)) (source : String) :
    List Transition → Binding (List (String × Rule))
  | [] => return []
  | t :: ts => do
    let r ← rule compilers numbers source t
    let rs ← rules compilers numbers source ts
    return r :: rs

def row (compilers : Compilers) (numbers : List (String × Nat)) (table : List Row) (s : State) :
    Binding (List Row) := do
  let i ← stateNumber numbers s.name
  let onEntry ← chain compilers (.onEntry s.name) s.onEntry
  let onExit ← chain compilers (.onExit s.name) s.onExit
  let rules ← rules compilers numbers s.name s.transitions
  return table.modify i (·.fill onEntry onExit rules)

def rows (compilers : Compilers) (numbers : List (String × Nat)) (table : List Row) :
    List State → Binding (List Row)
  | [] => return table
  | s :: ss => do
    let table ← row compilers numbers table s
    rows compilers numbers table ss

def program (compilers : Compilers) (d : Description) : Binding Program := do
  let names := d.states.map (·.name)
  let numbers := fileAll names.zipIdx []
  let rows ← rows compilers numbers (names.map Row.empty) d.states
  let initial ← stateNumber numbers d.initialState
  return {
    rows
    events := .ofTriggers d.triggers
    triggers := d.triggers.map (·.name)
    initial
    finals := (d.finalStates.filterMap fun name ↦ numbers.lookup name).eraseDups
    devices := d.requiredDevices
    sources := d.eventSources
    checksum := d.checksum }

end Binding

/-- The calls made, and the program or what prevented it. -/
structure Compilation where
  result : Except CompileError Program
  calls : List Call

def Description.compile (compilers : Compilers) (d : Description) : Compilation :=
  match d.requiredDevices.find? fun i ↦ (compilers i).isNone with
  | some i => ⟨.error (.missingCompiler i), []⟩
  | none =>
    let (result, calls) := (Binding.program compilers d).run []
    ⟨result, calls⟩

/-- The notice a compilation gives, if it calls any device compiler at all. -/
def Compilation.notices (c : Compilation) : List Notice :=
  match c.result with
  | .ok p =>
    [.machineCompiled p.checksum p.rows.length p.triggers.length
      (p.rows.flatMap Row.commands).length]
  | .error (.rejected command fault) => [.commandRejected command fault]
  | .error _ => []

end EventMachine
