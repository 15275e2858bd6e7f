import EventMachine.EventTable
import EventMachine.Notice

/-!
# Machines

A machine is a compiled program and the state it is in.  States are numbered in the order of their
declaration, and each has a row with its commands and with a rule for every trigger it knows.  An
event first becomes a trigger; the rule for the trigger in the current state then decides.  On a
permitted one the exit commands of the state, the effects of the transition and the entry commands
of its target are executed in this order, and after all of them the machine is in the target.
-/

namespace EventMachine

inductive Rule
  | ignore
  | permit (target : Nat) (effects : List Command)
  deriving DecidableEq, Repr

structure Row where
  name : String
  onEntry : List Command
  onExit : List Command
  rules : List (String × Rule)
  deriving DecidableEq, Repr

def sortNames (names : List String) : List String := names.mergeSort fun a b ↦ decide (a ≤ b)

def Row.rule? (r : Row) (trigger : String) : Option Rule := r.rules.lookup trigger

def Row.triggers (r : Row) : List String := sortNames (r.rules.map (·.1))

def Rule.commands : Rule → List Command
  | .ignore => []
  | .permit _ effects => effects

def Row.commands (r : Row) : List Command :=
  r.onEntry ++ r.onExit ++ r.rules.flatMap fun x ↦ x.2.commands

/-- What compiling a description gives.  The numbers of the final states are distinct. -/
structure Program where
  rows : List Row
  events : EventTable
  triggers : List String
  initial : Nat
  finals : List Nat
  devices : List UInt32
  sources : List UInt32
  checksum : String
  deriving DecidableEq, Repr

namespace Program

def nameOf (p : Program) (i : Nat) : String := (p.rows[i]?.map (·.name)).getD ""

def names (p : Program) : List String := p.rows.map (·.name)

def initialState (p : Program) : String := p.nameOf p.initial

def finalStates (p : Program) : List String := sortNames (p.finals.map p.nameOf)

/-- The chains on entry to and on exit from the state with a number. -/
def onEntry (p : Program) (i : Nat) : List Command := (p.rows[i]?.map Row.onEntry).getD []

def onExit (p : Program) (i : Nat) : List Command := (p.rows[i]?.map Row.onExit).getD []

end Program

inductive Outcome
  | unknownEvent
  | unhandled (trigger : String)
  | ignored (trigger : String)
  | transitioned (trigger source target : String) (failed : Nat)
  deriving DecidableEq, Repr

def Outcome.isTransition : Outcome → Bool
  | transitioned .. => true
  | _ => false

structure Machine where
  program : Program
  current : Nat
  deriving DecidableEq, Repr

/-- All that happens when an event is fired: commands run, then one notice is given. -/
structure Step where
  outcome : Outcome
  ran : List Execution := []
  notice : Notice
  machine : Machine
  deriving DecidableEq, Repr

/-- The notices of a step, with those by which devices accompany their commands. -/
def Step.notices (speak : Command → List Notice) (s : Step) : List Notice :=
  (s.ran.flatMap fun x ↦ speak x.command ++ x.notices) ++ [s.notice]

namespace Machine

def start (p : Program) : Machine := ⟨p, p.initial⟩

def row? (m : Machine) : Option Row := m.program.rows[m.current]?

def state (m : Machine) : String := m.program.nameOf m.current

def isFinal (m : Machine) : Bool := m.current ∈ m.program.finals

def triggers (m : Machine) : List String := (m.row?.map Row.triggers).getD []

/-- Back to the initial state, without executing anything. -/
def reset (m : Machine) : Machine := { m with current := m.program.initial }

/-- Another machine for the same program, in its initial state. -/
def spawn (m : Machine) : Machine := start m.program

def apply (host : Host) (past : List Command) (m : Machine) (trigger : String) : Step :=
  match m.row?.bind (·.rule? trigger) with
  | none =>
    { outcome := .unhandled trigger, notice := .noRule trigger m.state, machine := m }
  | some .ignore =>
    { outcome := .ignored trigger, notice := .ignored trigger m.state, machine := m }
  | some (.permit target effects) =>
    let onExit := m.program.onExit m.current
    let left := execute host past onExit
    let crossed := execute host (past ++ onExit) effects
    let entered := execute host (past ++ onExit ++ effects) (m.program.onEntry target)
    let failed := failures left + failures crossed + failures entered
    let next : Machine := { m with current := target }
    { outcome := .transitioned trigger m.state next.state failed
      ran := left ++ crossed ++ entered
      notice := .moved m.state next.state trigger failed
      machine := next }

def fire (host : Host) (past : List Command) (m : Machine) (source : UInt32) (payload : String) :
    Step :=
  match m.program.events.lookup source payload with
  | some trigger => m.apply host past trigger
  | none => { outcome := .unknownEvent, notice := .unknownEvent source payload, machine := m }

def fireTrigger (host : Host) (past : List Command) (m : Machine) (trigger : String) : Step :=
  if trigger ∈ m.program.triggers then m.apply host past trigger
  else { outcome := .unknownEvent, notice := .unknownTrigger trigger, machine := m }

/-- Fires an event, and tells whether the state it leads to is final. -/
def inject (host : Host) (past : List Command) (m : Machine) (source : UInt32)
    (payload : String) : Step × Bool :=
  let s := m.fire host past source payload
  (s, s.machine.isFinal)

end Machine

end EventMachine
