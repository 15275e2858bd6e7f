import EventMachine.Text.Quoted

/-!
# Commands

A command is bound to the place in the description where it stands and to its device.  Executing
it may fail or panic; neither has an effect on the commands after it.  What executing a command
ends in is up to the host, which knows all commands that ran before.
-/

namespace EventMachine

open EventMachine.Text

inductive Location
  | onEntry (state : String)
  | onExit (state : String)
  | transition (source target trigger : String)
  deriving DecidableEq, Repr

def Location.text : Location → String
  | onEntry s => "onEntry (" ++ s ++ ")"
  | onExit s => "onExit (" ++ s ++ ")"
  | transition s t x => "transition (" ++ s ++ " -> " ++ t ++ "; trigger: " ++ x ++ ")"

/-- How a device fails: with an error, or by a panic that may carry a text. -/
inductive Fault
  | refused (reason : String)
  | panicked (text : Option String)
  deriving DecidableEq, Repr

def Fault.message : Fault → String
  | refused reason => reason
  | panicked (some text) => "panicked: " ++ text
  | panicked none => "panicked"

structure Command where
  location : Location
  device : UInt32
  text : String
  deriving DecidableEq, Repr

/-- What executing a command ends in, given the commands executed before it, in order. -/
abbrev Host := List Command → Command → Option Fault

def Host.reliable : Host := fun _ _ ↦ none

structure Execution where
  command : Command
  fault? : Option Fault
  deriving DecidableEq, Repr

def Execution.failed (x : Execution) : Bool := x.fault?.isSome

/-- Executes commands one after another, regardless of failures. -/
def execute (host : Host) (past : List Command) : List Command → List Execution
  | [] => []
  | c :: cs => ⟨c, host past c⟩ :: execute host (past ++ [c]) cs

@[simp] theorem execute_nil (host : Host) (past : List Command) : execute host past [] = [] := rfl

/-- Executing a list in two parts is executing it whole: the second part starts with the
commands of the first behind it. -/
theorem execute_append (host : Host) (past cs ds : List Command) :
    execute host past (cs ++ ds) = execute host past cs ++ execute host (past ++ cs) ds := by
  induction cs generalizing past with
  | nil => simp
  | cons c cs ih => simp [execute, ih]

/-- Every command of the list is executed, in order, whatever the ones before it did. -/
@[simp] theorem map_command_execute (host : Host) (past cs : List Command) :
    (execute host past cs).map (·.command) = cs := by
  induction cs generalizing past with
  | nil => rfl
  | cons c cs ih => simp [execute, ih]

def failures (xs : List Execution) : Nat := xs.countP Execution.failed

@[simp] theorem failures_append (xs ys : List Execution) :
    failures (xs ++ ys) = failures xs + failures ys := List.countP_append

def Command.describe (c : Command) : String :=
  "GuardedCommand \x7b location: " ++ quoted c.location.text ++ ", device_id: " ++
    decimal c.device.toNat ++ ", command_string: " ++ quoted c.text ++ " \x7d"

def describeChain (cs : List Command) : String :=
  "CommandChain([" ++ ", ".intercalate (cs.map Command.describe) ++ "])"

end EventMachine
