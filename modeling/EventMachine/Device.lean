import EventMachine.Command
import EventMachine.Text.Blank
import EventMachine.Text.LowerCase

/-!
# Built-in devices

Three kinds of devices stand in for hardware.  A log device writes each command to the log, a print
device enters it in the journal, and a fail device rejects commands when they are compiled and
treats the others as a print device without a lead does.
-/

namespace EventMachine

open EventMachine.Text

inductive DeviceKind
  | log
  | print
  | fail
  deriving DecidableEq, Repr

namespace DeviceKind

def name : DeviceKind → String
  | log => "log"
  | print => "print"
  | fail => "fail"

def title : DeviceKind → String
  | log => "Log"
  | print => "Print"
  | fail => "Fail"

def all : List DeviceKind := [log, print, fail]

def ofName? (s : String) : Option DeviceKind := all.find? (·.name = s)

/-- Reads a kind in any case, with white space around it; what is not one is given back as it was
looked up. -/
def read (s : String) : Except String DeviceKind :=
  let word := lower (String.ofList (trim s.toList))
  match ofName? word with
  | some k => .ok k
  | none => .error word

def unknownMessage (word : String) : String := "unknown device kind '" ++ word ++ "'"

end DeviceKind

def occursIn (needle : List Char) : List Char → Bool
  | [] => needle.isEmpty
  | c :: cs => needle.isPrefixOf (c :: cs) || occursIn needle cs

theorem occursIn_iff {needle cs : List Char} : occursIn needle cs ↔ needle <:+: cs := by
  induction cs with
  | nil => simp [occursIn]
  | cons c cs ih => simp [occursIn, ih, List.infix_cons_iff]

/-- A command text handed to the compiler of a device. -/
structure Call where
  device : UInt32
  command : String
  deriving DecidableEq, Repr

/-- What the compiler of a device gets to see: the text of a command, and the calls that the
compilation has made before, to whichever devices. -/
structure Submission where
  earlier : List Call
  command : String
  deriving DecidableEq, Repr

instance : Coe Submission String := ⟨Submission.command⟩

/-- Compiles a command for one device; nothing means that the device accepts it. -/
abbrev Compiler := Submission → Option Fault

/-- A device as it is set up.  The lead is put before every command, and a fail device rejects the
commands that contain `failOn`, or every command if it is absent. -/
structure Device where
  id : UInt32
  kind : DeviceKind
  lead : Option String := none
  failOn : Option String := none
  deriving DecidableEq, Repr

namespace Device

def refuses (d : Device) (command : String) : Bool :=
  match d.kind, d.failOn with
  | .fail, some needle => occursIn needle.toList command.toList
  | .fail, none => true
  | _, _ => false

/-- A built-in device answers a command in the same way each time. -/
def compiler (d : Device) : Compiler := fun s ↦
  if d.refuses s then
    some (.refused ("device " ++ decimal d.id.toNat ++ " refuses command '" ++ s ++ "'"))
  else none

end Device

end EventMachine
