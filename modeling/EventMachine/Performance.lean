import EventMachine.Notice

/-!
# Performances

What happens when a command of a built-in device is executed.  A log device writes the command to
the log, a print device enters it in the journal, and a fail device treats the commands that it has
accepted as a print device without a lead does.
-/

namespace EventMachine

structure JournalEntry where
  device : UInt32
  command : String
  deriving DecidableEq, Repr

/-- How the execution of a command ends, what it writes to the log and what it enters in the
journal. -/
structure Performance where
  fault? : Option Fault
  notices : List Notice
  entries : List JournalEntry
  deriving DecidableEq, Repr

namespace Performance

def ofLog (device : UInt32) (lead command : String) : Performance where
  fault? := none
  notices := [.spoken device (lead ++ command)]
  entries := []

def ofPrint (device : UInt32) (lead command : String) : Performance where
  fault? := none
  notices := []
  entries := [⟨device, lead ++ command⟩]

end Performance

namespace Device

def perform (d : Device) (command : String) : Performance :=
  match d.kind with
  | .log => .ofLog d.id (d.lead.getD "") command
  | .print => .ofPrint d.id (d.lead.getD "") command
  | .fail => .ofPrint d.id "" command

/-- No kind of device fails when a command is executed. -/
theorem fault?_perform (d : Device) (command : String) : (d.perform command).fault? = none := by
  rw [perform]
  cases d.kind with
  | log => rfl
  | print => rfl
  | fail => rfl

end Device

end EventMachine
