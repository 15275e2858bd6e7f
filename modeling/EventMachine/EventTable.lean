import EventMachine.Description
import EventMachine.Filing

/-!
# Event tables

An event table maps events, pairs of a source and a payload, to trigger names.  Entries are filed
under a single text, the decimal source and the payload joined by an underscore; the source has
digits only, so the first underscore always ends it.
-/

namespace EventMachine

open EventMachine.Text

structure EventTable where
  entries : List (String × String) := []
  deriving DecidableEq, Repr

namespace EventTable

def key (source : UInt32) (payload : String) : String :=
  decimal source.toNat ++ "_" ++ payload

def add (t : EventTable) (source : UInt32) (payload name : String) : EventTable :=
  ⟨fileUnder (key source payload) name t.entries⟩

def lookup (t : EventTable) (source : UInt32) (payload : String) : Option String :=
  t.entries.lookup (key source payload)

def size (t : EventTable) : Nat := t.entries.length

def isEmpty (t : EventTable) : Bool := t.entries.isEmpty

/-- The table of a list of triggers; of two triggers for one event the later one counts. -/
def ofTriggers (ts : List Trigger) : EventTable :=
  ts.foldl (fun t x ↦ t.add x.source x.payload x.name) {}

end EventTable

end EventMachine
