import EventMachine.Checksum
import EventMachine.Draft
import EventMachine.IdList

/-!
# Machine descriptions

A description is complete: nothing in it is missing.  It keeps the draft it comes from, whose
canonical text its checksum is computed over.
-/

namespace EventMachine

structure Trigger where
  name : String
  source : UInt32
  payload : String
  deriving DecidableEq, Repr

structure Behavior where
  device : UInt32
  command : String
  deriving DecidableEq, Repr

/-- What a state does about a trigger: nothing, or moving to another state with effects on the
way. -/
inductive Reaction
  | ignore
  | permit (target : String) (effects : List Behavior)
  deriving DecidableEq, Repr

structure Transition where
  trigger : String
  reaction : Reaction
  deriving DecidableEq, Repr

def Transition.target? (t : Transition) : Option String :=
  match t.reaction with
  | .ignore => none
  | .permit target _ => some target

def Transition.effects (t : Transition) : List Behavior :=
  match t.reaction with
  | .ignore => []
  | .permit _ effects => effects

structure State where
  name : String
  onEntry : List Behavior
  onExit : List Behavior
  transitions : List Transition
  deriving DecidableEq, Repr

/-- All behaviors of a state: on entry, on exit, then the effects of its transitions. -/
def State.behaviors (s : State) : List Behavior :=
  s.onEntry ++ s.onExit ++ s.transitions.flatMap Transition.effects

structure Description where
  initialState : String
  finalStates : List String
  triggers : List Trigger
  states : List State
  draft : Draft
  deriving DecidableEq, Repr

namespace Description

def state? (d : Description) (name : String) : Option State := d.states.find? (·.name = name)

def trigger? (d : Description) (name : String) : Option Trigger :=
  d.triggers.find? (·.name = name)

def isFinal (d : Description) (name : String) : Bool := name ∈ d.finalStates

def behaviors (d : Description) : List Behavior := d.states.flatMap State.behaviors

def checksum (d : Description) : String := Checksum.ofText d.draft.text

end Description

def deviceId? (i : Int64) : Option UInt32 :=
  if 0 < i.toInt ∧ i.toInt.toNat < UInt32.size then some (UInt32.ofNat i.toInt.toNat) else none

namespace Draft

/-- The devices that effects of ignored transitions name.  They never run, yet they have to be
there. -/
def Transition.idleDevices (t : Transition) : List UInt32 :=
  if t.isIgnored then (t.effects.getD []).filterMap fun b ↦ b.device.bind deviceId? else []

def idleDevices (x : Draft) : List UInt32 :=
  (x.states.getD []).flatMap fun s ↦ (s.transitions.getD []).flatMap Transition.idleDevices

end Draft

namespace Description

def requiredDevices (d : Description) : List UInt32 :=
  IdList.ascending (d.behaviors.map (·.device) ++ d.draft.idleDevices)

def eventSources (d : Description) : List UInt32 :=
  IdList.ascending (d.triggers.map (·.source))

end Description

end EventMachine
