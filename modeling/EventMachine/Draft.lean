import EventMachine.Json.Decoder

/-!
# Draft descriptions

A machine description as its document gives it: every field may be missing, and nothing has been
checked but the shape.  A draft has a canonical document, in which absent fields are left out, so
that an absent list, an empty list and a null among the final states stay apart.
-/

namespace EventMachine

open EventMachine.Json

namespace Draft

structure Trigger where
  name : Option String := none
  source : Option Int64 := none
  payload : Option String := none
  deriving DecidableEq, Repr

structure Behavior where
  device : Option Int64 := none
  command : Option String := none
  deriving DecidableEq, Repr

structure Transition where
  trigger : Option String := none
  target : Option String := none
  effects : Option (List Behavior) := none
  ignore : Option Bool := none
  deriving DecidableEq, Repr

def Transition.isIgnored (t : Transition) : Bool := t.ignore == some true

structure State where
  name : Option String := none
  onEntry : Option (List Behavior) := none
  onExit : Option (List Behavior) := none
  transitions : Option (List Transition) := none
  deriving DecidableEq, Repr

end Draft

structure Draft where
  initialState : Option String := none
  finalStates : Option (List (Option String)) := none
  triggers : Option (List Draft.Trigger) := none
  states : Option (List Draft.State) := none
  deriving DecidableEq, Repr

namespace Draft

def integerDocument (i : Int64) : Document := .integer i.toInt

def listDocument {α : Type} (f : α → Document) (xs : List α) : Document := .list (xs.map f)

def field {ρ α : Type} (key : String) (d : Decoder α) (write : α → Document)
    (put : Option α → ρ → ρ) (get : ρ → Option α) : RecordField ρ :=
  ⟨key, fun n x ↦ (Decoder.optional d n).map fun a ↦ put a x, fun x ↦ (get x).map write⟩

def Trigger.record : Record Trigger where
  name := "TriggerRaw"
  blank := {}
  fields := [
    field "name" .text .text (fun a x ↦ { x with name := a }) (·.name),
    field "eventSourceId" .integer64 integerDocument
      (fun a x ↦ { x with source := a }) (·.source),
    field "eventPayload" .text .text (fun a x ↦ { x with payload := a }) (·.payload)]

def Behavior.record : Record Behavior where
  name := "BehaviorRaw"
  blank := {}
  fields := [
    field "deviceId" .integer64 integerDocument (fun a x ↦ { x with device := a }) (·.device),
    field "commandString" .text .text (fun a x ↦ { x with command := a }) (·.command)]

def behaviors {ρ : Type} (key : String) (put : Option (List Behavior) → ρ → ρ)
    (get : ρ → Option (List Behavior)) : RecordField ρ :=
  field key (.list Behavior.record.decode) (listDocument Behavior.record.encode) put get

def Transition.record : Record Transition where
  name := "TransitionRaw"
  blank := {}
  fields := [
    field "triggerName" .text .text (fun a x ↦ { x with trigger := a }) (·.trigger),
    field "targetState" .text .text (fun a x ↦ { x with target := a }) (·.target),
    behaviors "effects" (fun a x ↦ { x with effects := a }) (·.effects),
    field "ignore" .flag .flag (fun a x ↦ { x with ignore := a }) (·.ignore)]

def State.record : Record State where
  name := "StateRaw"
  blank := {}
  fields := [
    field "name" .text .text (fun a x ↦ { x with name := a }) (·.name),
    behaviors "onEntry" (fun a x ↦ { x with onEntry := a }) (·.onEntry),
    behaviors "onExit" (fun a x ↦ { x with onExit := a }) (·.onExit),
    field "transitions" (.list Transition.record.decode) (listDocument Transition.record.encode)
      (fun a x ↦ { x with transitions := a }) (·.transitions)]

def finalDocument : Option String → Document
  | none => .null
  | some s => .text s

def record : Record Draft where
  name := "MachineDescriptorRaw"
  blank := {}
  fields := [
    field "initialState" .text .text (fun a x ↦ { x with initialState := a }) (·.initialState),
    field "finalStates" (.list (.optional .text)) (listDocument finalDocument)
      (fun a x ↦ { x with finalStates := a }) (·.finalStates),
    field "triggers" (.list Trigger.record.decode) (listDocument Trigger.record.encode)
      (fun a x ↦ { x with triggers := a }) (·.triggers),
    field "states" (.list State.record.decode) (listDocument State.record.encode)
      (fun a x ↦ { x with states := a }) (·.states)]

def ofDocument (d : Document) : Except Malformed Draft := record.decode d.node

def ofText (s : String) : Except Malformed Draft := (Reading.ofText s).decode record.decode

def document (x : Draft) : Document := record.encode x

def text (x : Draft) : String := x.document.compact

def ignored (x : Draft) : List (List Bool) :=
  (x.states.getD []).map fun s ↦ (s.transitions.getD []).map Transition.isIgnored

end Draft

end EventMachine
