import EventMachine.Proofs.Compilation.Assembly
import EventMachine.Proofs.Machine.Run

/-!
# Interpreting a description

A description can be run as it stands.  The interpreter knows the current state by its name, and
whatever it needs it looks for in the lists of the description.
-/

namespace EventMachine

structure View where
  state : String
  isFinal : Bool
  triggers : List String
  deriving DecidableEq, Repr

def Machine.view (m : Machine) : View := ⟨m.state, m.isFinal, m.triggers⟩

namespace Description

def transitions (d : Description) (state : String) : List Transition :=
  ((d.state? state).map (·.transitions)).getD []

theorem exists_state_of_mem_transitions {d : Description} {state : String} {t : Transition}
    (ht : t ∈ d.transitions state) : ∃ s ∈ d.states, s.name = state ∧ t ∈ s.transitions := by
  cases hs : d.state? state with
  | none => simp [transitions, hs] at ht
  | some s =>
      refine ⟨s, List.mem_of_find?_eq_some hs, by simpa using List.find?_some hs, ?_⟩
      simpa [transitions, hs] using ht

def view (d : Description) (state : String) : View :=
  ⟨state, d.isFinal state, sortNames ((d.transitions state).map (·.trigger))⟩

/-- The commands of a transition: those on the exit of its source, its effects, and those on the
entry of its target. -/
def route (d : Description) (state target trigger : String) (effects : List Behavior) :
    List Command :=
  ((d.state? state).map State.exitCommands).getD [] ++
    commandsAt (.transition state target trigger) effects ++
      ((d.state? target).map State.entryCommands).getD []

section

variable (host : Host) (past : List Command) (d : Description) (state : String)

def apply (trigger : String) : Response String :=
  match (d.transitions state).find? (·.trigger = trigger) with
  | none =>
    { outcome := some (.unhandled trigger), notices := [.noRule trigger state], next := state }
  | some t =>
    match t.reaction with
    | .ignore =>
      { outcome := some (.ignored trigger), notices := [.ignored trigger state], next := state }
    | .permit target effects =>
      let ran := execute host past (d.route state target trigger effects)
      { outcome := some (.transitioned trigger state target (failures ran))
        ran
        notices := ran.flatMap Execution.notices ++
          [.moved state target trigger (failures ran)]
        next := target }

def fire (source : UInt32) (payload : String) : Response String :=
  match d.triggers.find? fun t ↦ t.source = source ∧ t.payload = payload with
  | some t => d.apply host past state t.name
  | none =>
    { outcome := some .unknownEvent, notices := [.unknownEvent source payload], next := state }

def fireTrigger (trigger : String) : Response String :=
  match d.trigger? trigger with
  | some t => d.apply host past state t.name
  | none =>
    { outcome := some .unknownEvent, notices := [.unknownTrigger trigger], next := state }

def act : Action → Response String
  | .fire source payload => d.fire host past state source payload
  | .inject source payload =>
    let r := d.fire host past state source payload
    { r with answer := some (d.isFinal r.next) }
  | .fireTrigger trigger => d.fireTrigger host past state trigger
  | .reset => { next := d.initialState }

variable {host past d state}

/-- An action is answered by applying a trigger, by doing nothing, or by a reset; an injection adds
an answer to that. -/
theorem act_cases {P : Response String → Prop}
    (hanswer : ∀ r answer, P r → P { r with answer })
    (happly : ∀ trigger, P (d.apply host past state trigger))
    (hunknown : ∀ notices, P { outcome := some .unknownEvent, notices, next := state })
    (hreset : P { next := d.initialState }) (a : Action) : P (d.act host past state a) := by
  have hfire (source : UInt32) (payload : String) :
      P (d.fire host past state source payload) := by
    rw [fire]
    split
    · exact happly _
    · exact hunknown _
  cases a with
  | fire source payload => exact hfire source payload
  | inject source payload => exact hanswer _ _ (hfire source payload)
  | fireTrigger trigger =>
      rw [act, fireTrigger]
      split
      · exact happly _
      · exact hunknown _
  | reset => exact hreset

end

def run (host : Host) (past : List Command) (d : Description) (state : String)
    (as : List Action) : List (Response String) :=
  drive (fun past state ↦ d.act host past state) past state as

/-! ## Invariants -/

/-- A property of the initial state that transitions keep. -/
structure Invariant (d : Description) (P : String → Prop) : Prop where
  initial : P d.initialState
  move : ∀ {state : String} {t : Transition} {target : String},
    P state → t ∈ d.transitions state → target ∈ t.target? → P target

namespace Invariant

variable {d : Description} {P : String → Prop} (hP : d.Invariant P) (host : Host)
  (past : List Command) {state : String} (h : P state)

include hP h

theorem next_apply (trigger : String) : P (d.apply host past state trigger).next := by
  rw [apply]
  split
  · exact h
  · rename_i t hfind
    split
    · exact h
    · rename_i hreaction
      exact hP.move h (List.mem_of_find?_eq_some hfind) (by simp [Transition.target?, hreaction])

theorem next_act (a : Action) : P (d.act host past state a).next :=
  act_cases (P := fun r ↦ P r.next) (fun _ _ hr ↦ hr) (hP.next_apply host past h) (fun _ ↦ h)
    hP.initial a

end Invariant

end Description

end EventMachine
