import EventMachine.Proofs.Description.Interpreter
import EventMachine.Proofs.EventTable

/-!
# Compiled machines do what their descriptions say

A compiled machine in the state of some number and the interpreter of its description in the state
of the corresponding name give the same responses.
-/

namespace EventMachine

/-- The first entry with some key stands at the first index of the key. -/
theorem getElem?_idxOf_map {α κ : Type} [DecidableEq κ] (f : α → κ) (as : List α) (k : κ) :
    as[(as.map f).idxOf k]? = as.find? fun a ↦ decide (f a = k) := by
  induction as with
  | nil => rfl
  | cons a as ih =>
      rw [List.map_cons, List.idxOf_cons, List.find?_cons]
      by_cases h : f a = k
      · simp [h]
      · have hk : (f a == k) = false := beq_eq_false_iff_ne.mpr h
        rw [hk, decide_eq_false h]
        exact ih

namespace Description

variable {d : Description}

def machineAt (d : Description) (state : String) : Machine :=
  ⟨d.assemble, d.stateNames.idxOf state⟩

/-- The row at the place of a name is the compiled state of that name. -/
theorem rows_idxOf (state : String) :
    d.assemble.rows[d.stateNames.idxOf state]? = (d.state? state).map (State.row d.stateNames) := by
  rw [assemble, List.getElem?_map, stateNames, getElem?_idxOf_map, state?]

theorem exists_state? {state : String} (h : state ∈ d.stateNames) :
    ∃ s ∈ d.states, d.state? state = some s ∧ s.name = state := by
  obtain ⟨s, hs, hname⟩ := List.mem_map.mp h
  have hsome : (d.state? state).isSome := by
    rw [state?, List.find?_isSome]
    exact ⟨s, hs, decide_eq_true hname⟩
  obtain ⟨s', hs'⟩ := Option.isSome_iff_exists.mp hsome
  exact ⟨s', List.mem_of_find?_eq_some hs', hs', by simpa using List.find?_some hs'⟩

theorem nameOf_idxOf {state : String} (h : state ∈ d.stateNames) :
    d.assemble.nameOf (d.stateNames.idxOf state) = state := by
  obtain ⟨s, _, hs, hname⟩ := exists_state? h
  rw [Program.nameOf, rows_idxOf, hs]
  exact hname

theorem isFinal_machineAt (hd : d.Consistent) (state : String) :
    (d.machineAt state).isFinal = d.isFinal state := by
  have hiff : d.stateNames.idxOf state ∈ (d.finalStates.map d.stateNames.idxOf).eraseDups ↔
      state ∈ d.finalStates := by
    rw [List.mem_eraseDups, List.mem_map]
    constructor
    · rintro ⟨f, hf, hidx⟩
      exact (List.idxOf_inj (hd.finalStates f hf)).mp hidx ▸ hf
    · intro hf
      exact ⟨state, hf, rfl⟩
  rw [Machine.isFinal, isFinal]
  exact decide_eq_decide.mpr hiff

theorem view_machineAt (hd : d.Consistent) {state : String} (h : state ∈ d.stateNames) :
    (d.machineAt state).view = d.view state := by
  obtain ⟨s, _, hs, _⟩ := exists_state? h
  have htriggers : (d.machineAt state).triggers =
      sortNames ((d.transitions state).map (·.trigger)) := by
    rw [Machine.triggers, Machine.row?, machineAt, rows_idxOf, transitions, hs]
    simp [Row.triggers, State.row, State.rules, Function.comp_def]
  rw [Machine.view, view, isFinal_machineAt hd, htriggers, Machine.state]
  exact congrArg (View.mk · _ _) (nameOf_idxOf h)

/-! ## Single actions -/

/-- The compiled machine finds the rule that a search among the transitions comes to. -/
theorem rule?_machineAt {state : String} (h : state ∈ d.stateNames) (trigger : String) :
    (d.machineAt state).rule? trigger =
      ((d.transitions state).find? (·.trigger = trigger)).map (·.rule d.stateNames state) := by
  obtain ⟨s, _, hs, hname⟩ := exists_state? h
  rw [Machine.rule?, Machine.row?, machineAt, rows_idxOf, transitions, hs]
  simp only [Option.map_some, Option.bind_some, Option.getD_some, Row.rule?, State.row,
    State.rules, lookup_map, hname]

/-- The commands on the way from one state to another are the same in the table and in the
description. -/
theorem route_machineAt (state target trigger : String) (effects : List Behavior) :
    (d.machineAt state).route (d.stateNames.idxOf target)
      (commandsAt (.transition state target trigger) effects) =
        d.route state target trigger effects := by
  rw [Machine.route, machineAt, Program.onExit, Program.onEntry, rows_idxOf, rows_idxOf, route,
    Option.map_map, Option.map_map]
  rfl

theorem target_mem_stateNames (hd : d.Consistent) {state target : String} {t : Transition}
    (ht : t ∈ d.transitions state) (htarget : target ∈ t.target?) : target ∈ d.stateNames := by
  obtain ⟨s, hs, -, hts⟩ := exists_state_of_mem_transitions ht
  exact hd.targets s hs t hts target htarget

/-- Targets and the initial state are declared, so the interpreter stays on declared states. -/
theorem Consistent.invariant_declared (hd : d.Consistent) : d.Invariant (· ∈ d.stateNames) where
  initial := hd.initialState
  move _ ht htarget := target_mem_stateNames hd ht htarget

section

variable (host : Host) (past : List Command)

/-- One trigger: the machine at a state answers as the interpreter does there, and stands at the
state the interpreter moves to. -/
theorem apply_machineAt (hd : d.Consistent) {state : String} (h : state ∈ d.stateNames)
    (trigger : String) : ((d.machineAt state).apply host past trigger).response none =
      (d.apply host past state trigger).map d.machineAt := by
  have hrule := rule?_machineAt h trigger
  have hname : (d.machineAt state).state = state := nameOf_idxOf h
  rw [apply]
  cases hfind : (d.transitions state).find? (·.trigger = trigger) with
  | none =>
      rw [hfind, Option.map_none] at hrule
      rw [Machine.apply_of_none host past hrule, hname]
      rfl
  | some t =>
      rw [hfind, Option.map_some, Transition.rule] at hrule
      have htrigger : t.trigger = trigger := by simpa using List.find?_some hfind
      cases hreaction : t.reaction with
      | ignore =>
          rw [hreaction] at hrule
          rw [Machine.apply_of_ignore host past hrule, hname]
          simp only [hreaction]
          rfl
      | permit target effects =>
          have heffects : t.commands state =
              commandsAt (.transition state target trigger) effects := by
            rw [Transition.commands, hreaction, htrigger]
          have htarget : (d.machineAt target).state = target :=
            nameOf_idxOf (target_mem_stateNames hd (List.mem_of_find?_eq_some hfind)
              (by simp [Transition.target?, hreaction]))
          have hmoved : { d.machineAt state with current := d.stateNames.idxOf target } =
              d.machineAt target := rfl
          simp only [hreaction, heffects] at hrule
          rw [Machine.apply_of_permit host past hrule, route_machineAt, hname]
          simp only [hreaction, hmoved, htarget]
          rfl

/-- One event: the table and the scan of the declared triggers choose the same trigger. -/
theorem fire_machineAt (hd : d.Consistent) {state : String} (h : state ∈ d.stateNames)
    (source : UInt32) (payload : String) :
    ((d.machineAt state).fire host past source payload).response none =
      (d.fire host past state source payload).map d.machineAt := by
  have hlookup : (d.machineAt state).program.events.lookup source payload =
      (d.triggers.find? fun t ↦ t.source = source ∧ t.payload = payload).map (·.name) :=
    EventTable.lookup_ofTriggers hd.events source payload
  rw [Machine.fire, hlookup, fire]
  cases d.triggers.find? fun t ↦ t.source = source ∧ t.payload = payload with
  | none => rfl
  | some t => exact apply_machineAt host past hd h t.name

theorem fireTrigger_machineAt (hd : d.Consistent) {state : String} (h : state ∈ d.stateNames)
    (trigger : String) : ((d.machineAt state).fireTrigger host past trigger).response none =
      (d.fireTrigger host past state trigger).map d.machineAt := by
  have hknown : trigger ∈ (d.machineAt state).program.triggers ↔
      (d.trigger? trigger).isSome := by
    rw [trigger?, List.find?_isSome]
    simp [machineAt, assemble, triggerNames]
  rw [Machine.fireTrigger, fireTrigger]
  cases hfind : d.trigger? trigger with
  | none => rw [if_neg (by simp [hknown, hfind])]; rfl
  | some t =>
      have hname : t.name = trigger := by simpa using List.find?_some hfind
      rw [if_pos (by simp [hknown, hfind])]
      exact hname ▸ apply_machineAt host past hd h t.name

theorem next_act_mem (hd : d.Consistent) {state : String} (h : state ∈ d.stateNames)
    (a : Action) : (d.act host past state a).next ∈ d.stateNames :=
  hd.invariant_declared.next_act host past h a

/-- What the machine does about an action is what the interpreter does about it. -/
theorem act_machineAt (hd : d.Consistent) {state : String} (h : state ∈ d.stateNames)
    (a : Action) : (d.machineAt state).act host past a =
      (d.act host past state a).map d.machineAt := by
  cases a with
  | fire source payload => exact fire_machineAt host past hd h source payload
  | inject source payload =>
      have hfire := fire_machineAt host past hd h source payload
      have hnext : ((d.machineAt state).fire host past source payload).machine =
          d.machineAt (d.fire host past state source payload).next :=
        congrArg Response.next hfire
      simp only [Machine.act, Machine.inject, hnext, isFinal_machineAt hd]
      have hanswer := congrArg (fun r : Response Machine ↦
        { r with answer := some (d.isFinal (d.fire host past state source payload).next) }) hfire
      exact hanswer
  | fireTrigger trigger => exact fireTrigger_machineAt host past hd h trigger
  | reset => rfl

end

/-- A compiled machine starts in the initial state of its description, and in every run it responds
to every action as the interpreter does: with the same outcome, the same answer, the same executions
and notices, and in a state of the same name, the same finality and the same triggers. -/
theorem run_compiled_eq {x : Draft} {d : Description} {compilers : Compilers} {p : Program}
    (hd : ofDraft x = .ok d) (hp : (d.compile compilers).result = .ok p) :
    (Machine.start p).view = d.view d.initialState ∧
      ∀ (host : Host) (past : List Command) (as : List Action),
        ((Machine.start p).run host past as).map (·.map Machine.view) =
          (d.run host past d.initialState as).map (·.map d.view) := by
  have hconsistent : d.Consistent := consistent_of_ofDraft hd
  have hstart : Machine.start p = d.machineAt d.initialState := by
    rw [eq_assemble_of_compile hconsistent hp]
    rfl
  rw [hstart]
  constructor
  · exact view_machineAt hconsistent hconsistent.initialState
  · intro host past as
    apply map_drive_eq (fun m state ↦ state ∈ d.stateNames ∧ m = d.machineAt state) _ past
      ⟨hconsistent.initialState, rfl⟩
    rintro past m state a ⟨hmem, rfl⟩
    have hnext := next_act_mem host past hconsistent hmem a
    rw [act_machineAt host past hconsistent hmem a]
    refine ⟨?_, rfl, hnext, rfl⟩
    rw [Response.map, Response.map, Response.map, view_machineAt hconsistent hnext]

/-- A lamp with one button.  Its first state refers to the second one. -/
def lamp : Draft where
  initialState := some "off"
  finalStates := some [some "off"]
  triggers := some [{ name := some "switch", source := some 1, payload := some "press" }]
  states := some [
    { name := some "off"
      transitions := some [{ trigger := some "switch", target := some "on" }] },
    { name := some "on"
      onEntry := some [{ device := some 7, command := some "light" }]
      onExit := some [{ device := some 7, command := some "darken" }]
      transitions := some [{ trigger := some "switch", target := some "off" }] }]

def lampDescription : Description where
  initialState := "off"
  finalStates := ["off"]
  triggers := [⟨"switch", 1, "press"⟩]
  states := [⟨"off", [], [], [⟨"switch", .permit "on" []⟩]⟩,
    ⟨"on", [⟨7, "light"⟩], [⟨7, "darken"⟩], [⟨"switch", .permit "off" []⟩]⟩]
  draft := lamp

/-- A host on which a lamp that is lit cannot be darkened. -/
def stuck : Host := fun past c ↦
  if c.text = "darken" ∧ past.any (·.text = "light") then some (.refused "stuck") else none

theorem run_compiled_lamp_eq :
    ofDraft lamp = .ok lampDescription ∧
      (lampDescription.compile fun _ ↦ some fun _ ↦ none).result =
        .ok lampDescription.assemble ∧
      ((Machine.start lampDescription.assemble).run stuck []
        [.fire 1 "press", .fireTrigger "switch", .reset]).map
          (fun r ↦ (r.outcome, r.ran, r.next.state)) = [
        (some (.transitioned "switch" "off" "on" 0),
          [⟨⟨.onEntry "on", 7, "light"⟩, none⟩], "on"),
        (some (.transitioned "switch" "on" "off" 1),
          [⟨⟨.onExit "on", 7, "darken"⟩, some (.refused "stuck")⟩], "off"),
        (none, [], "off")] ∧
      (Machine.start lampDescription.assemble).view = lampDescription.view "off" ∧
      ∀ (host : Host) (past : List Command) (as : List Action),
        ((Machine.start lampDescription.assemble).run host past as).map (·.map Machine.view) =
          (lampDescription.run host past "off" as).map (·.map lampDescription.view) := by
  have hd : ofDraft lamp = .ok lampDescription := rfl
  have hp : (lampDescription.compile fun _ ↦ some fun _ ↦ none).result =
      .ok lampDescription.assemble := rfl
  exact ⟨hd, hp, by decide, run_compiled_eq hd hp⟩

end Description

end EventMachine
