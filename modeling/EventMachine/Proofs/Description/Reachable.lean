import EventMachine.Proofs.Compilation.Refinement
import Mathlib.Data.List.Sort

/-!
# The reachable part of a description

A run never leaves the states that can be reached from the initial one, and of these it sees nothing
but their behaviors, their transitions and whether they are final.  Neither the order of the
declarations nor a state that cannot be reached makes a difference to it.
-/

namespace EventMachine

theorem sortNames_eq_of_perm {as bs : List String} (h : as.Perm bs) :
    sortNames as = sortNames bs := by
  have hsorted (cs : List String) : (sortNames cs).Pairwise (· ≤ ·) :=
    List.pairwise_mergeSort' (· ≤ ·) cs
  have hperm : (sortNames as).Perm (sortNames bs) :=
    ((List.mergeSort_perm as _).trans h).trans (List.mergeSort_perm bs _).symm
  exact hperm.eq_of_pairwise' (hsorted as) (hsorted bs)

/-! ## Reachable states -/

/-- A state with the same behaviors and, in any order, the same transitions. -/
structure State.Rearranges (s s' : State) : Prop where
  name : s'.name = s.name
  onEntry : s'.onEntry = s.onEntry
  onExit : s'.onExit = s.onExit
  transitions : s.transitions.Perm s'.transitions

namespace Description

/-- The states that transitions lead to from the initial one.  Ignored transitions lead nowhere. -/
inductive Reaches (d : Description) : String → Prop
  | initial : d.Reaches d.initialState
  | move {s : State} {t : Transition} {target : String} (hs : s ∈ d.states)
      (hreach : d.Reaches s.name) (ht : t ∈ s.transitions) (htarget : target ∈ t.target?) :
      d.Reaches target

/-- The second description has the reachable part of the first one, whatever the order and whatever
else it declares. -/
structure SharesReachable (d d' : Description) : Prop where
  initialState : d'.initialState = d.initialState
  triggers : d.triggers.Perm d'.triggers
  states : ∀ s ∈ d.states, d.Reaches s.name →
    (∃ s' ∈ d'.states, s.Rearranges s') ∧ (s.name ∈ d.finalStates ↔ s.name ∈ d'.finalStates)

variable {d d' : Description}

theorem Consistent.reaches_mem (hd : d.Consistent) {state : String} (h : d.Reaches state) :
    state ∈ d.stateNames := by
  cases h with
  | initial => exact hd.initialState
  | move hs _ ht htarget => exact hd.targets _ hs _ ht _ htarget

theorem Consistent.state?_eq (hd : d.Consistent) {s : State} (hs : s ∈ d.states) :
    d.state? s.name = some s :=
  find?_eq_some_of_nodup hd.stateNames hs

theorem Consistent.transitions_eq (hd : d.Consistent) {s : State} (hs : s ∈ d.states) :
    d.transitions s.name = s.transitions := by
  rw [transitions, hd.state?_eq hs, Option.map_some, Option.getD_some]

/-- A state handles each trigger once, so a search by trigger does not depend on order. -/
theorem Consistent.nodup_transitions (hd : d.Consistent) (state : String) :
    ((d.transitions state).map (·.trigger)).Nodup := by
  cases hs : d.state? state with
  | none => simp [transitions, hs]
  | some s => simpa [transitions, hs] using hd.rules s (List.mem_of_find?_eq_some hs)

section

variable (hd : d.Consistent) (hd' : d'.Consistent) (h : d.SharesReachable d') {state : String}
  (hstate : d.Reaches state)

include hd hd' h hstate

/-- On a reachable name both descriptions have a state, and the two differ by a rearrangement of
transitions at most. -/
theorem SharesReachable.exists_states : ∃ s ∈ d.states, ∃ s',
    d.state? state = some s ∧ d'.state? state = some s' ∧ s.name = state ∧ s.Rearranges s' := by
  obtain ⟨s, hs, hsome, rfl⟩ := exists_state? (hd.reaches_mem hstate)
  obtain ⟨⟨s', hs', hrearranges⟩, -⟩ := h.states s hs hstate
  refine ⟨s, hs, s', hsome, ?_, rfl, hrearranges⟩
  rw [← hrearranges.name]
  exact hd'.state?_eq hs'

theorem SharesReachable.mem_stateNames : state ∈ d'.stateNames := by
  obtain ⟨s, -, s', -, hs', hname, hrearranges⟩ := h.exists_states hd hd' hstate
  rw [← hname, ← hrearranges.name]
  exact List.mem_map_of_mem (List.mem_of_find?_eq_some hs')

theorem SharesReachable.transitions_perm :
    (d.transitions state).Perm (d'.transitions state) := by
  obtain ⟨s, -, s', hs, hs', -, hrearranges⟩ := h.exists_states hd hd' hstate
  simpa [transitions, hs, hs'] using hrearranges.transitions

/-- Both descriptions react to a trigger with the same transition. -/
theorem SharesReachable.find?_transition (trigger : String) :
    (d.transitions state).find? (·.trigger = trigger) =
      (d'.transitions state).find? (·.trigger = trigger) :=
  find?_eq_of_perm (h.transitions_perm hd hd' hstate) (hd.nodup_transitions state) trigger

theorem SharesReachable.exitCommands_eq :
    (d.state? state).map State.exitCommands = (d'.state? state).map State.exitCommands := by
  obtain ⟨s, -, s', hs, hs', -, hrearranges⟩ := h.exists_states hd hd' hstate
  simp only [hs, hs', Option.map_some, State.exitCommands, hrearranges.name, hrearranges.onExit]

theorem SharesReachable.entryCommands_eq :
    (d.state? state).map State.entryCommands = (d'.state? state).map State.entryCommands := by
  obtain ⟨s, -, s', hs, hs', -, hrearranges⟩ := h.exists_states hd hd' hstate
  simp only [hs, hs', Option.map_some, State.entryCommands, hrearranges.name,
    hrearranges.onEntry]

/-- A reachable state looks the same from outside in both descriptions. -/
theorem SharesReachable.view_eq : d.view state = d'.view state := by
  obtain ⟨s, hs, -, -, -, hname, -⟩ := h.exists_states hd hd' hstate
  have hfinal : state ∈ d.finalStates ↔ state ∈ d'.finalStates := by
    subst hname
    exact (h.states s hs hstate).2
  have htriggers := sortNames_eq_of_perm
    ((h.transitions_perm hd hd' hstate).map (·.trigger))
  rw [view, view, isFinal, isFinal, htriggers, decide_eq_decide.mpr hfinal]

end

/-! ## Runs -/

theorem invariant_reaches (d : Description) : d.Invariant d.Reaches where
  initial := .initial
  move := by
    intro state t target hstate ht htarget
    obtain ⟨s, hs, rfl, hts⟩ := exists_state_of_mem_transitions ht
    exact .move hs hstate hts htarget

section

variable (host : Host) (past : List Command) {state : String}
  (hd : d.Consistent) (hd' : d'.Consistent) (h : d.SharesReachable d')

include hd hd' h

/-- One trigger at a reachable state: commands, endings and successor agree. -/
theorem SharesReachable.apply_eq (hstate : d.Reaches state) (trigger : String) :
    d.apply host past state trigger = d'.apply host past state trigger := by
  rw [apply, apply, ← h.find?_transition hd hd' hstate]
  cases hfind : (d.transitions state).find? (·.trigger = trigger) with
  | none => rfl
  | some t =>
      cases hreaction : t.reaction with
      | ignore => simp only [hreaction]
      | permit target effects =>
          have htarget : d.Reaches target :=
            d.invariant_reaches.move hstate (List.mem_of_find?_eq_some hfind)
              (by simp [Transition.target?, hreaction])
          have hroute : d.route state target trigger effects =
              d'.route state target trigger effects := by
            rw [route, route, h.exitCommands_eq hd hd' hstate, h.entryCommands_eq hd hd' htarget]
          simp only [hreaction, hroute]

theorem SharesReachable.fire_eq (hstate : d.Reaches state) (source : UInt32)
    (payload : String) :
    d.fire host past state source payload = d'.fire host past state source payload := by
  have hfind : d.triggers.find? (fun t ↦ t.source = source ∧ t.payload = payload) =
      d'.triggers.find? fun t ↦ t.source = source ∧ t.payload = payload := by
    simpa only [Prod.mk.injEq] using find?_eq_of_perm h.triggers hd.events (source, payload)
  rw [fire, fire, hfind]
  cases d'.triggers.find? fun t ↦ t.source = source ∧ t.payload = payload with
  | none => rfl
  | some t => exact h.apply_eq host past hd hd' hstate t.name

theorem SharesReachable.fireTrigger_eq (hstate : d.Reaches state) (trigger : String) :
    d.fireTrigger host past state trigger = d'.fireTrigger host past state trigger := by
  have hfind : d.trigger? trigger = d'.trigger? trigger :=
    find?_eq_of_perm h.triggers hd.triggerNames trigger
  rw [fireTrigger, fireTrigger, hfind]
  cases d'.trigger? trigger with
  | none => rfl
  | some t => exact h.apply_eq host past hd hd' hstate t.name

/-- In a reachable state both descriptions answer an action alike. -/
theorem SharesReachable.act_eq (hstate : d.Reaches state) (a : Action) :
    d.act host past state a = d'.act host past state a := by
  cases a with
  | fire source payload => exact h.fire_eq host past hd hd' hstate source payload
  | inject source payload =>
      have hnext : d.Reaches (d.fire host past state source payload).next :=
        d.invariant_reaches.next_act host past hstate (.fire source payload)
      have hfinal : d.isFinal (d.fire host past state source payload).next =
          d'.isFinal (d.fire host past state source payload).next :=
        congrArg View.isFinal (h.view_eq hd hd' hnext)
      rw [act, act, ← h.fire_eq host past hd hd' hstate, hfinal]
  | fireTrigger trigger => exact h.fireTrigger_eq host past hd hd' hstate trigger
  | reset => rw [act, act, h.initialState]

end

theorem SharesReachable.view_machineAt_eq (hd : d.Consistent) (hd' : d'.Consistent)
    (h : d.SharesReachable d') {state : String} (hstate : d.Reaches state) :
    (d.machineAt state).view = (d'.machineAt state).view := by
  rw [view_machineAt hd (hd.reaches_mem hstate),
    view_machineAt hd' (h.mem_stateNames hd hd' hstate), h.view_eq hd hd' hstate]

/-- The machines of both descriptions, numbered differently, stay in states of the same name. -/
theorem SharesReachable.run_machineAt_eq (hd : d.Consistent) (hd' : d'.Consistent)
    (h : d.SharesReachable d') (host : Host) (past : List Command) {state : String}
    (hstate : d.Reaches state) (as : List Action) :
    ((d.machineAt state).run host past as).map (·.map Machine.view) =
      ((d'.machineAt state).run host past as).map (·.map Machine.view) := by
  apply map_drive_eq
    (fun m m' ↦ ∃ state, d.Reaches state ∧ m = d.machineAt state ∧ m' = d'.machineAt state) _ past
    ⟨state, hstate, rfl, rfl⟩
  rintro past m m' a ⟨state, hstate, rfl, rfl⟩
  have hnext := d.invariant_reaches.next_act host past hstate a
  rw [act_machineAt host past hd (hd.reaches_mem hstate),
    act_machineAt host past hd' (h.mem_stateNames hd hd' hstate),
    ← h.act_eq host past hd hd' hstate]
  refine ⟨?_, rfl, _, hnext, rfl, rfl⟩
  rw [Response.map, Response.map, Response.map, Response.map, h.view_machineAt_eq hd hd' hnext]

/-- Accepted descriptions that agree on what can be reached from the initial state, in whatever
order they declare it and whatever else they declare, compile to machines that cannot be told
apart. -/
theorem run_eq_of_sharesReachable {x x' : Draft} {d d' : Description}
    {compilers compilers' : Compilers} {p p' : Program} (hd : ofDraft x = .ok d)
    (hd' : ofDraft x' = .ok d') (h : d.SharesReachable d')
    (hp : (d.compile compilers).result = .ok p) (hp' : (d'.compile compilers').result = .ok p') :
    (Machine.start p).view = (Machine.start p').view ∧
      ∀ (host : Host) (past : List Command) (as : List Action),
        ((Machine.start p).run host past as).map (·.map Machine.view) =
          ((Machine.start p').run host past as).map (·.map Machine.view) := by
  have hconsistent := consistent_of_ofDraft hd
  have hconsistent' := consistent_of_ofDraft hd'
  have hstart : Machine.start p = d.machineAt d.initialState := by
    rw [eq_assemble_of_compile hconsistent hp]
    rfl
  have hstart' : Machine.start p' = d'.machineAt d.initialState := by
    rw [eq_assemble_of_compile hconsistent' hp', ← h.initialState]
    rfl
  rw [hstart, hstart']
  refine ⟨h.view_machineAt_eq hconsistent hconsistent' .initial, fun host past as ↦ ?_⟩
  exact h.run_machineAt_eq hconsistent hconsistent' host past .initial as

/-- A turnstile.  Nothing leads to the last of its states. -/
def turnstile : Draft where
  initialState := some "locked"
  finalStates := some [some "open"]
  triggers := some [
    { name := some "coin", source := some 1, payload := some "paid" },
    { name := some "push", source := some 2, payload := some "pushed" }]
  states := some [
    { name := some "locked"
      onExit := some [{ device := some 7, command := some "release" }]
      transitions := some [
        { trigger := some "coin", target := some "open" },
        { trigger := some "push", ignore := some true }] },
    { name := some "open"
      transitions := some [
        { trigger := some "coin", target := some "open"
          effects := some [{ device := some 7, command := some "thank" }] },
        { trigger := some "push", target := some "locked" }] },
    { name := some "jammed"
      transitions := some [{ trigger := some "coin", target := some "jammed" }] }]

def turnstileDescription : Description where
  initialState := "locked"
  finalStates := ["open"]
  triggers := [⟨"coin", 1, "paid"⟩, ⟨"push", 2, "pushed"⟩]
  states := [
    ⟨"locked", [], [⟨7, "release"⟩], [⟨"coin", .permit "open" []⟩, ⟨"push", .ignore⟩]⟩,
    ⟨"open", [], [],
      [⟨"coin", .permit "open" [⟨7, "thank"⟩]⟩, ⟨"push", .permit "locked" []⟩]⟩,
    ⟨"jammed", [], [], [⟨"coin", .permit "jammed" []⟩]⟩]
  draft := turnstile

/-- The turnstile, with everything in another order and another state that nothing leads to. -/
def turnstileReordered : Draft where
  initialState := some "locked"
  finalStates := some [some "open", some "closed", some "open"]
  triggers := some [
    { name := some "push", source := some 2, payload := some "pushed" },
    { name := some "coin", source := some 1, payload := some "paid" }]
  states := some [
    { name := some "closed"
      transitions := some [{ trigger := some "push", target := some "open" }] },
    { name := some "open"
      transitions := some [
        { trigger := some "push", target := some "locked" },
        { trigger := some "coin", target := some "open"
          effects := some [{ device := some 7, command := some "thank" }] }] },
    { name := some "locked"
      onExit := some [{ device := some 7, command := some "release" }]
      transitions := some [
        { trigger := some "push", ignore := some true },
        { trigger := some "coin", target := some "open" }] }]

def turnstileReorderedDescription : Description where
  initialState := "locked"
  finalStates := ["open", "closed", "open"]
  triggers := [⟨"push", 2, "pushed"⟩, ⟨"coin", 1, "paid"⟩]
  states := [
    ⟨"closed", [], [], [⟨"push", .permit "open" []⟩]⟩,
    ⟨"open", [], [],
      [⟨"push", .permit "locked" []⟩, ⟨"coin", .permit "open" [⟨7, "thank"⟩]⟩]⟩,
    ⟨"locked", [], [⟨7, "release"⟩], [⟨"push", .ignore⟩, ⟨"coin", .permit "open" []⟩]⟩]
  draft := turnstileReordered

theorem reaches_turnstile {state : String} (h : turnstileDescription.Reaches state) :
    state = "locked" ∨ state = "open" := by
  have hmoves : ∀ s ∈ turnstileDescription.states, s.name = "locked" ∨ s.name = "open" →
      ∀ t ∈ s.transitions, ∀ target ∈ t.target?, target = "locked" ∨ target = "open" := by
    decide
  induction h with
  | initial => exact Or.inl rfl
  | move hs _ ht htarget ih => exact hmoves _ hs ih _ ht _ htarget

theorem turnstile_sharesReachable :
    turnstileDescription.SharesReachable turnstileReorderedDescription where
  initialState := rfl
  triggers := by decide
  states := by
    intro s hs hreach
    simp only [turnstileDescription, List.mem_cons, List.not_mem_nil, or_false] at hs
    rcases hs with rfl | rfl | rfl
    · exact ⟨⟨_, .tail _ (.tail _ (.head _)), rfl, rfl, rfl, by decide⟩, by decide⟩
    · exact ⟨⟨_, .tail _ (.head _), rfl, rfl, rfl, by decide⟩, by decide⟩
    · exact absurd (reaches_turnstile hreach) (by decide)

theorem run_eq_of_sharesReachable_turnstile :
    ofDraft turnstile = .ok turnstileDescription ∧
      ofDraft turnstileReordered = .ok turnstileReorderedDescription ∧
      turnstileDescription.SharesReachable turnstileReorderedDescription ∧
      (turnstileDescription.compile fun _ ↦ some fun _ ↦ none).result =
        .ok turnstileDescription.assemble ∧
      (turnstileReorderedDescription.compile fun _ ↦ some fun _ ↦ none).result =
        .ok turnstileReorderedDescription.assemble ∧
      turnstileDescription.assemble.initial = 0 ∧
      turnstileReorderedDescription.assemble.initial = 2 ∧
      ∀ (host : Host) (past : List Command) (as : List Action),
        ((Machine.start turnstileDescription.assemble).run host past as).map
            (·.map Machine.view) =
          ((Machine.start turnstileReorderedDescription.assemble).run host past as).map
            (·.map Machine.view) := by
  have hd : ofDraft turnstile = .ok turnstileDescription := rfl
  have hd' : ofDraft turnstileReordered = .ok turnstileReorderedDescription := rfl
  have hp : (turnstileDescription.compile fun _ ↦ some fun _ ↦ none).result =
      .ok turnstileDescription.assemble := rfl
  have hp' : (turnstileReorderedDescription.compile fun _ ↦ some fun _ ↦ none).result =
      .ok turnstileReorderedDescription.assemble := rfl
  refine ⟨hd, hd', turnstile_sharesReachable, hp, hp', by decide, by decide, ?_⟩
  exact (run_eq_of_sharesReachable hd hd' turnstile_sharesReachable hp hp').2

end Description

end EventMachine
