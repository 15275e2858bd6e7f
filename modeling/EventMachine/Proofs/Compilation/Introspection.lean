import EventMachine.Proofs.Description.Reachable
import EventMachine.Proofs.Description.Spelled
import EventMachine.Proofs.Machine.Fleet
import EventMachine.Proofs.Text.ByteOrder

/-!
# What a machine tells about itself

A compiled machine can be asked for its states, for its final states and for the triggers that its
current state knows, and it can be driven by events or by trigger names.  All of these go through
tables that compilation makes separately; at whatever time they are asked, they agree with each
other and with the description.
-/

namespace EventMachine

open EventMachine.Text

theorem filter_eq_singleton_of_nodup {α κ : Type} [DecidableEq κ] {f : α → κ} {as : List α}
    (hnodup : (as.map f).Nodup) {a : α} (ha : a ∈ as) :
    (as.filter fun b ↦ f b = f a) = [a] := by
  induction as with
  | nil => cases ha
  | cons b as ih =>
      rw [List.map_cons, List.nodup_cons] at hnodup
      rcases List.mem_cons.mp ha with rfl | ha
      · rw [List.filter_cons_of_pos (by simp), List.cons_inj_right, List.filter_eq_nil_iff]
        intro b hb
        simp only [decide_eq_true_eq]
        exact fun heq ↦ hnodup.1 (heq ▸ List.mem_map_of_mem hb)
      · have hne : f b ≠ f a := fun heq ↦ hnodup.1 (heq ▸ List.mem_map_of_mem ha)
        rw [List.filter_cons_of_neg (by simp [hne]), ih hnodup.2 ha]

theorem nodup_eraseDups {α : Type} [DecidableEq α] : ∀ as : List α, as.eraseDups.Nodup
  | [] => List.nodup_nil
  | a :: as => by
      have hlength := List.length_filter_le (fun b ↦ !b == a) as
      rw [List.eraseDups_cons, List.nodup_cons]
      exact ⟨by simp [List.mem_eraseDups], nodup_eraseDups _⟩
termination_by as => as.length

/-! ## Outcomes of a trigger -/

namespace Machine

variable (host : Host) (past : List Command) (m : Machine) (trigger : String)

/-- What a trigger comes to is decided by the rule for it. -/
theorem outcome_apply : (m.apply host past trigger).outcome =
    match m.rule? trigger with
    | none => .unhandled trigger
    | some .ignore => .ignored trigger
    | some (.permit target effects) =>
      .transitioned trigger m.state (m.program.nameOf target)
        (failures (execute host past (m.route target effects))) := by
  cases h : m.rule? trigger with
  | none => rw [apply_of_none host past h]
  | some r =>
      cases r with
      | ignore => rw [apply_of_ignore host past h]
      | permit target effects => rw [apply_of_permit host past h]; rfl

/-- A trigger that is applied is never answered as an unknown event: that answer is given
before, by the table or by the list of triggers. -/
theorem outcome_apply_ne_unknownEvent :
    (m.apply host past trigger).outcome ≠ .unknownEvent := by
  rw [outcome_apply]
  split <;> exact Outcome.noConfusion

/-- Unhandled means exactly that the current state has no rule. -/
theorem outcome_apply_eq_unhandled_iff :
    (m.apply host past trigger).outcome = .unhandled trigger ↔ m.rule? trigger = none := by
  rw [outcome_apply]
  split <;> simp_all

/-- A rule makes the outcome ignored or transitioned, and only a rule does. -/
theorem outcome_apply_handled_iff :
    ((m.apply host past trigger).outcome = .ignored trigger ∨
      ∃ source target failed,
        (m.apply host past trigger).outcome = .transitioned trigger source target failed) ↔
      m.rule? trigger ≠ none := by
  rw [outcome_apply]
  split <;> simp_all

variable {m trigger}

theorem fireTrigger_of_mem (h : trigger ∈ m.program.triggers) :
    m.fireTrigger host past trigger = m.apply host past trigger := if_pos h

theorem fireTrigger_of_notMem (h : trigger ∉ m.program.triggers) :
    m.fireTrigger host past trigger =
      { outcome := .unknownEvent, notice := .unknownTrigger trigger, machine := m } := if_neg h

end Machine

namespace Description

variable {d : Description} {m : Machine}

/-- Whatever is done with it, a compiled machine stays one of its description. -/
theorem exists_eq_machineAt (hd : d.Consistent) (h : Machine.Reached d.assemble m) :
    ∃ state ∈ d.stateNames, m = d.machineAt state := by
  induction h with
  | start => exact ⟨d.initialState, hd.initialState, rfl⟩
  | act host past a _ ih =>
      obtain ⟨state, hstate, rfl⟩ := ih
      refine ⟨_, next_act_mem host past hd hstate a, ?_⟩
      rw [act_machineAt host past hd hstate a]
      rfl
  | spawn _ ih =>
      obtain ⟨_, _, rfl⟩ := ih
      exact ⟨d.initialState, hd.initialState, rfl⟩

theorem program_of_reached (hd : d.Consistent) (h : Machine.Reached d.assemble m) :
    m.program = d.assemble := by
  obtain ⟨state, -, rfl⟩ := exists_eq_machineAt hd h
  rfl

/-- A reached machine stands on a declared state and shows what the description says of it. -/
theorem view_of_reached (hd : d.Consistent) (h : Machine.Reached d.assemble m) :
    m.state ∈ d.stateNames ∧ m.view = d.view m.state := by
  obtain ⟨state, hstate, rfl⟩ := exists_eq_machineAt hd h
  have hname : (d.machineAt state).state = state := nameOf_idxOf hstate
  rw [hname]
  exact ⟨hstate, view_machineAt hd hstate⟩

theorem triggers_of_reached (hd : d.Consistent) (h : Machine.Reached d.assemble m) :
    m.triggers = sortNames ((d.transitions m.state).map (·.trigger)) :=
  congrArg View.triggers (view_of_reached hd h).2

theorem isFinal_iff_of_reached (hd : d.Consistent) (h : Machine.Reached d.assemble m) :
    m.isFinal = true ↔ m.state ∈ d.finalStates := by
  have hfinal : m.isFinal = d.isFinal m.state :=
    congrArg View.isFinal (view_of_reached hd h).2
  rw [hfinal, isFinal, decide_eq_true_iff]

/-- The rule in force is that of the first transition declared for the trigger. -/
theorem rule?_of_reached (hd : d.Consistent) (h : Machine.Reached d.assemble m)
    (trigger : String) : m.rule? trigger =
      ((d.transitions m.state).find? (·.trigger = trigger)).map
        (·.rule d.stateNames m.state) := by
  obtain ⟨state, hstate, rfl⟩ := exists_eq_machineAt hd h
  have hname : (d.machineAt state).state = state := nameOf_idxOf hstate
  rw [hname]
  exact rule?_machineAt hstate trigger

/-! ## Events and triggers -/

theorem Consistent.find?_event (hd : d.Consistent) {t : Trigger} (ht : t ∈ d.triggers) :
    (d.triggers.find? fun u ↦ u.source = t.source ∧ u.payload = t.payload) = some t := by
  simpa only [Prod.mk.injEq] using find?_eq_some_of_nodup hd.events ht

theorem Consistent.filter_event (hd : d.Consistent) {t : Trigger} (ht : t ∈ d.triggers) :
    (d.triggers.filter fun u ↦ u.source = t.source ∧ u.payload = t.payload) = [t] := by
  simpa only [Prod.mk.injEq] using filter_eq_singleton_of_nodup hd.events ht

/-- The event table answers a declared source and payload with the name of their trigger. -/
theorem Consistent.lookup_event (hd : d.Consistent) {t : Trigger} (ht : t ∈ d.triggers) :
    d.assemble.events.lookup t.source t.payload = some t.name := by
  rw [assemble, EventTable.lookup_ofTriggers hd.events, hd.find?_event ht, Option.map_some]

theorem Consistent.exists_of_lookup (hd : d.Consistent) {source : UInt32}
    {payload name : String} (h : d.assemble.events.lookup source payload = some name) :
    ∃ t ∈ d.triggers, t.source = source ∧ t.payload = payload ∧ t.name = name := by
  rw [assemble, EventTable.lookup_ofTriggers hd.events, Option.map_eq_some_iff] at h
  obtain ⟨t, ht, hname⟩ := h
  obtain ⟨hsource, hpayload⟩ : t.source = source ∧ t.payload = payload := by
    simpa using List.find?_some ht
  exact ⟨t, List.mem_of_find?_eq_some ht, hsource, hpayload, hname⟩

theorem Consistent.lookup_eq_none (hd : d.Consistent) {source : UInt32} {payload : String}
    (h : ∀ t ∈ d.triggers, ¬(t.source = source ∧ t.payload = payload)) :
    d.assemble.events.lookup source payload = none := by
  rw [Option.eq_none_iff_forall_ne_some]
  intro name hname
  obtain ⟨t, ht, hsource, hpayload, -⟩ := hd.exists_of_lookup hname
  exact h t ht ⟨hsource, hpayload⟩

/-- Every trigger name comes of one event. -/
theorem Consistent.existsUnique_event (hd : d.Consistent) {name : String}
    (h : name ∈ d.triggerNames) :
    ∃! e : UInt32 × String, d.assemble.events.lookup e.1 e.2 = some name := by
  obtain ⟨t, ht, rfl⟩ := List.mem_map.mp h
  refine ⟨(t.source, t.payload), hd.lookup_event ht, ?_⟩
  rintro ⟨source, payload⟩ hlookup
  obtain ⟨u, hu, rfl, rfl, hname⟩ := hd.exists_of_lookup hlookup
  rw [List.inj_on_of_nodup_map hd.triggerNames hu ht hname]

section

variable (host : Host) (past : List Command) (hd : d.Consistent) (hm : m.program = d.assemble)

include hd hm

theorem Consistent.fire_eq_apply {t : Trigger} (ht : t ∈ d.triggers) :
    m.fire host past t.source t.payload = m.apply host past t.name := by
  rw [Machine.fire, hm, hd.lookup_event ht]

/-- Firing the event of a trigger is firing the trigger by name. -/
theorem Consistent.fire_eq_fireTrigger {t : Trigger} (ht : t ∈ d.triggers) :
    m.fire host past t.source t.payload = m.fireTrigger host past t.name := by
  have hname : t.name ∈ m.program.triggers := by
    rw [hm]
    exact List.mem_map_of_mem ht
  rw [hd.fire_eq_apply host past hm ht, Machine.fireTrigger_of_mem host past hname]

/-- An undeclared source and payload leave the machine as it is. -/
theorem Consistent.fire_of_unknown {source : UInt32} {payload : String}
    (h : ∀ t ∈ d.triggers, ¬(t.source = source ∧ t.payload = payload)) :
    m.fire host past source payload =
      { outcome := .unknownEvent, notice := .unknownEvent source payload, machine := m } := by
  rw [Machine.fire, hm, hd.lookup_eq_none h]

end

/-- Firing an event is firing its trigger by name.  In every machine reached, an event that a
trigger is declared for is that of no other trigger, and comes to exactly what the name of the
trigger comes to; an event and a name that no trigger is declared for come to nothing.  Every
declared name is looked up for exactly one event.  An injection tells whether the state the event
leads to is one of the final states. -/
theorem fire_is_fireTrigger {x : Draft} {compilers : Compilers} {p : Program}
    (hd : ofDraft x = .ok d) (hp : (d.compile compilers).result = .ok p)
    (hm : Machine.Reached p m) (host : Host) (past : List Command) :
    (∀ source payload,
      (∀ t ∈ d.triggers, t.source = source → t.payload = payload →
        (d.triggers.filter fun u ↦ u.source = source ∧ u.payload = payload) = [t] ∧
        m.fire host past source payload = m.fireTrigger host past t.name ∧
        (m.fire host past source payload).outcome ≠ .unknownEvent) ∧
      ((∀ t ∈ d.triggers, ¬(t.source = source ∧ t.payload = payload)) →
        m.fire host past source payload =
          ⟨.unknownEvent, [], .unknownEvent source payload, m⟩) ∧
      (m.inject host past source payload).1 = m.fire host past source payload ∧
      ((m.inject host past source payload).2 = true ↔
        (m.fire host past source payload).machine.state ∈ d.finalStates)) ∧
    ∀ name,
      (name ∈ d.triggerNames →
        ∃! e : UInt32 × String, m.program.events.lookup e.1 e.2 = some name) ∧
      (name ∉ d.triggerNames →
        m.fireTrigger host past name = ⟨.unknownEvent, [], .unknownTrigger name, m⟩ ∧
        ∀ source payload, m.program.events.lookup source payload ≠ some name) := by
  have hconsistent : d.Consistent := consistent_of_ofDraft hd
  obtain rfl : p = d.assemble := eq_assemble_of_compile hconsistent hp
  have hprogram : m.program = d.assemble := program_of_reached hconsistent hm
  refine ⟨fun source payload ↦ ⟨?_, ?_, rfl, ?_⟩, fun name ↦ ⟨fun hname ↦ ?_, fun hname ↦ ⟨?_, ?_⟩⟩⟩
  · rintro t ht rfl rfl
    refine ⟨hconsistent.filter_event ht, ?_, ?_⟩
    · exact hconsistent.fire_eq_fireTrigger host past hprogram ht
    · rw [hconsistent.fire_eq_apply host past hprogram ht]
      exact m.outcome_apply_ne_unknownEvent host past t.name
  · exact hconsistent.fire_of_unknown host past hprogram
  · have hnext : Machine.Reached d.assemble (m.fire host past source payload).machine :=
      hm.act host past (.fire source payload)
    exact isFinal_iff_of_reached hconsistent hnext
  · rw [hprogram]
    exact hconsistent.existsUnique_event hname
  · exact Machine.fireTrigger_of_notMem host past (hprogram ▸ hname)
  · rintro source payload hlookup
    rw [hprogram] at hlookup
    obtain ⟨t, ht, -, -, rfl⟩ := hconsistent.exists_of_lookup hlookup
    exact hname (List.mem_map_of_mem ht)

/-- The turnstile after a coin is pushed.  An event with the right payload from another source is
unknown, and so is the payload when it is taken for a trigger. -/
theorem fire_is_fireTrigger_turnstile :
    let m := ((Machine.start turnstileDescription.assemble).act .reliable []
      (.fire 1 "paid")).next
    ofDraft turnstile = .ok turnstileDescription ∧
      (turnstileDescription.compile fun _ ↦ some fun _ ↦ none).result =
        .ok turnstileDescription.assemble ∧
      Machine.Reached turnstileDescription.assemble m ∧ m.state = "open" ∧
      ∀ (host : Host) (past : List Command),
        m.fire host past 2 "pushed" = m.fireTrigger host past "push" ∧
        m.fire host past 1 "pushed" = ⟨.unknownEvent, [], .unknownEvent 1 "pushed", m⟩ ∧
        m.fireTrigger host past "pushed" =
          ⟨.unknownEvent, [], .unknownTrigger "pushed", m⟩ := by
  intro m
  have hd : ofDraft turnstile = .ok turnstileDescription := rfl
  have hp : (turnstileDescription.compile fun _ ↦ some fun _ ↦ none).result =
      .ok turnstileDescription.assemble := rfl
  have hm : Machine.Reached turnstileDescription.assemble m := .act _ _ _ .start
  refine ⟨hd, hp, hm, by decide, fun host past ↦ ?_⟩
  obtain ⟨hevents, hnames⟩ := fire_is_fireTrigger hd hp hm host past
  refine ⟨?_, (hevents 1 "pushed").2.1 (by decide), ((hnames "pushed").2 (by decide)).1⟩
  exact ((hevents 2 "pushed").1 ⟨"push", 2, "pushed"⟩ (by decide) rfl rfl).2.1

/-! ## Introspection -/

theorem Consistent.known_of_mem_transitions (hd : d.Consistent) {state : String}
    {t : Transition} (ht : t ∈ d.transitions state) : t.trigger ∈ d.triggerNames := by
  obtain ⟨s, hs, -, hts⟩ := exists_state_of_mem_transitions ht
  exact hd.known s hs t hts

/-- The triggers a machine lists are those its current state declares a transition for. -/
theorem mem_triggers_iff_transition (hd : d.Consistent) (h : Machine.Reached d.assemble m)
    {trigger : String} :
    trigger ∈ m.triggers ↔ ∃ t ∈ d.transitions m.state, t.trigger = trigger := by
  rw [triggers_of_reached hd h, mem_sortNames, List.mem_map]

/-- The triggers that a machine lists are those it has a rule for. -/
theorem mem_triggers_iff_rule (hd : d.Consistent) (h : Machine.Reached d.assemble m)
    {trigger : String} : trigger ∈ m.triggers ↔ m.rule? trigger ≠ none := by
  rw [mem_triggers_iff_transition hd h, rule?_of_reached hd h, ne_eq, Option.map_eq_none_iff,
    List.find?_eq_none]
  simp

section

variable (host : Host) (past : List Command) (hd : d.Consistent)
  (h : Machine.Reached d.assemble m) {trigger : String}

include hd h

theorem fireTrigger_of_declared (ht : trigger ∈ d.triggerNames) :
    m.fireTrigger host past trigger = m.apply host past trigger := by
  apply Machine.fireTrigger_of_mem
  rw [program_of_reached hd h]
  exact ht

theorem outcome_fireTrigger_of_undeclared (ht : trigger ∉ d.triggerNames) :
    (m.fireTrigger host past trigger).outcome = .unknownEvent := by
  rw [Machine.fireTrigger_of_notMem]
  rw [program_of_reached hd h]
  exact ht

/-- By name, only an undeclared trigger is an unknown event. -/
theorem outcome_fireTrigger_eq_unknownEvent_iff :
    (m.fireTrigger host past trigger).outcome = .unknownEvent ↔ trigger ∉ d.triggerNames := by
  refine ⟨fun hunknown ht ↦ ?_, outcome_fireTrigger_of_undeclared host past hd h⟩
  rw [fireTrigger_of_declared host past hd h ht] at hunknown
  exact m.outcome_apply_ne_unknownEvent host past trigger hunknown

theorem outcome_fireTrigger_of_unlisted (ht : trigger ∈ d.triggerNames)
    (hlisted : trigger ∉ m.triggers) :
    (m.fireTrigger host past trigger).outcome = .unhandled trigger := by
  rw [fireTrigger_of_declared host past hd h ht, m.outcome_apply_eq_unhandled_iff]
  exact not_not.mp (mt (mem_triggers_iff_rule hd h).mpr hlisted)

/-- Every rule is one for a declared trigger, so the triggers listed are those that come to
something. -/
theorem mem_triggers_iff_handled : trigger ∈ m.triggers ↔
    (m.fireTrigger host past trigger).outcome = .ignored trigger ∨
      ∃ source target failed, (m.fireTrigger host past trigger).outcome =
        .transitioned trigger source target failed := by
  by_cases ht : trigger ∈ d.triggerNames
  · rw [fireTrigger_of_declared host past hd h ht, m.outcome_apply_handled_iff,
      mem_triggers_iff_rule hd h]
  · have hunlisted : trigger ∉ m.triggers := by
      rw [mem_triggers_iff_transition hd h]
      rintro ⟨t, htransition, rfl⟩
      exact ht (hd.known_of_mem_transitions htransition)
    rw [outcome_fireTrigger_of_undeclared host past hd h ht]
    simp [hunlisted]

end

theorem names_assemble (d : Description) : d.assemble.names = d.stateNames := by
  rw [assemble, Program.names, List.map_map, stateNames]
  rfl

theorem Consistent.mem_finalStates (hd : d.Consistent) {name : String} :
    name ∈ d.assemble.finalStates ↔ name ∈ d.finalStates := by
  have hfinals : (∃ i ∈ d.assemble.finals, d.assemble.nameOf i = name) ↔
      ∃ f ∈ d.finalStates, d.assemble.nameOf (d.stateNames.idxOf f) = name := by
    simp [assemble, List.mem_eraseDups]
  rw [Program.finalStates, mem_sortNames, List.mem_map, hfinals]
  constructor
  · rintro ⟨f, hf, rfl⟩
    rwa [nameOf_idxOf (hd.finalStates f hf)]
  · intro hname
    exact ⟨name, hname, nameOf_idxOf (hd.finalStates name hname)⟩

/-- Different numbers of final states are those of different names. -/
theorem Consistent.finalStates_ascending (hd : d.Consistent) :
    d.assemble.finalStates.Pairwise fun a b ↦ octets a < octets b := by
  refine sortNames_ascending (List.Nodup.map_on ?_ (nodup_eraseDups _))
  have hnumber {i : Nat} (hi : i ∈ d.assemble.finals) :
      d.stateNames.idxOf (d.assemble.nameOf i) = i := by
    obtain ⟨f, hf, rfl⟩ := List.mem_map.mp (List.mem_eraseDups.mp hi)
    rw [nameOf_idxOf (hd.finalStates f hf)]
  intro i hi j hj hij
  rw [← hnumber hi, hij, hnumber hj]

/-- What a machine tells about itself foretells what it does.  In every machine reached, the
triggers listed are those that firing by name ignores or takes a transition for; a declared trigger
that is not listed is unhandled, and only a name that is not declared is unknown.  The list holds
the triggers of the transitions that the description declares for the current state, each once and
in ascending order of their bytes.  So are the final states listed; the states are in the order of
their declaration, and a machine is final if its state is one of the final ones. -/
theorem introspection_foretells_outcomes {x : Draft} {compilers : Compilers} {p : Program}
    (hd : ofDraft x = .ok d) (hp : (d.compile compilers).result = .ok p)
    (hm : Machine.Reached p m) (host : Host) (past : List Command) :
    (∀ trigger,
      (trigger ∈ m.triggers ↔
        (m.fireTrigger host past trigger).outcome = .ignored trigger ∨
        ∃ source target failed, (m.fireTrigger host past trigger).outcome =
          .transitioned trigger source target failed) ∧
      (trigger ∈ d.triggerNames → trigger ∉ m.triggers →
        (m.fireTrigger host past trigger).outcome = .unhandled trigger) ∧
      ((m.fireTrigger host past trigger).outcome = .unknownEvent ↔
        trigger ∉ d.triggerNames)) ∧
    m.triggers.Pairwise (fun a b ↦ octets a < octets b) ∧
    m.state ∈ d.stateNames ∧
    (∀ s ∈ d.states, s.name = m.state → ∀ trigger,
      trigger ∈ m.triggers ↔ trigger ∈ s.transitions.map (·.trigger)) ∧
    m.program.finalStates.Pairwise (fun a b ↦ octets a < octets b) ∧
    (∀ name, name ∈ m.program.finalStates ↔ name ∈ d.finalStates) ∧
    m.program.names = d.states.map (·.name) ∧
    (m.isFinal = true ↔ m.state ∈ m.program.finalStates) := by
  have hconsistent : d.Consistent := consistent_of_ofDraft hd
  obtain rfl : p = d.assemble := eq_assemble_of_compile hconsistent hp
  have hprogram : m.program = d.assemble := program_of_reached hconsistent hm
  refine ⟨fun trigger ↦ ⟨?_, ?_, ?_⟩, ?_, (view_of_reached hconsistent hm).1, ?_, ?_, ?_, ?_, ?_⟩
  · exact mem_triggers_iff_handled host past hconsistent hm
  · exact outcome_fireTrigger_of_unlisted host past hconsistent hm
  · exact outcome_fireTrigger_eq_unknownEvent_iff host past hconsistent hm
  · rw [triggers_of_reached hconsistent hm]
    exact sortNames_ascending (hconsistent.nodup_transitions m.state)
  · intro s hs hname trigger
    rw [mem_triggers_iff_transition hconsistent hm, ← hname, hconsistent.transitions_eq hs,
      List.mem_map]
  · rw [hprogram]
    exact hconsistent.finalStates_ascending
  · intro name
    rw [hprogram]
    exact hconsistent.mem_finalStates
  · rw [hprogram]
    exact d.names_assemble
  · rw [hprogram, hconsistent.mem_finalStates]
    exact isFinal_iff_of_reached hconsistent hm

/-- A hatch that was opened knows no trigger any more. -/
theorem introspection_foretells_outcomes_hatch :
    let d := Draft.hatchDescription
    let m := ((Machine.start d.assemble).act .reliable [] (.fire 4294967295 " left")).next
    ofDraft Draft.hatch = .ok d ∧
      (d.compile fun _ ↦ some fun _ ↦ none).result = .ok d.assemble ∧
      Machine.Reached d.assemble m ∧ m.state = "open" ∧ m.triggers = [] ∧
      m.program.finalStates = ["open", "shut"] ∧
      ∀ (host : Host) (past : List Command),
        (m.fireTrigger host past "knock").outcome = .unhandled "knock" ∧
        (m.fireTrigger host past "left").outcome = .unknownEvent := by
  intro d m
  have hd : ofDraft Draft.hatch = .ok d := rfl
  have hp : (d.compile fun _ ↦ some fun _ ↦ none).result = .ok d.assemble := rfl
  have hm : Machine.Reached d.assemble m := .act _ _ _ .start
  have htriggers : m.triggers = [] := List.mergeSort_nil
  have hfinals : m.program.finalStates = ["open", "shut"] :=
    List.mergeSort_of_pairwise (by decide)
  refine ⟨hd, hp, hm, by decide, htriggers, hfinals, fun host past ↦ ?_⟩
  obtain ⟨houtcomes, -⟩ := introspection_foretells_outcomes hd hp hm host past
  refine ⟨(houtcomes "knock").2.1 (by decide) ?_, (houtcomes "left").2.2.mpr (by decide)⟩
  rw [htriggers]
  exact List.not_mem_nil

end Description

end EventMachine
