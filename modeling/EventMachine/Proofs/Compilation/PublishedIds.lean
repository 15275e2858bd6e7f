import EventMachine.Proofs.Compilation.Introspection
import EventMachine.Proofs.Description.Passage

/-!
# Published ids

A machine tells from the start which devices it controls and which event sources it handles.  Both
are read off the description before anything is compiled; nothing that happens later goes beyond
them, and every source is one that the machine really listens to.
-/

namespace EventMachine

namespace Description

variable {d : Description} {m : Machine}

theorem mem_eventSources {source : UInt32} :
    source ∈ d.eventSources ↔ ∃ t ∈ d.triggers, t.source = source := by
  rw [eventSources, IdList.mem_ascending, List.mem_map]

/-- A compiled machine executes commands of required devices only. -/
theorem device_mem_of_reached (hd : d.Consistent) (h : Machine.Reached d.assemble m)
    (host : Host) (past : List Command) (a : Action) :
    ∀ c ∈ (m.act host past a).commands, c.device ∈ d.requiredDevices := by
  obtain ⟨state, hstate, rfl⟩ := exists_eq_machineAt hd h
  intro c hc
  rw [act_machineAt host past hd hstate a] at hc
  have hbehavior : c.behavior ∈ d.behaviors :=
    forall_behavior_mem_of_act host past state a c hc
  exact device_mem_requiredDevices hbehavior

theorem Consistent.source_mem_of_fire (hd : d.Consistent) (hm : m.program = d.assemble)
    (host : Host) (past : List Command) {source : UInt32} {payload : String}
    (h : (m.fire host past source payload).outcome ≠ .unknownEvent) :
    source ∈ d.eventSources := by
  by_contra hsource
  apply h
  rw [hd.fire_of_unknown host past hm]
  rintro t ht ⟨heq, -⟩
  exact hsource (mem_eventSources.mpr ⟨t, ht, heq⟩)

/-- The ids that a machine publishes bound every run.  The devices are the required ones.  However a
machine and those spawned from it are driven, every command they execute is one for these
devices.  An event that does not come out as unknown is one of a published source, and for each of
these sources there is a payload that no machine reached takes for unknown. -/
theorem published_ids_bound_runs {x : Draft} {compilers : Compilers} {p : Program}
    (hd : ofDraft x = .ok d) (hp : (d.compile compilers).result = .ok p) :
    p.devices = d.requiredDevices ∧
    (∀ (host : Host) (past : List Command) (os : List Operation),
      (∀ m ∈ (Fleet.run host ⟨[.start p], past⟩ os).machines, Machine.Reached p m) ∧
      ∃ executed, (Fleet.run host ⟨[.start p], past⟩ os).past = past ++ executed ∧
        ∀ c ∈ executed, c.device ∈ p.devices) ∧
    (∀ m, Machine.Reached p m → m.program = p ∧
      ∀ (host : Host) (past : List Command) (source : UInt32) (payload : String),
        ((m.fire host past source payload).outcome ≠ .unknownEvent → source ∈ p.sources) ∧
        ((m.inject host past source payload).1.outcome ≠ .unknownEvent →
          source ∈ p.sources)) ∧
    ∀ source ∈ p.sources, ∃ payload, ∀ m, Machine.Reached p m →
      ∀ (host : Host) (past : List Command),
        (m.fire host past source payload).outcome ≠ .unknownEvent := by
  have hconsistent : d.Consistent := consistent_of_ofDraft hd
  obtain rfl : p = d.assemble := eq_assemble_of_compile hconsistent hp
  have hstart : ∀ m ∈ [Machine.start d.assemble], Machine.Reached d.assemble m := by
    simp [Machine.Reached.start]
  refine ⟨rfl, fun host past os ↦ ⟨Fleet.reached_run host hstart os, ?_⟩, fun m hm ↦ ?_,
    fun source hsource ↦ ?_⟩
  · refine Fleet.exists_past_run (fun past m a hm ↦ ?_) hstart os
    exact device_mem_of_reached hconsistent hm host past a
  · have hprogram : m.program = d.assemble := program_of_reached hconsistent hm
    refine ⟨hprogram, fun host past source payload ↦ ⟨?_, ?_⟩⟩
    · exact hconsistent.source_mem_of_fire hprogram host past
    · exact hconsistent.source_mem_of_fire hprogram host past
  · obtain ⟨t, ht, rfl⟩ := mem_eventSources.mp hsource
    refine ⟨t.payload, fun m hm host past ↦ ?_⟩
    have hprogram : m.program = d.assemble := program_of_reached hconsistent hm
    rw [hconsistent.fire_eq_apply host past hprogram ht]
    exact m.outcome_apply_ne_unknownEvent host past t.name

/-- Two lamps, one spawned from the other, that share their device. -/
theorem published_ids_bound_runs_lamp :
    let p := lampDescription.assemble
    let os : List Operation :=
      [.act 0 (.fire 1 "press"), .spawn 0, .act 1 (.inject 1 "press"), .act 0 (.fireTrigger "switch")]
    ofDraft lamp = .ok lampDescription ∧
      (lampDescription.compile fun _ ↦ some fun _ ↦ none).result = .ok p ∧
      p.devices = [7] ∧ p.sources = [1] ∧
      (Fleet.run .reliable ⟨[.start p], []⟩ os).past.map Command.behavior =
        [⟨7, "light"⟩, ⟨7, "light"⟩, ⟨7, "darken"⟩] ∧
      (∀ (host : Host) (past : List Command) (os : List Operation),
        ∃ executed, (Fleet.run host ⟨[.start p], past⟩ os).past = past ++ executed ∧
          ∀ c ∈ executed, c.device ∈ p.devices) ∧
      ∀ m, Machine.Reached p m → ∀ (host : Host) (past : List Command) (payload : String),
        (m.fire host past 2 payload).outcome = .unknownEvent := by
  intro p os
  have hd : ofDraft lamp = .ok lampDescription := rfl
  have hp : (lampDescription.compile fun _ ↦ some fun _ ↦ none).result = .ok p := rfl
  have hsources : p.sources = [1] := rfl
  obtain ⟨-, hruns, hreached, -⟩ := published_ids_bound_runs hd hp
  refine ⟨hd, hp, rfl, hsources, by decide, fun host past os ↦ (hruns host past os).2, ?_⟩
  intro m hm host past payload
  by_contra h
  have hsource : 2 ∈ p.sources := ((hreached m hm).2 host past 2 payload).1 h
  rw [hsources] at hsource
  exact absurd hsource (by decide)

end Description

end EventMachine
