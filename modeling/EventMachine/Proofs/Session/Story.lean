import EventMachine.Proofs.Description.Passage
import EventMachine.Proofs.Session.Devices

/-!
# Reports and journal tell one story

The reports of a session lead from state to state, and the journal is what the transitions they
speak of execute on print and fail devices, in the same order.  No report speaks of a failure, since
every command is executed on a device that is there, and no kind of device fails.
-/

namespace EventMachine

/-- The host executes every behavior of a description without a failure. -/
def Host.Serves (host : Host) (d : Description) : Prop :=
  ∀ past c, c.behavior ∈ d.behaviors → host past c = none

/-- Where every device is provided, declared behaviors never fail. -/
theorem Host.Serves.failures_execute {host : Host} {d : Description} (h : host.Serves d)
    {cs : List Command} (hcs : ∀ c ∈ cs, c.behavior ∈ d.behaviors) (past : List Command) :
    failures (execute host past cs) = 0 := by
  induction cs generalizing past with
  | nil => rfl
  | cons c cs ih =>
      rw [List.forall_mem_cons] at hcs
      rw [failures, execute, h past c hcs.1, List.countP_cons]
      exact ih hcs.2 _

namespace Description

variable {d : Description}

/-- What comes of an event on a host that serves the description: the outcome, the state after it
and the behaviors executed.  A transition is taken with all that is on the way, or nothing
happens. -/
inductive Answered (d : Description) (state : String) : Outcome → String → List Behavior → Prop
  | moved (trigger target : String) : d.Answered state (.transitioned trigger state target 0)
      target (d.passage trigger state target)
  | stayed {o : Outcome} (h : o.isTransition = false) : d.Answered state o state []

def Settles (d : Description) (state : String) (a : Response String) : Prop :=
  ∃ o, a.outcome = some o ∧ d.Answered state o a.next (a.commands.map Command.behavior)

section

variable {host : Host} (h : host.Serves d)

include h

/-- The commands of one trigger are those the report will be read to tell. -/
theorem settles_apply (past : List Command) (state trigger : String) :
    d.Settles state (d.apply host past state trigger) := by
  rw [apply]
  cases hfind : (d.transitions state).find? (·.trigger = trigger) with
  | none => exact ⟨_, rfl, .stayed rfl⟩
  | some t =>
      cases hreaction : t.reaction with
      | ignore =>
          simp only [hreaction]
          exact ⟨_, rfl, .stayed rfl⟩
      | permit target effects =>
          have hnone : failures (execute host past (d.route state target trigger effects)) = 0 :=
            h.failures_execute (fun c hc ↦ behavior_mem_of_mem_route hfind hreaction hc) past
          simp only [hreaction, hnone]
          refine ⟨_, rfl, ?_⟩
          rw [Response.commands, map_command_execute, map_behavior_route hfind hreaction]
          exact .moved trigger target

theorem settles_fire (past : List Command) (state : String) (source : UInt32)
    (payload : String) : d.Settles state (d.fire host past state source payload) := by
  rw [fire]
  split
  · exact settles_apply h past state _
  · exact ⟨_, rfl, .stayed rfl⟩

end

end Description

/-! ## Reports -/

namespace Report

/-- A report that a session gives in a state with this name. -/
structure Continues (d : Description) (state : String) (r : Report) : Prop where
  moved : ∀ trigger source target failed, r.outcome = .transitioned trigger source target failed →
    source = state ∧ target = r.state ∧ failed = 0
  stayed : r.outcome.isTransition = false → r.state = state
  isFinal : r.isFinal = true ↔ r.state ∈ d.finalStates

/-- Reports of which each continues the one before, and the first one some state. -/
def Chain (d : Description) : String → List Report → Prop
  | _, [] => True
  | state, r :: rs => r.Continues d state ∧ Chain d r.state rs

/-- The behaviors that were executed according to a report. -/
def story (d : Description) (r : Report) : List Behavior :=
  match r.outcome with
  | .transitioned trigger source target _ => d.passage trigger source target
  | .unknownEvent => []
  | .unhandled _ => []
  | .ignored _ => []

section

variable {d : Description} {state : String} {r : Report} {bs : List Behavior}
  (h : d.Answered state r.outcome r.state bs)

include h

/-- A report continues the story at the state where the last one left it. -/
theorem continues_of_answered (hfinal : r.isFinal = d.isFinal r.state) : r.Continues d state where
  moved := by
    intro trigger source target failed hr
    rw [hr] at h
    cases h with
    | moved => exact ⟨rfl, rfl, rfl⟩
    | stayed hstill => cases hstill
  stayed := by
    intro hr
    generalize r.outcome = o at h hr
    generalize r.state = next at h
    cases h with
    | moved => cases hr
    | stayed => rfl
  isFinal := by rw [hfinal, Description.isFinal, decide_eq_true_iff]

theorem story_of_answered : r.story d = bs := by
  rw [story]
  generalize r.outcome = o at h
  cases h with
  | moved => rfl
  | stayed hstill =>
      cases o with
      | transitioned _ _ _ _ => cases hstill
      | unknownEvent => rfl
      | unhandled _ => rfl
      | ignored _ => rfl

end

theorem mem_behaviors_of_mem_story {d : Description} {r : Report} {b : Behavior}
    (h : b ∈ r.story d) : b ∈ d.behaviors := by
  rw [story] at h
  split at h
  · exact Description.mem_behaviors_of_mem_passage h
  · cases h
  · cases h
  · cases h

end Report

/-! ## Sessions -/

namespace Session

inductive Use
  | step (source : UInt32) (payload : String)
  | replay (events : List ScriptEvent)
  deriving DecidableEq, Repr

def use (s : Session) : Use → List Report × Session
  | .step source payload =>
    let (r, t, _) := s.step source payload
    ([r], t)
  | .replay events =>
    let (rs, t, _) := s.replay events
    (rs, t)

def useAll (s : Session) : List Use → List Report × Session
  | [] => ([], s)
  | u :: us =>
    let (rs, t) := s.use u
    let (rs', t') := t.useAll us
    (rs ++ rs', t')

/-- A session gives reports on single events and becomes another one. -/
inductive Steps : Session → List Report → Session → Prop
  | nil (s : Session) : Steps s [] s
  | cons {s t : Session} {rs : List Report} (source : UInt32) (payload : String)
      (h : Steps (s.step source payload).2.1 rs t) :
      Steps s ((s.step source payload).1 :: rs) t

namespace Steps

variable {s t u : Session} {rs rs' : List Report}

theorem append (h : s.Steps rs t) (h' : t.Steps rs' u) : s.Steps (rs ++ rs') u := by
  induction h with
  | nil s => exact h'
  | cons source payload _ ih => exact .cons source payload (ih h')

theorem replay (s : Session) (es : List ScriptEvent) :
    s.Steps (s.replay es).1 (s.replay es).2.1 := by
  induction es generalizing s with
  | nil => exact .nil s
  | cons e es ih =>
      rw [Session.replay]
      simp only
      split
      · exact .cons e.source e.payload (.nil _)
      · exact .cons e.source e.payload (ih _)

theorem use (s : Session) (u : Use) : s.Steps (s.use u).1 (s.use u).2 := by
  cases u with
  | step source payload => exact .cons source payload (.nil _)
  | replay events => exact .replay s events

theorem useAll (s : Session) (us : List Use) : s.Steps (s.useAll us).1 (s.useAll us).2 := by
  induction us generalizing s with
  | nil => exact .nil s
  | cons u us ih => exact (Steps.use s u).append (ih _)

end Steps

/-- A session for a description in one of its states. -/
structure At (setup : Setup) (d : Description) (state : String) (s : Session) : Prop where
  machine : s.machine = d.machineAt state
  devices : s.devices = (setup.deviceMap d.requiredDevices).1
  provided : ∀ i ∈ d.requiredDevices, s.devices.lookup i ≠ none
  declared : state ∈ d.stateNames

variable {setup : Setup} {d : Description} {state : String} {s t : Session}

/-- A fresh session stands at the initial state with an empty journal. -/
theorem at_of_compile (hd : d.Consistent) (h : (compile setup d).1 = .ok s) :
    s.At setup d d.initialState ∧ s.journal = [] := by
  rw [compile] at h
  simp only at h
  split at h
  · cases h
  · rename_i p hp
    obtain rfl : p = d.assemble := Description.eq_assemble_of_compile hd hp
    have hpresent := Description.present_of_compile hp
    cases h
    refine ⟨⟨rfl, rfl, fun i hi hnone ↦ hpresent i hi ?_, hd.initialState⟩, rfl⟩
    rw [Setup.DeviceMap.compilers, hnone, Option.map_none]

/-- The devices of a session execute all that its description has executed. -/
theorem At.serves (h : s.At setup d state) : s.devices.host.Serves d := fun past _ hc ↦
  Setup.DeviceMap.host_eq_none (h.provided _ (Description.device_mem_requiredDevices hc)) past

/-- What a step enters in the journal. -/
theorem At.journal_after (h : s.At setup d state) {x : Step}
    (hx : ∀ e ∈ x.ran, e.command.behavior ∈ d.behaviors) : (s.after x).journal =
      s.journal ++ ((x.ran.map (·.command)).map Command.behavior).filterMap setup.entry? := by
  have hentries : (x.ran.flatMap fun e ↦ s.devices.entries e.command) =
      x.ran.filterMap fun e ↦ setup.entry? e.command.behavior := by
    rw [List.filterMap_eq_flatMap_toList, h.devices]
    exact List.flatMap_congr fun e he ↦
      setup.entries_deviceMap (Description.device_mem_requiredDevices (hx e he))
  rw [after, hentries, List.map_map, List.filterMap_map]
  rfl

/-- One step: the report continues the story, the session moves with it, and the journal grows
by what the report tells. -/
theorem At.step (hd : d.Consistent) (h : s.At setup d state) (source : UInt32)
    (payload : String) :
    let r := (s.step source payload).1
    let t := (s.step source payload).2.1
    r.Continues d state ∧ t.At setup d r.state ∧
      t.journal = s.journal ++ (r.story d).filterMap setup.entry? := by
  intro r t
  have hfire := Description.fire_machineAt s.devices.host [] hd h.declared source payload
  have hdeclared :=
    hd.invariant_declared.next_act s.devices.host [] h.declared (.fire source payload)
  obtain ⟨o, ho, hanswered⟩ := Description.settles_fire h.serves [] state source payload
  rw [Description.act] at hdeclared
  rw [← h.machine] at hfire
  generalize d.fire s.devices.host [] state source payload = a at hfire hdeclared ho hanswered
  have hmachine : t.machine = d.machineAt a.next := congrArg Response.next hfire
  have hcommands : (s.machine.fire s.devices.host [] source payload).ran.map (·.command) =
      a.commands := congrArg Response.commands hfire
  have houtcome : r.outcome = o := Option.some.inj ((congrArg Response.outcome hfire).trans ho)
  have hstate : r.state = a.next := by
    rw [← Description.nameOf_idxOf hdeclared]
    exact congrArg Machine.state hmachine
  have hfinal : r.isFinal = d.isFinal r.state := by
    rw [hstate, ← Description.isFinal_machineAt hd]
    exact congrArg Machine.isFinal hmachine
  rw [← houtcome, ← hstate] at hanswered
  rw [← hstate] at hmachine hdeclared
  have hstory : r.story d = a.commands.map Command.behavior :=
    Report.story_of_answered hanswered
  refine ⟨Report.continues_of_answered hanswered hfinal,
    ⟨hmachine, h.devices, h.provided, hdeclared⟩, ?_⟩
  rw [hstory, ← hcommands]
  refine h.journal_after fun e he ↦ Report.mem_behaviors_of_mem_story (r := r) ?_
  rw [hstory, ← hcommands]
  exact List.mem_map_of_mem (List.mem_map_of_mem he)

/-- What one step after another tells. -/
theorem Steps.tells (hd : d.Consistent) {rs : List Report} (hsteps : s.Steps rs t)
    (h : s.At setup d state) : Report.Chain d state rs ∧
      t.journal = s.journal ++ (rs.flatMap (Report.story d)).filterMap setup.entry? := by
  induction hsteps generalizing state with
  | nil s => exact ⟨trivial, by simp⟩
  | cons source payload _ ih =>
      obtain ⟨hcontinues, hat, hjournal⟩ := h.step hd source payload
      obtain ⟨hchain, hrest⟩ := ih hat
      refine ⟨⟨hcontinues, hchain⟩, ?_⟩
      rw [hrest, hjournal, List.flatMap_cons, List.filterMap_append, List.append_assoc]

/-- However a session for an accepted description is driven, its reports lead without a gap from
the initial state on, none of them speaks of a failure, and the journal can be told from them. -/
theorem reports_tell_journal {x : Draft} {d : Description} {setup : Setup} {s : Session}
    (hd : Description.ofDraft x = .ok d) (hs : (compile setup d).1 = .ok s) (us : List Use) :
    Report.Chain d d.initialState (s.useAll us).1 ∧
      (s.useAll us).2.journal =
        ((s.useAll us).1.flatMap (Report.story d)).filterMap setup.entry? := by
  have hconsistent : d.Consistent := Description.consistent_of_ofDraft hd
  obtain ⟨hat, hempty⟩ := at_of_compile hconsistent hs
  obtain ⟨hchain, hjournal⟩ := (Steps.useAll s us).tells hconsistent hat
  rw [hempty, List.nil_append] at hjournal
  exact ⟨hchain, hjournal⟩

/-- The later of two devices prints what the lamp does; a replay ends when the lamp is off. -/
def lampSetup : Setup where
  devices := [{ id := 7, kind := .log }, { id := 7, kind := .print, lead := some "lamp: " }]
  stopOnFinal := true

def lampSession : Session where
  machine := .start Description.lampDescription.assemble
  devices := [(7, { id := 7, kind := .print, lead := some "lamp: " })]
  stopOnFinal := true

def lampUses : List Use :=
  [.step 1 "press", .step 2 "press", .replay [⟨1, 1, "press"⟩, ⟨2, 1, "press"⟩]]

theorem reports_tell_journal_lamp :
    Description.ofDraft Description.lamp = .ok Description.lampDescription ∧
      (compile lampSetup Description.lampDescription).1 = .ok lampSession ∧
      (lampSession.useAll lampUses).1 = [
        ⟨1, "press", .transitioned "switch" "off" "on" 0, "on", false⟩,
        ⟨2, "press", .unknownEvent, "on", false⟩,
        ⟨1, "press", .transitioned "switch" "on" "off" 0, "off", true⟩] ∧
      (lampSession.useAll lampUses).2.journal = [⟨7, "lamp: light"⟩, ⟨7, "lamp: darken"⟩] ∧
      Report.Chain Description.lampDescription "off" (lampSession.useAll lampUses).1 ∧
      (lampSession.useAll lampUses).2.journal =
        ((lampSession.useAll lampUses).1.flatMap
          (Report.story Description.lampDescription)).filterMap lampSetup.entry? := by
  have hd : Description.ofDraft Description.lamp = .ok Description.lampDescription := rfl
  have hs : (compile lampSetup Description.lampDescription).1 = .ok lampSession := rfl
  exact ⟨hd, hs, by decide, by decide, reports_tell_journal hd hs lampUses⟩

end Session

end EventMachine
