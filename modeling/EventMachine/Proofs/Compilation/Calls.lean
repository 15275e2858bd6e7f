import EventMachine.Proofs.Compilation.Refinement

/-!
# The calls of a compilation

Behaviors are handed to the compilers of their devices in the order in which the description lists
them, up to the first one that is rejected.  No call is made at all if a device is missing, since
every device that a behavior names is among the required ones.
-/

namespace EventMachine

def Behavior.call (b : Behavior) : Call := ⟨b.device, b.command⟩

/-- What a command executes, wherever it stands. -/
def Command.behavior (c : Command) : Behavior := ⟨c.device, c.text⟩

namespace Compilers

variable (compilers : Compilers)

/-- After the earlier calls the device of a behavior is there and takes its command. -/
def Accepts (earlier : List Call) (b : Behavior) : Prop :=
  ∃ compile, compilers b.device = some compile ∧ compile ⟨earlier, b.command⟩ = none

/-- After the earlier calls the device of a behavior is there and fails to compile its command. -/
def Rejects (earlier : List Call) (b : Behavior) (fault : Fault) : Prop :=
  ∃ compile, compilers b.device = some compile ∧ compile ⟨earlier, b.command⟩ = some fault

/-- One behavior after another is accepted, each after the calls for those before it. -/
def AcceptsAll : List Call → List Behavior → Prop
  | _, [] => True
  | earlier, b :: bs => compilers.Accepts earlier b ∧ AcceptsAll (earlier ++ [b.call]) bs

variable {compilers}

/-- A device with a compiler decides on every command, after any earlier calls. -/
theorem accepts_or_rejects {b : Behavior} (h : compilers b.device ≠ none) (earlier : List Call) :
    compilers.Accepts earlier b ∨ ∃ fault, compilers.Rejects earlier b fault := by
  obtain ⟨compile, hcompile⟩ := Option.ne_none_iff_exists'.mp h
  cases hresult : compile ⟨earlier, b.command⟩ with
  | none => exact Or.inl ⟨compile, hcompile, hresult⟩
  | some fault => exact Or.inr ⟨fault, compile, hcompile, hresult⟩

/-- Behaviors that are accepted after whatever calls are accepted one after another. -/
theorem acceptsAll_of_forall {bs : List Behavior}
    (h : ∀ b ∈ bs, ∀ earlier, compilers.Accepts earlier b) (earlier : List Call) :
    compilers.AcceptsAll earlier bs := by
  induction bs generalizing earlier with
  | nil => trivial
  | cons b bs ih =>
      rw [List.forall_mem_cons] at h
      exact ⟨h.1 earlier, ih h.2 _⟩

end Compilers

/-! ## Commands and behaviors -/

theorem map_behavior_commandsAt (l : Location) (bs : List Behavior) :
    (commandsAt l bs).map Command.behavior = bs := by
  rw [commandsAt, List.map_map]
  exact List.map_id bs

theorem Transition.map_behavior_commands (source : String) (t : Transition) :
    (t.commands source).map Command.behavior = t.effects := by
  rw [commands, effects]
  cases t.reaction with
  | ignore => rfl
  | permit target effects => exact map_behavior_commandsAt _ effects

theorem State.map_behavior_commands (s : State) :
    s.commands.map Command.behavior = s.behaviors := by
  have heffects : (s.transitions.flatMap (·.commands s.name)).map Command.behavior =
      s.transitions.flatMap Transition.effects := by
    rw [List.map_flatMap]
    exact List.flatMap_congr fun t _ ↦ t.map_behavior_commands s.name
  rw [commands, behaviors, List.map_append, List.map_append, heffects, entryCommands,
    exitCommands, map_behavior_commandsAt, map_behavior_commandsAt, List.append_assoc]

namespace Description

/-- The commands of a description are its behaviors, each once and in declaration order. -/
theorem map_behavior_commands (d : Description) :
    d.commands.map Command.behavior = d.behaviors := by
  rw [commands, behaviors, List.map_flatMap]
  exact List.flatMap_congr fun s _ ↦ s.map_behavior_commands

theorem behavior_mem_behaviors {d : Description} {c : Command} (h : c ∈ d.commands) :
    c.behavior ∈ d.behaviors := by
  rw [← map_behavior_commands]
  exact List.mem_map_of_mem h

/-- A behavior that can run names a required device. -/
theorem device_mem_requiredDevices {d : Description} {b : Behavior} (h : b ∈ d.behaviors) :
    b.device ∈ d.requiredDevices := by
  rw [requiredDevices, IdList.mem_ascending, List.mem_append]
  exact Or.inl (List.mem_map_of_mem h)

end Description

/-! ## Submitting commands -/

namespace Binding

variable {compilers : Compilers}

theorem run_submit {c : Command} {compile : Compiler} (h : compilers c.device = some compile)
    (calls : List Call) :
    (submit compilers c).run calls =
      match compile ⟨calls, c.text⟩ with
      | some fault => (.error (.rejected c fault), calls ++ [c.behavior.call])
      | none => (.ok (), calls ++ [c.behavior.call]) := by
  rw [submit, h]
  -- The call is noted before it is known what the compiler answers.
  change ExceptT.run (match compile ⟨calls, c.text⟩ with
    | some fault => throw (.rejected c fault)
    | none => return () : Binding Unit) (calls ++ [c.behavior.call]) = _
  cases compile ⟨calls, c.text⟩ <;> rfl

theorem run_submit_of_accepts {c : Command} {calls : List Call}
    (h : compilers.Accepts calls c.behavior) :
    (submit compilers c).run calls = (.ok (), calls ++ [c.behavior.call]) := by
  obtain ⟨compile, hcompile, hnone⟩ := h
  have htext : compile ⟨calls, c.text⟩ = none := hnone
  rw [run_submit hcompile, htext]

theorem run_submit_of_rejects {c : Command} {fault : Fault} {calls : List Call}
    (h : compilers.Rejects calls c.behavior fault) :
    (submit compilers c).run calls = (.error (.rejected c fault), calls ++ [c.behavior.call]) := by
  obtain ⟨compile, hcompile, hsome⟩ := h
  have htext : compile ⟨calls, c.text⟩ = some fault := hsome
  rw [run_submit hcompile, htext]

theorem run_submitAll_cons (c : Command) (cs : List Command) (calls : List Call) :
    (submitAll compilers (c :: cs)).run calls =
      match (submit compilers c).run calls with
      | (.ok _, calls) => (submitAll compilers cs).run calls
      | (.error e, calls) => (.error e, calls) := by
  rw [submitAll, ExceptT.run_bind]
  cases h : ExceptT.run (submit compilers c) calls with
  | mk r calls' =>
      simp only [bind, StateT.bind, h]
      cases r <;> rfl

/-- Accepted commands are called one after another, and then it is the turn of the others. -/
theorem run_submitAll_append {cs : List Command} {calls : List Call}
    (h : compilers.AcceptsAll calls (cs.map Command.behavior)) (ds : List Command) :
    (submitAll compilers (cs ++ ds)).run calls =
      (submitAll compilers ds).run (calls ++ (cs.map Command.behavior).map Behavior.call) := by
  induction cs generalizing calls with
  | nil => simp
  | cons c cs ih =>
      rw [List.cons_append, run_submitAll_cons, run_submit_of_accepts h.1]
      simp only [ih h.2, List.map_cons, List.append_assoc, List.cons_append, List.nil_append]

/-- Accepted commands are all called, in order. -/
theorem run_submitAll_of_accepts {cs : List Command} {calls : List Call}
    (h : compilers.AcceptsAll calls (cs.map Command.behavior)) :
    (submitAll compilers cs).run calls =
      (.ok (), calls ++ (cs.map Command.behavior).map Behavior.call) := by
  have hrun := run_submitAll_append h []
  rw [List.append_nil] at hrun
  rw [hrun]
  rfl

/-- The calls stop at the first rejection, which is itself recorded, and the error names the
command that was rejected. -/
theorem run_submitAll_of_rejects {before after : List Command} {c : Command} {fault : Fault}
    {calls : List Call} (hbefore : compilers.AcceptsAll calls (before.map Command.behavior))
    (hc : compilers.Rejects (calls ++ (before.map Command.behavior).map Behavior.call) c.behavior
      fault) :
    (submitAll compilers (before ++ c :: after)).run calls =
      (.error (.rejected c fault),
        calls ++ (before.map Command.behavior ++ [c.behavior]).map Behavior.call) := by
  rw [run_submitAll_append hbefore, run_submitAll_cons, run_submit_of_rejects hc]
  simp

end Binding

/-- If no device is missing, either all behaviors are accepted, or there is a first one that is
not. -/
theorem exists_first_rejected {compilers : Compilers} {cs : List Command}
    (h : ∀ c ∈ cs, compilers c.device ≠ none) (calls : List Call) :
    compilers.AcceptsAll calls (cs.map Command.behavior) ∨
      ∃ before c after fault, cs = before ++ c :: after ∧
        compilers.AcceptsAll calls (before.map Command.behavior) ∧
        compilers.Rejects (calls ++ (before.map Command.behavior).map Behavior.call) c.behavior
          fault := by
  induction cs generalizing calls with
  | nil => exact Or.inl trivial
  | cons c cs ih =>
      rw [List.forall_mem_cons] at h
      have hc : compilers c.behavior.device ≠ none := h.1
      rcases Compilers.accepts_or_rejects hc calls with haccepts | ⟨fault, hrejects⟩
      · rcases ih h.2 (calls ++ [c.behavior.call]) with
          hall | ⟨before, c', after, fault, heq, hbefore, hrejects⟩
        · exact Or.inl ⟨haccepts, hall⟩
        · refine Or.inr ⟨c :: before, c', after, fault, by rw [heq]; rfl,
            ⟨haccepts, hbefore⟩, ?_⟩
          rwa [List.append_assoc] at hrejects
      · refine Or.inr ⟨[], c, cs, fault, rfl, trivial, ?_⟩
        rwa [List.map_nil, List.map_nil, List.append_nil]

namespace Description

variable {d : Description} {compilers : Compilers}

/-- A missing compiler is reported before any device is called. -/
theorem compile_of_missing {i : UInt32}
    (h : (d.requiredDevices.find? fun i ↦ (compilers i).isNone) = some i) :
    d.compile compilers = ⟨.error (.missingCompiler i), []⟩ := by
  simp only [compile, h]

/-- Required devices are ascending, so the first of them without a compiler is the smallest. -/
theorem exists_smallest_missing (h : ∃ i ∈ d.requiredDevices, compilers i = none) :
    ∃ i ∈ d.requiredDevices, compilers i = none ∧
      (∀ j ∈ d.requiredDevices, compilers j = none → i ≤ j) ∧
      (d.requiredDevices.find? fun i ↦ (compilers i).isNone) = some i := by
  obtain ⟨k, hk, hnone⟩ := h
  have hsome : (d.requiredDevices.find? fun i ↦ (compilers i).isNone).isSome := by
    rw [List.find?_isSome]
    exact ⟨k, hk, by simp [hnone]⟩
  obtain ⟨i, hi⟩ := Option.isSome_iff_exists.mp hsome
  obtain ⟨hmissing, before, after, heq, hbefore⟩ := List.find?_eq_some_iff_append.mp hi
  have hascending : (before ++ i :: after).Pairwise (· < ·) := by
    rw [← heq]
    exact IdList.ascending_pairwise _
  refine ⟨i, List.mem_of_find?_eq_some hi, by simpa using hmissing, ?_, hi⟩
  intro j hj hjnone
  rw [heq] at hj
  rcases List.mem_append.mp hj with hj | hj
  · have hpresent := hbefore j hj
    simp [hjnone] at hpresent
  · rcases List.mem_cons.mp hj with rfl | hj
    · exact UInt32.le_refl j
    · have hafter := (List.pairwise_append.mp hascending).2.1
      exact UInt32.le_of_lt ((List.pairwise_cons.mp hafter).1 j hj)

theorem find?_missing_eq_none_iff :
    (d.requiredDevices.find? fun i ↦ (compilers i).isNone) = none ↔
      ∀ i ∈ d.requiredDevices, compilers i ≠ none := by
  simp [List.find?_eq_none]

/-- With all devices there, compiling is submitting the commands of the description in order. -/
theorem compile_of_present (hd : d.Consistent)
    (h : ∀ i ∈ d.requiredDevices, compilers i ≠ none) :
    d.compile compilers =
      ⟨((Binding.submitAll compilers d.commands).run []).1.map fun _ ↦ d.assemble,
        ((Binding.submitAll compilers d.commands).run []).2⟩ := by
  simp only [compile, find?_missing_eq_none_iff.mpr h, Binding.program_eq compilers hd,
    Binding.run_submitting]

/-- When every command is accepted, compilation gives the assembled program and has called every
device in order. -/
theorem compile_of_accepts (hd : d.Consistent)
    (h : ∀ i ∈ d.requiredDevices, compilers i ≠ none)
    (haccepts : compilers.AcceptsAll [] d.behaviors) :
    d.compile compilers = ⟨.ok d.assemble, d.behaviors.map Behavior.call⟩ := by
  rw [← map_behavior_commands] at haccepts ⊢
  rw [compile_of_present hd h, Binding.run_submitAll_of_accepts haccepts]
  rfl

/-- When a command is rejected after its predecessors were accepted, compilation ends there with
the fault of that device. -/
theorem compile_of_rejects (hd : d.Consistent)
    (h : ∀ i ∈ d.requiredDevices, compilers i ≠ none) {before after : List Command} {c : Command}
    {fault : Fault} (heq : d.commands = before ++ c :: after)
    (hbefore : compilers.AcceptsAll [] (before.map Command.behavior))
    (hc : compilers.Rejects ((before.map Command.behavior).map Behavior.call) c.behavior fault) :
    d.compile compilers = ⟨.error (.rejected c fault),
      (before.map Command.behavior ++ [c.behavior]).map Behavior.call⟩ := by
  rw [compile_of_present hd h, heq, Binding.run_submitAll_of_rejects hbefore hc]
  rfl

/-- A missing device prevents every program. -/
theorem present_of_compile {p : Program} (h : (d.compile compilers).result = .ok p) :
    ∀ i ∈ d.requiredDevices, compilers i ≠ none := by
  intro i hi hnone
  obtain ⟨_, _, _, _, hfind⟩ := exists_smallest_missing ⟨i, hi, hnone⟩
  rw [compile_of_missing hfind] at h
  cases h

theorem forall_commands_present (h : ∀ i ∈ d.requiredDevices, compilers i ≠ none) :
    ∀ c ∈ d.commands, compilers c.device ≠ none := by
  intro c hc
  exact h c.device (device_mem_requiredDevices (behavior_mem_behaviors hc))

/-- Compiling the description of an accepted draft, with compilers that may answer according to the
calls before.  If devices are missing, the smallest of them is reported and no call is made.
Otherwise the calls are those of all behaviors in order, or of the behaviors up to the first
rejected one, which is then reported with its place.  There is a program in no other case than that
no device is missing and no behavior is rejected. -/
theorem compile_calls {x : Draft} (hd : ofDraft x = .ok d) (compilers : Compilers) :
    d.commands.map Command.behavior = d.behaviors ∧
    ((∃ i ∈ d.requiredDevices, compilers i = none) →
      ∃ i ∈ d.requiredDevices, compilers i = none ∧
        (∀ j ∈ d.requiredDevices, compilers j = none → i ≤ j) ∧
        d.compile compilers = ⟨.error (.missingCompiler i), []⟩) ∧
    ((∀ i ∈ d.requiredDevices, compilers i ≠ none) →
      (compilers.AcceptsAll [] d.behaviors ∧
        d.compile compilers = ⟨.ok d.assemble, d.behaviors.map Behavior.call⟩) ∨
      ∃ before b after l fault, d.behaviors = before ++ b :: after ∧
        compilers.AcceptsAll [] before ∧ compilers.Rejects (before.map Behavior.call) b fault ∧
        d.commands[before.length]? = some ⟨l, b.device, b.command⟩ ∧
        d.compile compilers =
          ⟨.error (.rejected ⟨l, b.device, b.command⟩ fault),
            (before ++ [b]).map Behavior.call⟩) ∧
    ((∃ p, (d.compile compilers).result = .ok p) ↔
      (∀ i ∈ d.requiredDevices, compilers i ≠ none) ∧
        compilers.AcceptsAll [] d.behaviors) := by
  have hconsistent : d.Consistent := consistent_of_ofDraft hd
  refine ⟨d.map_behavior_commands, ?_, ?_, ?_⟩
  · intro h
    obtain ⟨i, hi, hnone, hleast, hfind⟩ := exists_smallest_missing h
    exact ⟨i, hi, hnone, hleast, compile_of_missing hfind⟩
  · intro h
    have hpresent := forall_commands_present h
    rcases exists_first_rejected hpresent [] with hall | ⟨before, c, after, fault, heq, hb, hc⟩
    · rw [map_behavior_commands] at hall
      exact Or.inl ⟨hall, compile_of_accepts hconsistent h hall⟩
    · refine Or.inr ⟨before.map Command.behavior, c.behavior, after.map Command.behavior,
        c.location, fault, ?_, hb, hc, ?_, ?_⟩
      · rw [← map_behavior_commands, heq, List.map_append, List.map_cons]
      · rw [heq, List.length_map, List.getElem?_append_right (Nat.le_refl _), Nat.sub_self]
        rfl
      · exact compile_of_rejects hconsistent h heq hb hc
  · constructor
    · rintro ⟨p, hp⟩
      have h := present_of_compile hp
      have hpresent := forall_commands_present h
      refine ⟨h, ?_⟩
      rcases exists_first_rejected hpresent [] with hall | ⟨before, c, after, fault, heq, hb, hc⟩
      · rwa [map_behavior_commands] at hall
      · rw [compile_of_rejects hconsistent h heq hb hc] at hp
        cases hp
    · rintro ⟨h, haccepts⟩
      rw [compile_of_accepts hconsistent h haccepts]
      exact ⟨d.assemble, rfl⟩

/-- The devices of a lamp whose driver panics when it is called for the second time. -/
def panicking : Compilers := fun i ↦
  if i = 7 then some fun s ↦ if s.earlier.length = 1 then some (.panicked none) else none
  else none

theorem compile_calls_lamp : ofDraft lamp = .ok lampDescription ∧
    (∀ i ∈ lampDescription.requiredDevices, panicking i ≠ none) ∧
    lampDescription.compile panicking =
      ⟨.error (.rejected ⟨.onExit "on", 7, "darken"⟩ (.panicked none)),
        [⟨7, "light"⟩, ⟨7, "darken"⟩]⟩ ∧
    ∃ before b after l fault, lampDescription.behaviors = before ++ b :: after ∧
      panicking.AcceptsAll [] before ∧ panicking.Rejects (before.map Behavior.call) b fault ∧
      lampDescription.commands[before.length]? = some ⟨l, b.device, b.command⟩ ∧
      lampDescription.compile panicking =
        ⟨.error (.rejected ⟨l, b.device, b.command⟩ fault),
          (before ++ [b]).map Behavior.call⟩ := by
  have hd : ofDraft lamp = .ok lampDescription := rfl
  have hdevices : lampDescription.requiredDevices = [7] := rfl
  have hpresent : ∀ i ∈ lampDescription.requiredDevices, panicking i ≠ none := by
    intro i hi
    rw [hdevices, List.mem_singleton] at hi
    simp [hi, panicking]
  have hcompile : lampDescription.compile panicking =
      ⟨.error (.rejected ⟨.onExit "on", 7, "darken"⟩ (.panicked none)),
        [⟨7, "light"⟩, ⟨7, "darken"⟩]⟩ := rfl
  refine ⟨hd, hpresent, hcompile, ?_⟩
  refine ((compile_calls hd panicking).2.2.1 hpresent).resolve_left ?_
  rintro ⟨_, hok⟩
  rw [hcompile] at hok
  cases hok

end Description

end EventMachine
