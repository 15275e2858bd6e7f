import EventMachine.Proofs.Compilation.Refinement
import EventMachine.Proofs.Machine.Fleet
import EventMachine.Proofs.Machine.Isolation

/-!
# Machines do not interfere

The machines of a fleet share a program, a host and the log of what is executed.  Still each of them
goes through its own actions as it would alone, whatever the others do in between.
-/

namespace EventMachine

/-! ## Hosts -/

/-- A host that does not mind what was executed before. -/
def Host.Steady (host : Host) : Prop := ∀ past past' c, host past c = host past' c

/-- A host that lets one command after another end as it is told. -/
def Host.replaying (ends : List (Option Fault)) : Host := fun past _ ↦ ends[past.length]?.join

/-- A steady host forgets: the endings do not depend on what was executed before. -/
theorem Host.Steady.execute_eq {host : Host} (h : host.Steady) (past past' cs : List Command) :
    execute host past cs = execute host past' cs := by
  induction cs generalizing past past' with
  | nil => rfl
  | cons c cs ih => rw [execute, execute, h past past' c, ih]

/-- A host that replays the endings of a log repeats that log on its commands. -/
theorem execute_replaying (before after : List (Option Fault)) (past : List Command)
    (h : past.length = before.length) (xs : List Execution) :
    execute (.replaying (before ++ (xs.map (·.fault?) ++ after))) past (xs.map (·.command)) =
      xs := by
  induction xs generalizing before past with
  | nil => rfl
  | cons x xs ih =>
      have hhead : Host.replaying (before ++ ((x :: xs).map (·.fault?) ++ after)) past x.command =
          x.fault? := by
        simp [Host.replaying, h]
      have htail := ih (before ++ [x.fault?]) (past ++ [x.command]) (by simp [h])
      rw [List.append_assoc] at htail
      exact congrArg₂ List.cons (congrArg (Execution.mk _) hhead) htail

/-! ## A machine that is interrupted -/

namespace Machine

section

variable {host host' : Host} {past past' : List Command} {m : Machine}

/-- Two hosts that end the commands of a move alike make the same move. -/
theorem apply_congr {trigger : String} {answer : Option Bool}
    (h : execute host past ((m.apply host past trigger).response answer).commands =
      execute host' past' ((m.apply host past trigger).response answer).commands) :
    m.apply host past trigger = m.apply host' past' trigger := by
  cases hrule : m.rule? trigger with
  | none => rw [apply_of_none host past hrule, apply_of_none host' past' hrule]
  | some r =>
      cases r with
      | ignore => rw [apply_of_ignore host past hrule, apply_of_ignore host' past' hrule]
      | permit target effects =>
          rw [apply_of_permit host past hrule] at h ⊢
          simp only [Step.response, Response.commands, map_command_execute] at h
          rw [apply_of_permit host' past' hrule, h]

theorem fire_congr {source : UInt32} {payload : String} {answer : Option Bool}
    (h : execute host past ((m.fire host past source payload).response answer).commands =
      execute host' past' ((m.fire host past source payload).response answer).commands) :
    m.fire host past source payload = m.fire host' past' source payload := by
  rw [fire] at h ⊢
  rw [fire]
  cases hlookup : m.program.events.lookup source payload with
  | none => rfl
  | some trigger =>
      rw [hlookup] at h
      exact apply_congr h

/-- Of a host an action sees how the commands end that it executes, and nothing else. -/
theorem act_congr {a : Action} (h : execute host past (m.act host past a).commands =
    execute host' past' (m.act host past a).commands) :
    m.act host past a = m.act host' past' a := by
  cases a with
  | fire source payload => rw [act, act, fire_congr h]
  | inject source payload =>
      have hfire : m.fire host past source payload = m.fire host' past' source payload :=
        fire_congr h
      rw [act, act, inject, inject, hfire]
  | fireTrigger trigger =>
      rw [act, fireTrigger] at h ⊢
      rw [act, fireTrigger]
      split
      · rename_i hmem
        rw [if_pos hmem] at h
        rw [apply_congr h]
      · rfl
  | reset => rfl

end

theorem program_act (host : Host) (past : List Command) (m : Machine) (a : Action) :
    (m.act host past a).next.program = m.program := by
  refine act_cases (P := fun r ↦ r.next.program = m.program) host past m
    (fun trigger answer ↦ ?_) (fun _ _ _ ↦ rfl) rfl a
  rw [Step.response, apply]
  split <;> rfl

def endings (rs : List (Response Machine)) : List (Option Fault) :=
  rs.flatMap fun r ↦ r.ran.map (·.fault?)

/-- The responses of a machine to its actions, if before each of them anything else may have been
executed. -/
inductive Answers (host : Host) : Machine → List Action → List (Response Machine) → Prop
  | nil (m : Machine) : Answers host m [] []
  | cons (past : List Command) (m : Machine) (a : Action) {as : List Action}
      {rs : List (Response Machine)} (h : Answers host (m.act host past a).next as rs) :
      Answers host m (a :: as) (m.act host past a :: rs)

namespace Answers

variable {host : Host} {m : Machine} {as : List Action} {rs : List (Response Machine)}

/-- Which states are passed and which commands are executed depends on the actions alone, not on
the host nor on the past. -/
theorem map_course_eq (h : m.Answers host as rs) (host' : Host) (past' : List Command) :
    rs.map Response.course = (m.run host' past' as).map Response.course := by
  induction h generalizing past' with
  | nil m => rfl
  | cons past m a _ ih =>
      have hcourse := course_act host host' past past' m a
      have hnext : (m.act host past a).next = (m.act host' past' a).next :=
        congrArg Course.next hcourse
      rw [run, drive_cons, List.map_cons, List.map_cons, hcourse, ← hnext, ih, run]

/-- On a steady host the answers are those of a machine that runs by itself. -/
theorem eq_run_of_steady (h : m.Answers host as rs) (hsteady : host.Steady)
    (past' : List Command) : rs = m.run host past' as := by
  induction h generalizing past' with
  | nil m => rfl
  | cons past m a _ ih =>
      have hact : m.act host past a = m.act host past' a :=
        act_congr (hsteady.execute_eq past past' _)
      rw [run, drive_cons, ← hact, ih (past' ++ (m.act host past a).commands), run]

/-- Replaying the endings that the machine met gives its answers again, counts included. -/
theorem eq_run_replaying (h : m.Answers host as rs) (before : List (Option Fault))
    (past' : List Command) (hlength : past'.length = before.length) :
    rs = m.run (.replaying (before ++ endings rs)) past' as := by
  -- The host is asked for as many endings as there are commands in `past'`, so those of the
  -- actions that are done have to stay in front of those to come.
  induction h generalizing before past' with
  | nil m => rfl
  | @cons past m a as rs _ ih =>
      have hact : m.act host past a =
          m.act (.replaying (before ++ endings (m.act host past a :: rs))) past' a := by
        refine act_congr ?_
        rw [← ran_act, endings, List.flatMap_cons]
        exact (execute_replaying before _ past' hlength _).symm
      have hrest := ih (before ++ (m.act host past a).ran.map (·.fault?))
        (past' ++ (m.act host past a).commands) (by simp [Response.commands, hlength])
      rw [List.append_assoc] at hrest
      rw [run, drive_cons, ← hact]
      exact congrArg _ hrest

end Answers

/-- Responses that a machine of its own gives, fresh from the compiler.  All of what they say is as
in a run on a host that lets the commands end in the same way, or on the same host if that is
steady; and apart from failures it is as in a run on any host. -/
structure Alone (host : Host) (p : Program) (as : List Action) (rs : List (Response Machine)) :
    Prop where
  replayed : rs = (start p).run (.replaying (endings rs)) [] as
  steady : host.Steady → ∀ past : List Command, rs = (start p).run host past as
  course : ∀ (host' : Host) (past : List Command),
    rs.map Response.course = ((start p).run host' past as).map Response.course

theorem Answers.alone {host : Host} {p : Program} {as : List Action} {rs : List (Response Machine)}
    (h : (start p).Answers host as rs) : Alone host p as rs where
  replayed := h.eq_run_replaying [] [] rfl
  steady := h.eq_run_of_steady
  course := h.map_course_eq

end Machine

/-! ## Requests to a fleet -/

namespace Fleet

/-- A call on a machine of a fleet, or another compilation, which adds a machine to the fleet. -/
inductive Request
  | operate (o : Operation)
  | compile
  deriving DecidableEq, Repr

namespace Request

/-- What a request asks of the machine with index `i`, if there are `n` machines. -/
def action? (i n : Nat) : Request → Option Action
  | operate (.act j a) => if j = i ∧ i < n then some a else none
  | operate (.spawn _) => none
  | compile => none

def count (n : Nat) : Request → Nat
  | operate (.act _ _) => n
  | operate (.spawn j) => if j < n then n + 1 else n
  | compile => n + 1

theorem action?_of_le {i j n : Nat} (h : n ≤ j) (a : Action) :
    (operate (.act j a)).action? i n = none := by
  have hno : ¬ (j = i ∧ i < n) := by omega
  rw [action?, if_neg hno]

end Request

/-- The actions that requests ask of the machine with index `i`, if there are `n` machines. -/
def addressed (i n : Nat) : List Request → List Action
  | [] => []
  | q :: qs => (q.action? i n).toList ++ addressed i (q.count n) qs

structure Turn where
  machine : Nat
  response : Response Machine
  deriving DecidableEq, Repr

def own (i : Nat) (ts : List Turn) : List (Response Machine) :=
  (ts.filter (·.machine = i)).map (·.response)

theorem own_append (i : Nat) (ts us : List Turn) : own i (ts ++ us) = own i ts ++ own i us := by
  rw [own, List.filter_append, List.map_append, own, own]

section

variable (compilers : Compilers) (d : Description) (host : Host)

def serve (f : Fleet) : Request → Fleet
  | .operate o => f.step host o
  | .compile =>
    match (d.compile compilers).result with
    | .error _ => f
    | .ok p => { f with machines := f.machines ++ [Machine.start p] }

def serveAll (f : Fleet) (qs : List Request) : Fleet := qs.foldl (serve compilers d host) f

def turns (f : Fleet) : Request → List Turn
  | .operate (.act i a) => (f.machines[i]?.map fun m ↦ ⟨i, m.act host f.past a⟩).toList
  | .operate (.spawn _) => []
  | .compile => []

def record (f : Fleet) : List Request → List Turn
  | [] => []
  | q :: qs => f.turns host q ++ record (f.serve compilers d host q) qs

end

/-- The machine with index `i`, or the one that is to have it. -/
def member (p : Program) (f : Fleet) (i : Nat) : Machine := f.machines[i]?.getD (Machine.start p)

variable {compilers : Compilers} {d : Description} {host : Host} {p : Program}

theorem member_append (f : Fleet) (i : Nat) :
    member p { f with machines := f.machines ++ [Machine.start p] } i = f.member p i := by
  rw [member, member, List.getElem?_append]
  split
  · rfl
  · rename_i hi
    rw [List.getElem?_eq_none (Nat.le_of_not_lt hi)]
    cases i - f.machines.length <;> rfl

theorem own_turns (f : Fleet) (i : Nat) (q : Request) : own i (f.turns host q) =
    ((q.action? i f.machines.length).map fun a ↦ (f.member p i).act host f.past a).toList := by
  rcases q with (⟨j, a⟩ | j) | _
  · rw [turns]
    cases hj : f.machines[j]? with
    | none =>
        rw [Request.action?_of_le (List.getElem?_eq_none_iff.mp hj)]
        rfl
    | some m =>
        obtain ⟨hlt, rfl⟩ := List.getElem?_eq_some_iff.mp hj
        by_cases h : j = i
        · subst h
          simp [own, member, Request.action?, hlt]
        · simp [own, Request.action?, h]
  · rfl
  · rfl

theorem past_serve (f : Fleet) (q : Request) : (f.serve compilers d host q).past =
    f.past ++ (f.turns host q).flatMap (·.response.commands) := by
  rcases q with (⟨j, a⟩ | j) | _
  · rw [serve, step, turns]
    cases f.machines[j]? <;> simp
  · rw [serve, step, turns]
    cases f.machines[j]? <;> simp
  · rw [serve, turns]
    cases (d.compile compilers).result <;> simp

/-- The fleet has executed the commands of its record, in order. -/
theorem past_serveAll (f : Fleet) (qs : List Request) : (f.serveAll compilers d host qs).past =
    f.past ++ (f.record compilers d host qs).flatMap (·.response.commands) := by
  induction qs generalizing f with
  | nil => simp [serveAll, record]
  | cons q qs ih =>
      rw [record, List.flatMap_append, ← List.append_assoc, ← past_serve]
      exact ih _

theorem ran_turns (f : Fleet) (q : Request) : (f.turns host q).flatMap (·.response.ran) =
    execute host f.past ((f.turns host q).flatMap (·.response.commands)) := by
  rcases q with (⟨j, a⟩ | j) | _
  · rw [turns]
    cases f.machines[j]? with
    | none => rfl
    | some m => simpa using m.ran_act host f.past a
  · rfl
  · rfl

theorem ran_record (f : Fleet) (qs : List Request) :
    (f.record compilers d host qs).flatMap (·.response.ran) =
      execute host f.past ((f.record compilers d host qs).flatMap (·.response.commands)) := by
  induction qs generalizing f with
  | nil => rfl
  | cons q qs ih =>
      rw [record, List.flatMap_append, List.flatMap_append, execute_append, ih, ran_turns,
        past_serve]

section

variable {f : Fleet} (h : ∀ m ∈ f.machines, m.program = p) {i : Nat}
  (hi : i < f.machines.length)

include h hi

theorem serve_reset :
    f.serve compilers d host (.operate (.act i .reset)) =
      ⟨f.machines.set i (Machine.start p), f.past⟩ := by
  have hreset : (f.machines[i]).reset = Machine.start p := by
    rw [Machine.reset, h _ (List.getElem_mem hi), Machine.start]
  rw [serve, step, List.getElem?_eq_getElem hi]
  simp [Machine.act, Response.commands, hreset]

theorem serve_spawn :
    f.serve compilers d host (.operate (.spawn i)) =
      ⟨f.machines ++ [Machine.start p], f.past⟩ := by
  have hspawn : (f.machines[i]).spawn = Machine.start p := by
    rw [Machine.spawn, h _ (List.getElem_mem hi)]
  rw [serve, step, List.getElem?_eq_getElem hi]
  simp [hspawn]

end

section

variable (hp : (d.compile compilers).result = .ok p)

include hp

theorem serve_compile (f : Fleet) : f.serve compilers d host .compile =
    { f with machines := f.machines ++ [Machine.start p] } := by
  rw [serve, hp]

/-- Only spawning and compiling add a machine. -/
theorem length_serve (f : Fleet) (q : Request) :
    (f.serve compilers d host q).machines.length = q.count f.machines.length := by
  rcases q with (⟨j, a⟩ | j) | _
  · rw [serve, step, Request.count]
    cases f.machines[j]? <;> simp
  · rw [serve, step, Request.count]
    split
    · rename_i hj
      rw [if_neg (Nat.not_lt.mpr (List.getElem?_eq_none_iff.mp hj))]
    · rename_i hj
      rw [if_pos (List.getElem?_eq_some_iff.mp hj).1, List.length_append, List.length_singleton]
  · rw [serve_compile hp, Request.count, List.length_append, List.length_singleton]

theorem program_serve {f : Fleet} (h : ∀ m ∈ f.machines, m.program = p) (q : Request) :
    ∀ m ∈ (f.serve compilers d host q).machines, m.program = p := by
  cases q with
  | operate o =>
      refine forall_mem_step (fun past m a hm ↦ ?_) (fun m hm ↦ hm) h o
      exact (m.program_act host past a).trans hm
  | compile =>
      rw [serve_compile hp]
      intro m hm
      rcases List.mem_append.mp hm with hm | hm
      · exact h m hm
      · rw [List.mem_singleton.mp hm]
        rfl

theorem program_serveAll {f : Fleet} (h : ∀ m ∈ f.machines, m.program = p) (qs : List Request) :
    ∀ m ∈ (f.serveAll compilers d host qs).machines, m.program = p := by
  induction qs generalizing f with
  | nil => exact h
  | cons q qs ih => exact ih (program_serve hp h q)

variable {f : Fleet} (h : ∀ m ∈ f.machines, m.program = p)

include h

/-- Only what is asked of a machine changes it. -/
theorem member_serve (i : Nat) (q : Request) : (f.serve compilers d host q).member p i =
    ((q.action? i f.machines.length).map fun a ↦
      ((f.member p i).act host f.past a).next).getD (f.member p i) := by
  rcases q with (⟨j, a⟩ | j) | _
  · rw [serve, step]
    cases hj : f.machines[j]? with
    | none =>
        rw [Request.action?_of_le (List.getElem?_eq_none_iff.mp hj)]
        rfl
    | some m =>
        obtain ⟨hlt, rfl⟩ := List.getElem?_eq_some_iff.mp hj
        by_cases hji : j = i
        · subst hji
          simp [member, Request.action?, hlt]
        · simp [member, Request.action?, hji]
  · by_cases hj : j < f.machines.length
    · rw [serve_spawn h hj]
      exact f.member_append i
    · rw [serve, step, List.getElem?_eq_none (Nat.le_of_not_lt hj)]
      rfl
  · rw [serve_compile hp]
    exact f.member_append i

/-- Whatever is asked of the others, a machine answers what is asked of it. -/
theorem answers_record (i : Nat) (qs : List Request) :
    (f.member p i).Answers host (addressed i f.machines.length qs)
      (own i (f.record compilers d host qs)) := by
  induction qs generalizing f with
  | nil => exact .nil _
  | cons q qs ih =>
      -- The machine goes into the rest of the requests as the first one has left it.
      have hrest := ih (f := f.serve compilers d host q) (program_serve hp h q)
      rw [length_serve hp, member_serve hp h] at hrest
      rw [addressed, record, own_append, own_turns (p := p)]
      cases haction : q.action? i f.machines.length with
      | none => simpa [haction] using hrest
      | some a =>
          rw [haction] at hrest
          exact .cons f.past _ a hrest

/-- At any time a machine is where its own last action has left it. -/
theorem member_serveAll (i : Nat) (qs : List Request) :
    (f.serveAll compilers d host qs).member p i =
      ((own i (f.record compilers d host qs)).getLast?.map (·.next)).getD (f.member p i) := by
  induction qs generalizing f with
  | nil => rfl
  | cons q qs ih =>
      have hrest := ih (f := f.serve compilers d host q) (program_serve hp h q)
      rw [serveAll, List.foldl_cons]
      rw [serveAll] at hrest
      rw [hrest, record, own_append, List.getLast?_append, member_serve hp h, own_turns (p := p)]
      cases (own i (record compilers d host (f.serve compilers d host q) qs)).getLast? with
      | some r => rfl
      | none => cases q.action? i f.machines.length <;> rfl

/-- From the request that makes a machine on, its own turns are a run from the start. -/
theorem alone_record_serve {i : Nat} {q : Request}
    (hmember : (f.serve compilers d host q).member p i = Machine.start p) (qs : List Request) :
    Machine.Alone host p (addressed i (q.count f.machines.length) qs)
      (own i ((f.serve compilers d host q).record compilers d host qs)) := by
  have hlength : (f.serve compilers d host q).machines.length = q.count f.machines.length :=
    length_serve hp f q
  rw [← hlength]
  exact (hmember ▸ answers_record hp (program_serve hp h q) i qs).alone

end

/-- Whatever is requested of a fleet in whatever order, each of its machines responds to its own
actions as it would alone if the commands ended as they did, and on any host up to its counts of
failures, and it keeps its state until the next of them.  The log is made up of what the responses
executed, in their order; a compilation, a spawning and a reset add nothing to it.  A machine that
was reset and one that was spawned, of a parent in any state, both go on like one that is fresh from
the compiler. -/
theorem machines_do_not_interfere {compilers : Compilers} {d : Description} {p : Program}
    (hp : (d.compile compilers).result = .ok p) (host : Host) (past : List Command)
    (qs : List Request) :
    let turns := Fleet.record compilers d host ⟨[], past⟩ qs
    let f := Fleet.serveAll compilers d host ⟨[], past⟩ qs
    let n := f.machines.length
    (∀ i, Machine.Alone host p (addressed i 0 qs) (own i turns) ∧
      ∀ m, f.machines[i]? = some m →
        m = ((own i turns).getLast?.map (·.next)).getD (Machine.start p)) ∧
    f.past = past ++ turns.flatMap (·.response.commands) ∧
    turns.flatMap (·.response.ran) = execute host past (turns.flatMap (·.response.commands)) ∧
    f.serve compilers d host .compile = ⟨f.machines ++ [Machine.start p], f.past⟩ ∧
    ∀ i < n,
      let reset := f.serve compilers d host (.operate (.act i .reset))
      let spawned := f.serve compilers d host (.operate (.spawn i))
      reset = ⟨f.machines.set i (Machine.start p), f.past⟩ ∧
      spawned = ⟨f.machines ++ [Machine.start p], f.past⟩ ∧
      ∀ rs, Machine.Alone host p (addressed i n rs) (own i (reset.record compilers d host rs)) ∧
        Machine.Alone host p (addressed n (n + 1) rs)
          (own n (spawned.record compilers d host rs)) := by
  intro turns f n
  have hempty : ∀ m ∈ (⟨[], past⟩ : Fleet).machines, m.program = p := by simp
  have hprogram : ∀ m ∈ f.machines, m.program = p := program_serveAll hp hempty qs
  refine ⟨fun i ↦ ⟨(answers_record hp hempty i qs).alone, fun m hm ↦ ?_⟩, past_serveAll _ qs,
    ran_record _ qs, serve_compile hp f, fun i hi ↦ ?_⟩
  · have hmember : f.member p i = m := by rw [member, hm, Option.getD_some]
    rw [← hmember]
    exact member_serveAll hp hempty i qs
  · refine ⟨serve_reset hprogram hi, serve_spawn hprogram hi, fun rs ↦ ⟨?_, ?_⟩⟩
    · have hmember : (f.serve compilers d host (.operate (.act i .reset))).member p i =
          Machine.start p := by
        rw [serve_reset hprogram hi, member, List.getElem?_set_self hi]
        rfl
      exact alone_record_serve hp hprogram hmember rs
    · have hmember : (f.serve compilers d host (.operate (.spawn i))).member p n =
          Machine.start p := by
        rw [serve_spawn hprogram hi, member]
        simp [n]
      have halone := alone_record_serve hp hprogram hmember rs
      rwa [Request.count, if_pos hi] at halone

/-- Three lamps from two compilations, of which the second one is spawned while the first is on. -/
def lampRequests : List Request := [
  .compile,
  .operate (.act 0 (.fire 1 "press")),
  .operate (.spawn 0),
  .operate (.act 1 (.fireTrigger "switch")),
  .operate (.act 0 (.fire 1 "press")),
  .compile,
  .operate (.act 1 .reset),
  .operate (.act 2 (.inject 1 "press"))]

/-- A host that can light a lamp only once. -/
def oneLight : Host := fun past c ↦
  if c.text = "light" ∧ c ∈ past then some (.refused "burnt out") else none

/-- The light that machine 0 has used up is missing to machine 1, which would not have failed
alone: machines share the memory of their host. -/
theorem failures_depend_on_other_lamps :
    let compilers : Compilers := fun _ ↦ some fun _ ↦ none
    let d := Description.lampDescription
    let rs := own 1 (Fleet.record compilers d oneLight ⟨[], []⟩ lampRequests)
    let alone := (Machine.start d.assemble).run oneLight [] (addressed 1 0 lampRequests)
    (d.compile compilers).result = .ok d.assemble ∧
      rs.map (·.outcome) = [some (.transitioned "switch" "off" "on" 1), none] ∧
      alone.map (·.outcome) = [some (.transitioned "switch" "off" "on" 0), none] ∧
      rs ≠ alone := by
  intro compilers d rs alone
  have hrs : rs.map (·.outcome) = [some (.transitioned "switch" "off" "on" 1), none] := by decide
  have halone : alone.map (·.outcome) = [some (.transitioned "switch" "off" "on" 0), none] := by
    decide
  refine ⟨rfl, hrs, halone, fun heq ↦ ?_⟩
  rw [heq, halone] at hrs
  cases hrs

theorem machines_do_not_interfere_lamps :
    let compilers : Compilers := fun _ ↦ some fun _ ↦ none
    let d := Description.lampDescription
    let turns := Fleet.record compilers d oneLight ⟨[], []⟩ lampRequests
    (d.compile compilers).result = .ok d.assemble ∧
      turns.map (fun t ↦ (t.machine, t.response.next.state, t.response.ran.map (·.failed))) =
        [(0, "on", [false]), (1, "on", [true]), (0, "off", [false]), (1, "off", []),
          (2, "on", [true])] ∧
      addressed 1 0 lampRequests = [.fireTrigger "switch", .reset] ∧
      Machine.Alone oneLight d.assemble [.fireTrigger "switch", .reset] (own 1 turns) := by
  intro compilers d turns
  have hp : (d.compile compilers).result = .ok d.assemble := rfl
  refine ⟨hp, by decide, rfl, ?_⟩
  exact ((machines_do_not_interfere hp oneLight [] lampRequests).1 1).1

end Fleet

end EventMachine
