import EventMachine.Machine

/-!
# Runs

A run is what a list of actions brings about, each action with the commands executed before it.
The same notion of a run serves every kind of state, so that a machine can be compared with another
machine or with anything else that answers actions.
-/

namespace EventMachine

inductive Action
  | fire (source : UInt32) (payload : String)
  | inject (source : UInt32) (payload : String)
  | fireTrigger (trigger : String)
  | reset
  deriving DecidableEq, Repr

/-- What comes of an action: the outcome of what it fired, the answer of an injection, the commands
executed, the notices given, and the state after it. -/
structure Response (σ : Type) where
  outcome : Option Outcome := none
  answer : Option Bool := none
  ran : List Execution := []
  notices : List Notice := []
  next : σ
  deriving DecidableEq, Repr

namespace Response

variable {σ τ : Type}

def commands (r : Response σ) : List Command := r.ran.map (·.command)

def map (f : σ → τ) (r : Response σ) : Response τ := { r with next := f r.next }

end Response

variable {σ τ : Type}

def drive (act : List Command → σ → Action → Response σ) (past : List Command) (s : σ) :
    List Action → List (Response σ)
  | [] => []
  | a :: as =>
    let r := act past s a
    r :: drive act (past ++ r.commands) r.next as

theorem drive_cons (act : List Command → σ → Action → Response σ) (past : List Command) (s : σ)
    (a : Action) (as : List Action) :
    drive act past s (a :: as) = act past s a ::
      drive act (past ++ (act past s a).commands) (act past s a).next as := rfl

/-- Two systems whose responses look the same action by action look the same in every run, as long
as looking the same includes executing the same commands. -/
theorem map_drive_eq {γ : Type} {act : List Command → σ → Action → Response σ}
    {act' : List Command → τ → Action → Response τ} (R : σ → τ → Prop) {f : Response σ → γ}
    {g : Response τ → γ}
    (h : ∀ past s t a, R s t → f (act past s a) = g (act' past t a) ∧
      (act past s a).commands = (act' past t a).commands ∧
      R (act past s a).next (act' past t a).next)
    (past : List Command) {s : σ} {t : τ} (hst : R s t) (as : List Action) :
    (drive act past s as).map f = (drive act' past t as).map g := by
  induction as generalizing past s t with
  | nil => rfl
  | cons a as ih =>
      obtain ⟨hfg, hcommands, hR⟩ := h past s t a hst
      rw [drive_cons, drive_cons, List.map_cons, List.map_cons, hfg, ← hcommands, ih _ hR]

/-- A property of every single response is one of every response of a run. -/
theorem forall_mem_drive {act : List Command → σ → Action → Response σ} {P : Response σ → Prop}
    (h : ∀ past s a, P (act past s a)) (past : List Command) (s : σ) (as : List Action) :
    ∀ r ∈ drive act past s as, P r := by
  induction as generalizing past s with
  | nil => simp [drive]
  | cons a as ih =>
      rw [drive_cons, List.forall_mem_cons]
      exact ⟨h past s a, ih _ _⟩

/-- If every action executes its commands on a host, so does every run, with all that ran before as
their history. -/
theorem ran_drive {act : List Command → σ → Action → Response σ} {host : Host}
    (h : ∀ past s a, (act past s a).ran = execute host past (act past s a).commands)
    (past : List Command) (s : σ) (as : List Action) :
    (drive act past s as).flatMap (·.ran) =
      execute host past ((drive act past s as).flatMap (·.commands)) := by
  induction as generalizing past s with
  | nil => rfl
  | cons a as ih =>
      rw [drive_cons, List.flatMap_cons, List.flatMap_cons, execute_append, ih, ← h]

/-! ## Machines -/

/-- The response that a step amounts to; of the notices, those of the machine itself. -/
def Step.response (s : Step) (answer : Option Bool) : Response Machine where
  outcome := some s.outcome
  answer := answer
  ran := s.ran
  notices := s.notices fun _ ↦ []
  next := s.machine

namespace Machine

def act (host : Host) (past : List Command) (m : Machine) : Action → Response Machine
  | .fire source payload => (m.fire host past source payload).response none
  | .inject source payload =>
    let (s, answer) := m.inject host past source payload
    s.response (some answer)
  | .fireTrigger trigger => (m.fireTrigger host past trigger).response none
  | .reset => { next := m.reset }

def run (host : Host) (past : List Command) (m : Machine) (as : List Action) :
    List (Response Machine) :=
  drive (act host) past m as

def rule? (m : Machine) (trigger : String) : Option Rule := m.row?.bind (·.rule? trigger)

/-- The commands on the way from the current state to another one. -/
def route (m : Machine) (target : Nat) (effects : List Command) : List Command :=
  m.program.onExit m.current ++ effects ++ m.program.onEntry target

section

variable (host : Host) (past : List Command) {m : Machine} {trigger : String}

/-- The chains of a route are run one after another, each with those before it as its history. -/
theorem execute_route (target : Nat) (effects : List Command) :
    execute host past (m.route target effects) =
      execute host past (m.program.onExit m.current) ++
        execute host (past ++ m.program.onExit m.current) effects ++
        execute host (past ++ m.program.onExit m.current ++ effects)
          (m.program.onEntry target) := by
  rw [route, execute_append, execute_append, ← List.append_assoc past]

/-- The failures of the three chains add up to those of the route. -/
theorem failures_execute_route (target : Nat) (effects : List Command) :
    failures (execute host past (m.route target effects)) =
      failures (execute host past (m.program.onExit m.current)) +
        failures (execute host (past ++ m.program.onExit m.current) effects) +
        failures (execute host (past ++ m.program.onExit m.current ++ effects)
          (m.program.onEntry target)) := by
  rw [execute_route, failures_append, failures_append]

theorem apply_of_none (h : m.rule? trigger = none) : m.apply host past trigger =
    { outcome := .unhandled trigger, notice := .noRule trigger m.state, machine := m } := by
  rw [rule?] at h
  simp only [apply, h]

theorem apply_of_ignore (h : m.rule? trigger = some .ignore) : m.apply host past trigger =
    { outcome := .ignored trigger, notice := .ignored trigger m.state, machine := m } := by
  rw [rule?] at h
  simp only [apply, h]

/-- The three chains of a permitted transition come to one run of its whole route. -/
theorem apply_of_permit {target : Nat} {effects : List Command}
    (h : m.rule? trigger = some (.permit target effects)) : m.apply host past trigger =
      let ran := execute host past (m.route target effects)
      let next : Machine := { m with current := target }
      { outcome := .transitioned trigger m.state next.state (failures ran)
        ran
        notice := .moved m.state next.state trigger (failures ran)
        machine := next } := by
  rw [rule?] at h
  simp only [apply, h]
  rw [← failures_execute_route, ← execute_route]

end

/-- A machine answers an action by applying a trigger, by doing nothing, or by a reset. -/
theorem act_cases {P : Response Machine → Prop} (host : Host) (past : List Command) (m : Machine)
    (happly : ∀ trigger answer, P ((m.apply host past trigger).response answer))
    (hunknown : ∀ notice answer, notice.command? = none →
      P (Step.response ⟨.unknownEvent, [], notice, m⟩ answer))
    (hreset : P { next := m.reset }) (a : Action) : P (m.act host past a) := by
  have hfire (source : UInt32) (payload : String) (answer : Option Bool) :
      P ((m.fire host past source payload).response answer) := by
    rw [fire]
    split
    · exact happly _ answer
    · exact hunknown _ answer rfl
  cases a with
  | fire source payload => exact hfire source payload none
  | inject source payload => exact hfire source payload (some _)
  | fireTrigger trigger =>
      change P ((m.fireTrigger host past trigger).response none)
      rw [fireTrigger]
      split
      · exact happly trigger none
      · exact hunknown _ none rfl
  | reset => exact hreset

end Machine

end EventMachine
