import EventMachine.Proofs.Machine.Run
import Mathlib.Data.List.Basic

/-!
# Failing commands stay isolated

How commands end never shows in the course of a run: the commands executed, the states, the answers
and all of the outcomes but their counts of failures are the same on every host.  The failures
themselves are counted and logged, each of them once.
-/

namespace EventMachine

/-- An outcome without its count of failures. -/
def Outcome.uncounted : Outcome → Outcome
  | transitioned trigger source target _ => transitioned trigger source target 0
  | o => o

def Notice.failure? : Notice → Option (Command × Fault)
  | commandFailed c fault => some (c, fault)
  | _ => none

def Execution.failure? (x : Execution) : Option (Command × Fault) := x.fault?.map (x.command, ·)

theorem Notice.failure?_of_command? {notice : Notice} (h : notice.command? = none) :
    notice.failure? = none := by
  cases notice <;> first | rfl | cases h

/-- The notices about failed commands are exactly the failures of the log. -/
theorem filterMap_failure?_notices (xs : List Execution) :
    (xs.flatMap Execution.notices).filterMap Notice.failure? =
      xs.filterMap Execution.failure? := by
  induction xs with
  | nil => rfl
  | cons x xs ih =>
      rw [List.flatMap_cons, List.filterMap_append, ih]
      cases h : x.fault? <;> simp [Execution.notices, Execution.failure?, Notice.failure?, h]

/-- What is left of a response when the ends of its commands are forgotten. -/
structure Course where
  outcome : Option Outcome
  answer : Option Bool
  commands : List Command
  next : Machine
  deriving DecidableEq

def Response.course (r : Response Machine) : Course :=
  ⟨r.outcome.map Outcome.uncounted, r.answer, r.commands, r.next⟩

/-- The failures of a response are all counted and all logged, and there are none of a response
that is no transition. -/
structure Response.Accounts (r : Response Machine) : Prop where
  counted : ∀ trigger source target n,
    r.outcome = some (.transitioned trigger source target n) → n = r.ran.countP (·.failed)
  logged : r.notices.filterMap Notice.failure? = r.ran.filterMap Execution.failure?
  quiet : (∀ trigger source target n,
    r.outcome ≠ some (.transitioned trigger source target n)) → r.ran = []

namespace Machine

variable (host host' : Host) (past past' : List Command)

/-- A host decides how commands end and nothing more: the course of a trigger is the same on any
two. -/
theorem course_apply (m : Machine) (trigger : String) (answer : Option Bool) :
    ((m.apply host past trigger).response answer).course =
      ((m.apply host' past' trigger).response answer).course := by
  cases h : m.rule? trigger with
  | none => rw [apply_of_none host past h, apply_of_none host' past' h]
  | some r =>
      cases r with
      | ignore => rw [apply_of_ignore host past h, apply_of_ignore host' past' h]
      | permit target effects =>
          rw [apply_of_permit host past h, apply_of_permit host' past' h]
          simp [Step.response, Response.course, Response.commands, Outcome.uncounted]

theorem course_fire (m : Machine) (source : UInt32) (payload : String) (answer : Option Bool) :
    ((m.fire host past source payload).response answer).course =
      ((m.fire host' past' source payload).response answer).course := by
  rw [fire, fire]
  cases m.program.events.lookup source payload with
  | none => rfl
  | some trigger => exact course_apply host host' past past' m trigger answer

/-- No action depends on how commands end. -/
theorem course_act (m : Machine) (a : Action) :
    (m.act host past a).course = (m.act host' past' a).course := by
  cases a with
  | fire source payload => exact course_fire host host' past past' m source payload none
  | inject source payload =>
      have hnext : (m.fire host past source payload).machine =
          (m.fire host' past' source payload).machine :=
        congrArg Course.next (course_fire host host' past past' m source payload none)
      simp only [act, inject, hnext]
      exact course_fire host host' past past' m source payload _
  | fireTrigger trigger =>
      simp only [act, fireTrigger]
      split
      · exact course_apply host host' past past' m trigger none
      · rfl
  | reset => rfl

/-- The commands of an action are executed one after another, whatever becomes of them. -/
theorem ran_act (m : Machine) (a : Action) :
    (m.act host past a).ran = execute host past (m.act host past a).commands := by
  refine act_cases (P := fun r ↦ r.ran = execute host past r.commands) host past m
    (fun trigger answer ↦ ?_) (fun _ _ _ ↦ rfl) rfl a
  cases h : m.rule? trigger with
  | none => rw [apply_of_none host past h]; rfl
  | some r =>
      cases r with
      | ignore => rw [apply_of_ignore host past h]; rfl
      | permit target effects =>
          rw [apply_of_permit host past h]
          simp [Step.response, Response.commands]

theorem accounts_of_ran_eq_nil {r : Response Machine} (hran : r.ran = [])
    (hnotices : r.notices.filterMap Notice.failure? = [])
    (houtcome : ∀ trigger source target n,
      r.outcome ≠ some (.transitioned trigger source target n)) : r.Accounts where
  counted := fun trigger source target n h ↦ absurd h (houtcome trigger source target n)
  logged := by rw [hran, hnotices]; rfl
  quiet := fun _ ↦ hran

/-- Every response accounts for its failures, in its count and in its notices. -/
theorem accounts_act (m : Machine) (a : Action) : (m.act host past a).Accounts := by
  refine act_cases (P := Response.Accounts) host past m (fun trigger answer ↦ ?_)
    (fun notice answer hnotice ↦ ?_) ?_ a
  · cases h : m.rule? trigger with
    | none =>
        rw [apply_of_none host past h]
        exact accounts_of_ran_eq_nil rfl rfl (by simp [Step.response])
    | some r =>
        cases r with
        | ignore =>
            rw [apply_of_ignore host past h]
            exact accounts_of_ran_eq_nil rfl rfl (by simp [Step.response])
        | permit target effects =>
            rw [apply_of_permit host past h]
            constructor
            · rintro _ _ _ n hn
              cases hn
              rfl
            · simp [Step.response, Step.notices, filterMap_failure?_notices, Notice.failure?]
            · intro hquiet
              exact absurd rfl (hquiet _ _ _ _)
  · refine accounts_of_ran_eq_nil rfl ?_ (by simp [Step.response])
    simp [Step.response, Step.notices, Notice.failure?_of_command? hnotice]
  · exact accounts_of_ran_eq_nil rfl rfl (by simp)

/-- On any two hosts a run takes the same course.  On each host, every single response accounts for
its failures, and all commands of the run are executed one after another. -/
theorem run_isolates_failures (m : Machine) (past : List Command) (as : List Action) :
    (∀ host host' : Host,
      (m.run host past as).map Response.course = (m.run host' past as).map Response.course) ∧
    ∀ host : Host, (∀ r ∈ m.run host past as, r.Accounts) ∧
      (m.run host past as).flatMap (·.ran) =
        execute host past ((m.run host past as).flatMap (·.commands)) ∧
      ((m.run host past as).flatMap (·.notices)).filterMap Notice.failure? =
        ((m.run host past as).flatMap (·.ran)).filterMap Execution.failure? := by
  constructor
  · intro host host'
    apply map_drive_eq (· = ·) _ past rfl
    rintro past m _ a rfl
    have hcourse := course_act host host' past past m a
    exact ⟨hcourse, congrArg Course.commands hcourse, congrArg Course.next hcourse⟩
  · intro host
    have haccounts : ∀ r ∈ m.run host past as, r.Accounts :=
      forall_mem_drive (fun past s a ↦ accounts_act host past s a) past m as
    refine ⟨haccounts, ran_drive (fun past s a ↦ ran_act host past s a) past m as, ?_⟩
    rw [List.filterMap_flatMap, List.filterMap_flatMap]
    exact List.flatMap_congr fun r hr ↦ (haccounts r hr).logged

end Machine

end EventMachine
