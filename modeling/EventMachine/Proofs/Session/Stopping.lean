import EventMachine.Session

/-!
# Stopping at final states

A replay that goes on after a final state reports on each event, and can be interrupted between any
two of them.  A replay that stops is the beginning of it: the reports up to the first one on a final
state, and the session after just as many events.
-/

namespace EventMachine.Session

/-- The same session, but one that goes on after a final state. -/
def persistent (x : Session) : Session := { x with stopOnFinal := false }

/-- The same session, but one that ends a replay at a final state. -/
def stopping (x : Session) : Session := { x with stopOnFinal := true }

theorem step_persistent (x : Session) (source : UInt32) (payload : String) :
    x.persistent.step source payload =
      ((x.step source payload).1, (x.step source payload).2.1.persistent,
        (x.step source payload).2.2) := rfl

theorem step_stopping (x : Session) (source : UInt32) (payload : String) :
    x.stopping.step source payload =
      ((x.step source payload).1, (x.step source payload).2.1.stopping,
        (x.step source payload).2.2) := rfl

/-- A replay that an event does not end goes on from the session after it. -/
theorem replay_cons {x : Session} {e : ScriptEvent}
    (h : ¬(x.stopOnFinal ∧ (x.step e.source e.payload).1.isFinal)) (es : List ScriptEvent) :
    x.replay (e :: es) =
      ((x.step e.source e.payload).1 :: ((x.step e.source e.payload).2.1.replay es).1,
        ((x.step e.source e.payload).2.1.replay es).2.1,
        (x.step e.source e.payload).2.2 ++ ((x.step e.source e.payload).2.1.replay es).2.2) := by
  rw [replay]
  exact if_neg h

theorem replay_persistent_cons (x : Session) (e : ScriptEvent) (es : List ScriptEvent) :
    x.persistent.replay (e :: es) =
      let y := (x.step e.source e.payload).2.1
      ((x.step e.source e.payload).1 :: (y.persistent.replay es).1, (y.persistent.replay es).2.1,
        (x.step e.source e.payload).2.2 ++ (y.persistent.replay es).2.2) := by
  have hon : ¬(x.persistent.stopOnFinal ∧ (x.persistent.step e.source e.payload).1.isFinal) := by
    simp [persistent]
  rw [replay_cons hon, step_persistent]

section

variable {x : Session} {e : ScriptEvent}

theorem replay_stopping_cons (h : (x.step e.source e.payload).1.isFinal = false)
    (es : List ScriptEvent) : x.stopping.replay (e :: es) =
      let y := (x.step e.source e.payload).2.1
      ((x.step e.source e.payload).1 :: (y.stopping.replay es).1, (y.stopping.replay es).2.1,
        (x.step e.source e.payload).2.2 ++ (y.stopping.replay es).2.2) := by
  have hon : ¬(x.stopping.stopOnFinal ∧ (x.stopping.step e.source e.payload).1.isFinal) := by
    rw [step_stopping, h]
    simp
  rw [replay_cons hon, step_stopping]

theorem replay_stopping_cons_of_final (h : (x.step e.source e.payload).1.isFinal = true)
    (es : List ScriptEvent) : x.stopping.replay (e :: es) =
      let y := (x.step e.source e.payload).2.1
      ([(x.step e.source e.payload).1], y.stopping,
        (x.step e.source e.payload).2.2 ++ [.finalReached y.machine.state e.line]) := by
  rw [replay, step_stopping]
  exact if_pos ⟨rfl, h⟩

end

/-! ## Going on -/

/-- Without stopping, every event of the script is reported once. -/
theorem events_replay_persistent (x : Session) (es : List ScriptEvent) :
    ((x.persistent.replay es).1.map fun r ↦ (r.source, r.payload)) =
      es.map fun e ↦ (e.source, e.payload) := by
  induction es generalizing x with
  | nil => rfl
  | cons e es ih =>
      rw [replay_persistent_cons, List.map_cons, List.map_cons, ih]
      rfl

/-- Replaying two scripts in a row is replaying one of both. -/
theorem replay_persistent_append (x : Session) (as bs : List ScriptEvent) :
    x.persistent.replay (as ++ bs) =
      let (rs, y, ns) := x.persistent.replay as
      let (rs', z, ns') := y.replay bs
      (rs ++ rs', z, ns ++ ns') := by
  induction as generalizing x with
  | nil => rfl
  | cons a as ih =>
      rw [List.cons_append, replay_persistent_cons, replay_persistent_cons]
      simp only [ih, List.cons_append, List.append_assoc]

/-! ## Stopping -/

/-- The first reports are the shortest beginning of the others that ends in a final one, or all of
them if none is final. -/
inductive UntilFinal : List Report → List Report → Prop
  | all {rs : List Report} (h : ∀ r ∈ rs, r.isFinal = false) : UntilFinal rs rs
  | cut {rs : List Report} {r : Report} (h : ∀ r ∈ rs, r.isFinal = false)
      (hr : r.isFinal = true) (rest : List Report) : UntilFinal (rs ++ [r]) (rs ++ r :: rest)

theorem UntilFinal.head {r : Report} (hr : r.isFinal = true) (rest : List Report) :
    UntilFinal [r] (r :: rest) :=
  @UntilFinal.cut [] r (List.forall_mem_nil _) hr rest

theorem UntilFinal.cons {r : Report} {rs rs' : List Report} (hr : r.isFinal = false)
    (h : UntilFinal rs rs') : UntilFinal (r :: rs) (r :: rs') := by
  cases h with
  | all h => exact .all (List.forall_mem_cons.mpr ⟨hr, h⟩)
  | @cut rs r' h hr' rest =>
      have hrs : ∀ r'' ∈ r :: rs, r''.isFinal = false := List.forall_mem_cons.mpr ⟨hr, h⟩
      exact .cut hrs hr' rest

/-- A replay that stops is one that goes on, of fewer events. -/
theorem replay_stopping (x : Session) (es : List ScriptEvent) :
    let rs := (x.stopping.replay es).1
    UntilFinal rs (x.persistent.replay es).1 ∧
      (x.persistent.replay (es.take rs.length)).1 = rs ∧
      (x.persistent.replay (es.take rs.length)).2.1.stopping = (x.stopping.replay es).2.1 := by
  induction es generalizing x with
  | nil => exact ⟨.all (by simp [replay]), rfl, rfl⟩
  | cons e es ih =>
      cases hfinal : (x.step e.source e.payload).1.isFinal with
      | true =>
          rw [replay_stopping_cons_of_final hfinal, replay_persistent_cons]
          refine ⟨.head hfinal _, ?_⟩
          simp only [List.length_singleton, List.take_succ_cons, List.take_zero]
          rw [replay_persistent_cons]
          exact ⟨rfl, rfl⟩
      | false =>
          obtain ⟨huntil, hreports, hsession⟩ := ih (x.step e.source e.payload).2.1
          rw [replay_stopping_cons hfinal, replay_persistent_cons]
          refine ⟨huntil.cons hfinal, ?_⟩
          simp only [List.length_cons, List.take_succ_cons]
          rw [replay_persistent_cons]
          exact ⟨congrArg _ hreports, hsession⟩

/-- A session that goes on reports on every event in its turn, and replays one list of events behind
another as it replays both one after the other.  A session that stops at final states gives the same
reports up to the first one on a final state; it is then where the other one is after the events of
these reports, with the same journal. -/
theorem stopping_truncates (x : Session) :
    (∀ es, ((x.persistent.replay es).1.map fun r ↦ (r.source, r.payload)) =
      es.map fun e ↦ (e.source, e.payload)) ∧
    (∀ as bs, x.persistent.replay (as ++ bs) =
      let (rs, y, ns) := x.persistent.replay as
      let (rs', z, ns') := y.replay bs
      (rs ++ rs', z, ns ++ ns')) ∧
    ∀ es,
      let (rs, y, _) := x.stopping.replay es
      let (rs', z, _) := x.persistent.replay (es.take rs.length)
      UntilFinal rs (x.persistent.replay es).1 ∧ rs' = rs ∧ y = z.stopping := by
  refine ⟨events_replay_persistent x, replay_persistent_append x, fun es ↦ ?_⟩
  obtain ⟨huntil, hreports, hsession⟩ := replay_stopping x es
  exact ⟨huntil, hreports, hsession.symm⟩

end EventMachine.Session
