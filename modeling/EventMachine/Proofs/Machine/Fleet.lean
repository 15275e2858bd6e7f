import EventMachine.Proofs.Machine.Run

/-!
# Fleets

Several machines side by side, which execute their commands on one host.  Every machine can be
driven and can spawn another one, which joins the fleet as its last member.
-/

namespace EventMachine

/-- A call on the machine with the given index; where there is none, nothing happens. -/
inductive Operation
  | act (i : Nat) (a : Action)
  | spawn (i : Nat)
  deriving DecidableEq, Repr

/-- The machines, and the commands that any of them has executed so far. -/
structure Fleet where
  machines : List Machine
  past : List Command
  deriving DecidableEq, Repr

namespace Fleet

def step (host : Host) (f : Fleet) : Operation → Fleet
  | .act i a =>
    match f.machines[i]? with
    | none => f
    | some m =>
      let r := m.act host f.past a
      ⟨f.machines.set i r.next, f.past ++ r.commands⟩
  | .spawn i =>
    match f.machines[i]? with
    | none => f
    | some m => { f with machines := f.machines ++ [m.spawn] }

def run (host : Host) (f : Fleet) (os : List Operation) : Fleet := os.foldl (step host) f

variable {P : Machine → Prop} {host : Host}
  (hact : ∀ past m a, P m → P (m.act host past a).next) (hspawn : ∀ m, P m → P m.spawn)

include hact hspawn

/-- What spawning and acting preserve of one machine, an operation preserves of all of them. -/
theorem forall_mem_step {f : Fleet} (h : ∀ m ∈ f.machines, P m) (o : Operation) :
    ∀ m ∈ (f.step host o).machines, P m := by
  cases o with
  | act i a =>
      rw [step]
      cases hi : f.machines[i]? with
      | none => exact h
      | some m =>
          have hm : P m := h m (List.mem_of_getElem? hi)
          intro m' hm'
          rcases List.mem_or_eq_of_mem_set hm' with hm' | rfl
          · exact h m' hm'
          · exact hact f.past m a hm
  | spawn i =>
      rw [step]
      cases hi : f.machines[i]? with
      | none => exact h
      | some m =>
          have hm : P m := h m (List.mem_of_getElem? hi)
          intro m' hm'
          rcases List.mem_append.mp hm' with hm' | hm'
          · exact h m' hm'
          · rw [List.mem_singleton.mp hm']
            exact hspawn m hm

/-- What every call on a machine keeps, spawning included, is true of all machines at any time. -/
theorem forall_mem_run {f : Fleet} (h : ∀ m ∈ f.machines, P m) (os : List Operation) :
    ∀ m ∈ (f.run host os).machines, P m := by
  induction os generalizing f with
  | nil => exact h
  | cons o os ih => exact ih (forall_mem_step hact hspawn h o)

end Fleet

/-! ## Reached machines -/

/-- The machines that come of a fresh one: what a call leaves behind, on whatever host and after
whatever commands, and what is spawned. -/
inductive Machine.Reached (p : Program) : Machine → Prop
  | start : Reached p (.start p)
  | act (host : Host) (past : List Command) (a : Action) {m : Machine} (h : Reached p m) :
      Reached p (m.act host past a).next
  | spawn {m : Machine} (h : Reached p m) : Reached p m.spawn

namespace Fleet

section

variable {p : Program} (host : Host) {f : Fleet} (h : ∀ m ∈ f.machines, Machine.Reached p m)

include h

theorem reached_step (o : Operation) : ∀ m ∈ (f.step host o).machines, Machine.Reached p m :=
  forall_mem_step (fun past _ a hm ↦ hm.act host past a) (fun _ hm ↦ hm.spawn) h o

/-- Every machine of a fleet is one that a run from the start can reach. -/
theorem reached_run (os : List Operation) :
    ∀ m ∈ (f.run host os).machines, Machine.Reached p m :=
  forall_mem_run (fun past _ a hm ↦ hm.act host past a) (fun _ hm ↦ hm.spawn) h os

end

variable {p : Program} {host : Host} {Q : Command → Prop}
  (hcommands : ∀ past m a, Machine.Reached p m → ∀ c ∈ (m.act host past a).commands, Q c)

include hcommands

/-- An operation only adds to the commands executed so far, and adds what one machine may
execute. -/
theorem exists_past_step {f : Fleet} (h : ∀ m ∈ f.machines, Machine.Reached p m)
    (o : Operation) : ∃ executed, (f.step host o).past = f.past ++ executed ∧
      ∀ c ∈ executed, Q c := by
  cases o with
  | act i a =>
      rw [step]
      cases hi : f.machines[i]? with
      | none => exact ⟨[], by simp⟩
      | some m =>
          have hm : Machine.Reached p m := h m (List.mem_of_getElem? hi)
          exact ⟨(m.act host f.past a).commands, rfl, hcommands f.past m a hm⟩
  | spawn i =>
      rw [step]
      cases f.machines[i]? <;> exact ⟨[], by simp⟩

/-- What is true of every command that a reached machine executes is true of all that is added to
the log. -/
theorem exists_past_run {f : Fleet} (h : ∀ m ∈ f.machines, Machine.Reached p m)
    (os : List Operation) : ∃ executed, (f.run host os).past = f.past ++ executed ∧
      ∀ c ∈ executed, Q c := by
  induction os generalizing f with
  | nil => exact ⟨[], by simp [run]⟩
  | cons o os ih =>
      obtain ⟨first, hfirst, hQ⟩ := exists_past_step hcommands h o
      obtain ⟨rest, hrest, hQ'⟩ := ih (reached_step host h o)
      refine ⟨first ++ rest, ?_, List.forall_mem_append.mpr ⟨hQ, hQ'⟩⟩
      rw [← List.append_assoc, ← hfirst]
      exact hrest

end Fleet

end EventMachine
