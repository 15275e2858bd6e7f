import EventMachine.Proofs.Compilation.Calls
import EventMachine.Proofs.Machine.Fleet

/-!
# Numbers of states stay within the table

The table of a program has a row for every number that the program holds, so a machine always is in
a state that has a row.  The branches that compilation keeps for a state or a device it does not
find are never taken for the description of an accepted draft.
-/

namespace EventMachine

/-- Every number in a program is the number of a row. -/
structure Program.Closed (p : Program) : Prop where
  initial : p.initial < p.rows.length
  finals : ∀ i ∈ p.finals, i < p.rows.length
  targets : ∀ r ∈ p.rows, ∀ e ∈ r.rules, ∀ target effects,
    e.2 = .permit target effects → target < p.rows.length

/-! ## Runs -/

namespace Machine

/-- A machine of the program `p` whose current state has a row. -/
structure Within (p : Program) (m : Machine) : Prop where
  program : m.program = p
  current : m.current < p.rows.length

variable {p : Program} {m : Machine}

theorem within_start (hp : p.Closed) : (start p).Within p := ⟨rfl, hp.initial⟩

theorem Within.spawn (hp : p.Closed) (hm : m.Within p) : m.spawn.Within p := by
  rw [Machine.spawn, hm.program]
  exact within_start hp

theorem Within.target_lt (hp : p.Closed) (hm : m.Within p) {trigger : String} {target : Nat}
    {effects : List Command} (h : m.rule? trigger = some (.permit target effects)) :
    target < p.rows.length := by
  rw [rule?, row?, hm.program, Option.bind_eq_some_iff] at h
  obtain ⟨r, hr, hrule⟩ := h
  obtain ⟨before, after, heq, -⟩ := List.lookup_eq_some_iff.mp hrule
  have hmem : (trigger, Rule.permit target effects) ∈ r.rules := by
    rw [heq]
    exact List.mem_append_right _ List.mem_cons_self
  exact hp.targets r (List.mem_of_getElem? hr) _ hmem target effects rfl

/-- No action takes a machine out of its table: a move goes to the target of a rule, and every
target is a row. -/
theorem Within.act (hp : p.Closed) (hm : m.Within p) (host : Host) (past : List Command)
    (a : Action) : (m.act host past a).next.Within p := by
  refine act_cases (P := fun r ↦ r.next.Within p) host past m (fun trigger answer ↦ ?_)
    (fun _ _ _ ↦ hm) ⟨hm.program, ?_⟩ a
  · cases h : m.rule? trigger with
    | none =>
        rw [apply_of_none host past h]
        exact hm
    | some r =>
        cases r with
        | ignore =>
            rw [apply_of_ignore host past h]
            exact hm
        | permit target effects =>
            rw [apply_of_permit host past h]
            exact ⟨hm.program, hm.target_lt hp h⟩
  · have hinitial := hp.initial
    rwa [← hm.program] at hinitial ⊢

end Machine

/-! ## Compiled programs -/

namespace Description

variable {d : Description}

/-- The initial state, the targets and the final states of a consistent description are
declared, so the program it assembles to is closed. -/
theorem Consistent.closed_assemble (hd : d.Consistent) : d.assemble.Closed := by
  have hlength : d.assemble.rows.length = d.stateNames.length := by
    rw [assemble, List.length_map, Description.stateNames, List.length_map]
  refine ⟨?_, ?_, ?_⟩
  · rw [hlength]
    exact List.idxOf_lt_length_iff.mpr hd.initialState
  · intro i hi
    obtain ⟨f, hf, rfl⟩ := List.mem_map.mp (List.mem_eraseDups.mp hi)
    rw [hlength]
    exact List.idxOf_lt_length_iff.mpr (hd.finalStates f hf)
  · intro r hr e he target effects hpermit
    obtain ⟨s, hs, rfl⟩ := List.mem_map.mp hr
    obtain ⟨t, ht, rfl⟩ := List.mem_map.mp he
    cases hreaction : t.reaction with
    | ignore => simp [Transition.rule, hreaction] at hpermit
    | permit name _ =>
        have hname : name ∈ d.stateNames :=
          hd.targets s hs t ht name (by simp [Transition.target?, hreaction])
        have htarget : d.stateNames.idxOf name = target := by
          simp only [Transition.rule, hreaction, Rule.permit.injEq] at hpermit
          exact hpermit.1
        rw [hlength, ← htarget]
        exact List.idxOf_lt_length_iff.mpr hname

theorem Consistent.lookup_number (hd : d.Consistent) {name : String} (h : name ∈ d.stateNames) :
    (fileAll d.stateNames.zipIdx []).lookup name = some (d.stateNames.idxOf name) := by
  have hnumbers : fileAll d.stateNames.zipIdx [] = d.stateNames.zipIdx :=
    fileAll_of_nodup (by simpa using hd.stateNames)
  rw [hnumbers, lookup_zipIdx_of_mem h]

/-- With every device provided, compilation ends in the program or in the rejection of one
command; the internal error is out of reach. -/
theorem Consistent.run_program (hd : d.Consistent) {compilers : Compilers}
    (h : ∀ i ∈ d.requiredDevices, compilers i ≠ none) :
    ((Binding.program compilers d).run []).1 = .ok d.assemble ∨
      ∃ c fault, ((Binding.program compilers d).run []).1 = .error (.rejected c fault) := by
  have hpresent := forall_commands_present h
  rw [Binding.program_eq compilers hd, Binding.run_submitting]
  rcases exists_first_rejected hpresent [] with hall | ⟨before, c, after, fault, heq, hb, hc⟩
  · rw [Binding.run_submitAll_of_accepts hall]
    exact Or.inl rfl
  · rw [heq, Binding.run_submitAll_of_rejects hb hc]
    exact Or.inr ⟨c, fault, rfl⟩

/-- Compiling reports the first missing device, or a rejected command, or nothing. -/
theorem Consistent.result_cases (hd : d.Consistent) (compilers : Compilers) :
    (∃ i, (d.requiredDevices.find? fun i ↦ (compilers i).isNone) = some i ∧
      (d.compile compilers).result = .error (.missingCompiler i)) ∨
    (d.compile compilers).result = .ok d.assemble ∨
    ∃ c fault, (d.compile compilers).result = .error (.rejected c fault) := by
  cases hfind : d.requiredDevices.find? fun i ↦ (compilers i).isNone with
  | some i => exact Or.inl ⟨i, rfl, by rw [compile_of_missing hfind]⟩
  | none =>
      have hpresent := find?_missing_eq_none_iff.mp hfind
      have hresult : (d.compile compilers).result =
          ((Binding.program compilers d).run []).1 := by
        simp only [compile, hfind]
        rfl
      rw [hresult]
      exact Or.inr (hd.run_program hpresent)

end Description

/-- A repetition is reported with the value that stands at its place, so there is one. -/
theorem Draft.isSome_of_unique {x : Draft} {v : Violation} (h : x.validate = .error v)
    (hunique : v.expectation = .unique) : v.value.isSome ∧ (x.content? v.position).isSome := by
  have hshows := x.validate_performs.showsValue v h
  obtain ⟨c, -, rfl⟩ := Option.map_eq_some_iff.mp ((x.validate_performs.error_iff v).mp h)
  have hvalue : (x.violation c).value ≠ none := by
    intro hnone
    rcases hshows.mp hnone with he | he <;> rw [hunique] at he <;> cases he
  refine ⟨Option.isSome_iff_ne_none.mpr hvalue, Option.isSome_iff_ne_none.mpr ?_⟩
  intro hnone
  have hposition : x.content? c.position = none := hnone
  rw [violation, hposition] at hvalue
  exact hvalue rfl

namespace Description

/-- Nothing is looked up in vain.  The index of a repetition is one of the list, and validation
finds a value at the place of every repetition it reports.  Compiling the description of an accepted
draft fails neither for a state without number nor, once all required devices are there, for a
missing one; every final state has a number.  Every number in the compiled program is that of a row,
and so is the current one of every machine of a fleet of the program, whatever is done with it. -/
theorem compile_closed (x : Draft) (compilers : Compilers) :
    (∀ (κ : Type) [DecidableEq κ] (keys : List κ) (i j : Nat),
      firstDuplicate keys = some (i, j) → j < i ∧ i < keys.length) ∧
    (∀ v, x.validate = .error v → v.expectation = .unique →
      v.value.isSome ∧ (x.content? v.position).isSome) ∧
    ∀ d, ofDraft x = .ok d →
      (∀ s, (d.compile compilers).result ≠ .error (.unresolved s)) ∧
      (∀ i, (d.compile compilers).result = .error (.missingCompiler i) →
        (d.requiredDevices.find? fun i ↦ (compilers i).isNone) = some i) ∧
      ((∀ i ∈ d.requiredDevices, compilers i ≠ none) →
        ∀ i, ((Binding.program compilers d).run []).1 ≠ .error (.missingCompiler i)) ∧
      (∀ name ∈ d.stateNames, ∃ i < d.states.length,
        (fileAll d.stateNames.zipIdx []).lookup name = some i) ∧
      (∀ f ∈ d.finalStates, f ∈ d.stateNames) ∧
      ∀ p, (d.compile compilers).result = .ok p →
        p.Closed ∧ p.rows.length = d.states.length ∧
        (∀ f ∈ d.finalStates, ∃ i ∈ p.finals, p.nameOf i = f) ∧
        ∀ (host : Host) (past : List Command) (os : List Operation),
          ∀ m ∈ (Fleet.run host ⟨[Machine.start p], past⟩ os).machines,
            m.program = p ∧ m.current < p.rows.length := by
  refine ⟨?_, fun v ↦ Draft.isSome_of_unique, ?_⟩
  · intro κ _ keys i j h
    obtain ⟨-, hji, k, hi, -⟩ := firstDuplicate_eq_some h
    exact ⟨hji, (List.getElem?_eq_some_iff.mp hi).1⟩
  intro d hofDraft
  have hd : d.Consistent := consistent_of_ofDraft hofDraft
  have hlength : d.stateNames.length = d.states.length := List.length_map _
  have hcases := hd.result_cases compilers
  refine ⟨?_, ?_, ?_, ?_, hd.finalStates, ?_⟩
  · intro s hs
    rcases hcases with ⟨i, -, h⟩ | h | ⟨c, fault, h⟩ <;> rw [hs] at h <;> cases h
  · intro i hi
    rcases hcases with ⟨j, hfind, h⟩ | h | ⟨c, fault, h⟩ <;> rw [hi] at h <;> cases h
    exact hfind
  · intro hpresent i hi
    rcases hd.run_program hpresent with h | ⟨c, fault, h⟩ <;> rw [hi] at h <;> cases h
  · intro name hname
    refine ⟨d.stateNames.idxOf name, ?_, hd.lookup_number hname⟩
    rw [← hlength]
    exact List.idxOf_lt_length_iff.mpr hname
  · intro p hp
    obtain rfl : p = d.assemble := eq_assemble_of_compile hd hp
    have hclosed := hd.closed_assemble
    refine ⟨hclosed, List.length_map _, ?_, ?_⟩
    · intro f hf
      refine ⟨d.stateNames.idxOf f, ?_, nameOf_idxOf (hd.finalStates f hf)⟩
      exact List.mem_eraseDups.mpr (List.mem_map_of_mem hf)
    · intro host past os m hm
      have hstart : ∀ m ∈ [Machine.start d.assemble], m.Within d.assemble := by
        intro m hm
        rw [List.mem_singleton.mp hm]
        exact Machine.within_start hclosed
      have hwithin := Fleet.forall_mem_run (fun past _ a h ↦ h.act hclosed host past a)
        (fun _ h ↦ h.spawn hclosed) (f := ⟨_, past⟩) hstart os m hm
      exact ⟨hwithin.program, hwithin.current⟩

theorem compile_closed_lamp : ofDraft lamp = .ok lampDescription ∧
    (lampDescription.compile fun _ ↦ some fun _ ↦ none).result =
      .ok lampDescription.assemble ∧
    lampDescription.assemble.Closed ∧
    ∀ (host : Host) (past : List Command) (os : List Operation),
      ∀ m ∈ (Fleet.run host ⟨[Machine.start lampDescription.assemble], past⟩ os).machines,
        m.program = lampDescription.assemble ∧ m.current < 2 := by
  have hd : ofDraft lamp = .ok lampDescription := rfl
  have hp : (lampDescription.compile fun _ ↦ some fun _ ↦ none).result =
      .ok lampDescription.assemble := rfl
  obtain ⟨hclosed, -, -, hrun⟩ :=
    ((compile_closed lamp fun _ ↦ some fun _ ↦ none).2.2 _ hd).2.2.2.2.2 _ hp
  exact ⟨hd, hp, hclosed, hrun⟩

end Description

end EventMachine
