import EventMachine.Compilation
import EventMachine.Proofs.Description.Consistent
import EventMachine.Proofs.Filing

/-!
# What compilation assembles

The commands of a description are submitted to the compilers of their devices one after another.
If all of them are accepted, the program is the one that can be read off the description.
-/

namespace EventMachine

/-! ## The program of a description -/

def commandsAt (l : Location) (bs : List Behavior) : List Command :=
  bs.map fun b ↦ ⟨l, b.device, b.command⟩

def Transition.commands (source : String) (t : Transition) : List Command :=
  match t.reaction with
  | .ignore => []
  | .permit target effects => commandsAt (.transition source target t.trigger) effects

def Transition.rule (names : List String) (source : String) (t : Transition) : Rule :=
  match t.reaction with
  | .ignore => .ignore
  | .permit target _ => .permit (names.idxOf target) (t.commands source)

namespace State

def entryCommands (s : State) : List Command := commandsAt (.onEntry s.name) s.onEntry

def exitCommands (s : State) : List Command := commandsAt (.onExit s.name) s.onExit

/-- The commands of a state, in the order in which they are compiled. -/
def commands (s : State) : List Command :=
  s.entryCommands ++ (s.exitCommands ++ s.transitions.flatMap (·.commands s.name))

def rules (names : List String) (s : State) : List (String × Rule) :=
  s.transitions.map fun t ↦ (t.trigger, t.rule names s.name)

def row (names : List String) (s : State) : Row :=
  ⟨s.name, s.entryCommands, s.exitCommands, s.rules names⟩

end State

namespace Description

def commands (d : Description) : List Command := d.states.flatMap State.commands

/-- The program of a consistent description, if all devices accept their commands. -/
def assemble (d : Description) : Program where
  rows := d.states.map (State.row d.stateNames)
  events := .ofTriggers d.triggers
  triggers := d.triggerNames
  initial := d.stateNames.idxOf d.initialState
  finals := (d.finalStates.map d.stateNames.idxOf).eraseDups
  devices := d.requiredDevices
  sources := d.eventSources
  checksum := d.checksum

end Description

theorem modify_append_length {α : Type} (as : List α) (a : α) (bs : List α) (f : α → α) :
    (as ++ a :: bs).modify as.length f = as ++ f a :: bs := by
  induction as with
  | nil => rfl
  | cons a' as ih => rw [List.cons_append, List.length_cons, List.modify_succ_cons, ih]; rfl

namespace Binding

variable {α β : Type} (compilers : Compilers)

/-! ## Submitting commands -/

def submitAll : List Command → Binding Unit
  | [] => return ()
  | c :: cs => do
    submit compilers c
    submitAll cs

def submitting (cs : List Command) (a : α) : Binding α := do
  submitAll compilers cs
  return a

theorem submitAll_append (cs ds : List Command) : submitAll compilers (cs ++ ds) = (do
    submitAll compilers cs
    submitAll compilers ds) := by
  induction cs with
  | nil => simp [submitAll]
  | cons c cs ih => simp [submitAll, ih]

theorem submitting_nil (a : α) : submitting compilers [] a = pure a := by
  simp [submitting, submitAll]

/-- Two submissions in a row are one of the joined lists, with the result of the second. -/
theorem submitting_bind {cs ds : List Command} {a : α} {b : β} {f : α → Binding β}
    (hf : f a = submitting compilers ds b) :
    submitting compilers cs a >>= f = submitting compilers (cs ++ ds) b := by
  simp [submitting, submitAll_append, hf]

theorem submitting_map {cs : List Command} (a : α) (f : α → β) :
    (do let a ← submitting compilers cs a; return f a) = submitting compilers cs (f a) := by
  simp [submitting]

/-- A submission makes the calls of its commands and yields its result if all are accepted. -/
theorem run_submitting (cs : List Command) (a : α) (calls : List Call) :
    (submitting compilers cs a).run calls =
      (((submitAll compilers cs).run calls).1.map fun _ ↦ a,
        ((submitAll compilers cs).run calls).2) := by
  rw [submitting, ExceptT.run_bind]
  cases h : ExceptT.run (submitAll compilers cs) calls with
  | mk r calls' => cases r <;> simp [bind, StateT.bind, h] <;> rfl

theorem command_eq (l : Location) (b : Behavior) : command compilers l b =
    submitting compilers [⟨l, b.device, b.command⟩] ⟨l, b.device, b.command⟩ := by
  simp [command, submitting, submitAll]

/-- A chain submits its commands in order and hands the same commands back. -/
theorem chain_eq (l : Location) (bs : List Behavior) :
    chain compilers l bs = submitting compilers (commandsAt l bs) (commandsAt l bs) := by
  induction bs with
  | nil => exact (submitting_nil compilers _).symm
  | cons b bs ih =>
      rw [chain, command_eq]
      refine submitting_bind compilers ?_
      rw [ih]
      exact submitting_map compilers _ _

/-! ## Filling the table -/

variable {names : List String}

/-- The lookup of a declared name never fails, and gives the place of its first occurrence. -/
theorem stateNumber_eq {name : String} (hname : name ∈ names) :
    stateNumber names.zipIdx name = pure (names.idxOf name) := by
  rw [stateNumber, lookup_zipIdx_of_mem hname]

theorem rule_eq {source : String} {t : Transition} (ht : ∀ target ∈ t.target?, target ∈ names) :
    rule compilers names.zipIdx source t =
      submitting compilers (t.commands source) (t.trigger, t.rule names source) := by
  rw [rule, Transition.commands, Transition.rule]
  cases hreaction : t.reaction with
  | ignore => exact (submitting_nil compilers _).symm
  | permit target effects =>
      have htarget : target ∈ names := ht target (by simp [Transition.target?, hreaction])
      simp only [stateNumber_eq htarget, pure_bind, chain_eq, Transition.commands, hreaction]
      exact submitting_map compilers _ _

/-- The transitions of a state are compiled in the order they are declared in. -/
theorem rules_eq {source : String} {ts : List Transition}
    (hts : ∀ t ∈ ts, ∀ target ∈ t.target?, target ∈ names) :
    rules compilers names.zipIdx source ts =
      submitting compilers (ts.flatMap (·.commands source))
        (ts.map fun t ↦ (t.trigger, t.rule names source)) := by
  induction ts with
  | nil => exact (submitting_nil compilers _).symm
  | cons t ts ih =>
      rw [List.forall_mem_cons] at hts
      rw [rules, rule_eq compilers hts.1]
      refine submitting_bind compilers ?_
      rw [ih hts.2]
      exact submitting_map compilers _ _

/-- Filling the empty row of a state with its chains and rules gives the row of the state.
Distinct triggers keep one rule from replacing another. -/
theorem fill_empty {s : State} (hrules : (s.transitions.map (·.trigger)).Nodup) :
    (Row.empty s.name).fill s.entryCommands s.exitCommands (s.rules names) = s.row names := by
  have htriggers : ((s.rules names).map (·.1)).Nodup := by
    simpa [State.rules, Function.comp_def] using hrules
  rw [Row.fill, Row.empty, State.row, fileAll_of_nodup htriggers, List.nil_append]

/-- Compiling one state submits its commands and fills its own row of the table only. -/
theorem row_eq {table : List Row} {s : State} (hname : s.name ∈ names)
    (hts : ∀ t ∈ s.transitions, ∀ target ∈ t.target?, target ∈ names) :
    row compilers names.zipIdx table s = submitting compilers s.commands
      (table.modify (names.idxOf s.name)
        (·.fill s.entryCommands s.exitCommands (s.rules names))) := by
  simp only [row, stateNumber_eq hname, pure_bind, chain_eq, rules_eq compilers hts]
  refine submitting_bind compilers (submitting_bind compilers ?_)
  exact submitting_map compilers _ _

/-- The rows of the states whose turn has come are filled, the others are still empty. -/
theorem rows_eq {done todo : List State} (hnames : names = (done ++ todo).map (·.name))
    (hnodup : names.Nodup)
    (htargets : ∀ s ∈ todo, ∀ t ∈ s.transitions, ∀ target ∈ t.target?, target ∈ names)
    (hrules : ∀ s ∈ todo, (s.transitions.map (·.trigger)).Nodup) :
    rows compilers names.zipIdx
      (done.map (State.row names) ++ todo.map fun s ↦ Row.empty s.name) todo =
        submitting compilers (todo.flatMap State.commands)
          ((done ++ todo).map (State.row names)) := by
  induction todo generalizing done with
  | nil =>
      rw [rows, List.map_nil, List.append_nil, List.append_nil]
      exact (submitting_nil compilers _).symm
  | cons s todo ih =>
      rw [List.forall_mem_cons] at htargets hrules
      have hmem : s.name ∈ names := by simp [hnames]
      have hfresh : s.name ∉ done.map (·.name) := by
        intro hdone
        rw [hnames, List.map_append, List.nodup_append] at hnodup
        exact hnodup.2.2 _ hdone s.name (by simp) rfl
      have hindex : names.idxOf s.name = (done.map (State.row names)).length := by
        rw [hnames, List.map_append, List.idxOf_append_of_notMem hfresh]
        simp
      have hsplit : done ++ s :: todo = (done ++ [s]) ++ todo := by simp
      have hnames' : names = ((done ++ [s]) ++ todo).map (·.name) := by rw [hnames, hsplit]
      have hnext := ih hnames' htargets.2 hrules.2
      rw [rows, row_eq compilers hmem htargets.1, List.flatMap_cons]
      refine submitting_bind compilers ?_
      rw [List.map_cons, hindex, modify_append_length, fill_empty hrules.1, hsplit, ← hnext]
      simp

/-- For a consistent description the whole compilation is one submission of all its commands,
followed by the program that the description alone determines. -/
theorem program_eq {d : Description} (hd : d.Consistent) :
    program compilers d = submitting compilers d.commands d.assemble := by
  have hnumbers : fileAll d.stateNames.zipIdx [] = d.stateNames.zipIdx := by
    refine fileAll_of_nodup ?_
    simpa using hd.stateNames
  have hfinals : (d.finalStates.filterMap fun name ↦ d.stateNames.zipIdx.lookup name) =
      d.finalStates.map d.stateNames.idxOf := by
    rw [← List.filterMap_eq_map]
    exact List.filterMap_congr fun f hf ↦ lookup_zipIdx_of_mem (hd.finalStates f hf)
  have hempty : d.stateNames.map Row.empty = d.states.map fun s ↦ Row.empty s.name := by
    rw [Description.stateNames, List.map_map]
    rfl
  have hnames : d.stateNames = ([] ++ d.states : List State).map (·.name) := rfl
  have hrows := rows_eq compilers hnames hd.stateNames hd.targets hd.rules
  rw [List.map_nil, List.nil_append, List.nil_append, ← hempty] at hrows
  have hstates : d.states.map (·.name) = d.stateNames := rfl
  simp only [program, hstates, hnumbers, hfinals, hrows, stateNumber_eq hd.initialState, pure_bind]
  exact submitting_map compilers _ _

end Binding

/-- A compiled program does not depend on the compilers: they can refuse, and nothing else. -/
theorem Description.eq_assemble_of_compile {compilers : Compilers} {d : Description} {p : Program}
    (hd : d.Consistent) (h : (d.compile compilers).result = .ok p) : p = d.assemble := by
  rw [compile] at h
  split at h
  · cases h
  · rw [Binding.program_eq compilers hd, Binding.run_submitting] at h
    cases hr : ((Binding.submitAll compilers d.commands).run []).1 with
    | error e => simp [hr, Except.map] at h
    | ok u =>
        rw [hr] at h
        exact (Except.ok.inj h).symm

end EventMachine
