import EventMachine.Proofs.Description.Devices
import EventMachine.Proofs.Session.Devices

/-!
# When a session compiles

The devices of a session take every command, apart from fail devices, which refuse some or all.  So
a session compiles if each required id has a device and no behavior meets a device that refuses it.
A device that only ignored effects name has to be there, but what it refuses is never asked.
-/

namespace EventMachine

open EventMachine.Text

/-- Whatever holds of an element of a list holds of a first one. -/
theorem exists_first {α : Type} {p : α → Prop} {as : List α} (h : ∃ a ∈ as, p a) :
    ∃ before a after, as = before ++ a :: after ∧ (∀ b ∈ before, ¬p b) ∧ p a := by
  induction as with
  | nil => simp at h
  | cons a as ih =>
      by_cases ha : p a
      · exact ⟨[], a, as, rfl, by simp, ha⟩
      · obtain ⟨before, c, after, rfl, hbefore, hc⟩ := ih (by simpa [ha] using h)
        exact ⟨a :: before, c, after, rfl, List.forall_mem_cons.mpr ⟨ha, hbefore⟩, hc⟩

/-- A fail device refuses the commands that contain a certain text, or all if it has none.  The
empty text is in every command. -/
def Device.Refuses (d : Device) (command : String) : Prop :=
  d.kind = .fail ∧ ∀ needle ∈ d.failOn, needle.toList <:+: command.toList

theorem Device.refuses_iff {d : Device} {command : String} :
    d.refuses command = true ↔ d.Refuses command := by
  rw [refuses, Refuses]
  cases d.kind with
  | log => simp
  | print => simp
  | fail =>
      cases d.failOn with
      | none => simp
      | some needle => simp [occursIn_iff]

/-- What is said when the device of a behavior refuses its command. -/
def Behavior.refusal (b : Behavior) : Fault :=
  .refused ("device " ++ decimal b.device.toNat ++ " refuses command '" ++ b.command ++ "'")

namespace Setup

/-- The device that counts for a behavior refuses its command. -/
def Refuses (x : Setup) (b : Behavior) : Prop :=
  ∃ dev, x.resolve b.device = some dev ∧ dev.Refuses b.command

/-- The smallest id that a description requires and that has no device. -/
structure Lacks (x : Setup) (d : Description) (i : UInt32) : Prop where
  required : i ∈ d.requiredDevices
  missing : x.resolve i = none
  least : ∀ j ∈ d.requiredDevices, x.resolve j = none → i ≤ j

/-- Every id that a description requires has a device. -/
def Provides (x : Setup) (d : Description) : Prop := ∀ i ∈ d.requiredDevices, x.resolve i ≠ none

/-- The first command of a description, in the order of compilation, that is refused. -/
def RefusesFirst (x : Setup) (d : Description) (c : Command) : Prop :=
  ∃ before after, d.commands = before ++ c :: after ∧
    (∀ a ∈ before, ¬x.Refuses a.behavior) ∧ x.Refuses c.behavior

/-- Two setups have devices for the same required ids, and the same devices for the ids that
behaviors name. -/
structure Agrees (x y : Setup) (d : Description) : Prop where
  missing : ∀ i ∈ d.requiredDevices, x.resolve i = none ↔ y.resolve i = none
  named : ∀ b ∈ d.behaviors, x.resolve b.device = y.resolve b.device

/-! ## The compilers of the devices -/

def compilersFor (x : Setup) (d : Description) : Compilers :=
  (x.deviceMap d.requiredDevices).1.compilers

section

variable {x : Setup} {d : Description} {b : Behavior} {i : UInt32}

theorem compilersFor_eq (hi : i ∈ d.requiredDevices) :
    x.compilersFor d i = (x.resolve i).map Device.compiler := by
  rw [compilersFor, DeviceMap.compilers, lookup_deviceMap_of_mem x hi]

theorem compilersFor_eq_none_iff (hi : i ∈ d.requiredDevices) :
    x.compilersFor d i = none ↔ x.resolve i = none := by
  rw [compilersFor_eq hi, Option.map_eq_none_iff]

theorem Provides.compilersFor_ne_none (h : x.Provides d) :
    ∀ i ∈ d.requiredDevices, x.compilersFor d i ≠ none :=
  fun i hi ↦ (compilersFor_eq_none_iff hi).not.mpr (h i hi)

/-- Devices have no memory: a command not refused is accepted after any earlier calls. -/
theorem accepts_of_not_refuses (h : x.Provides d) (hb : b ∈ d.behaviors) (hnot : ¬x.Refuses b) :
    ∀ earlier, (x.compilersFor d).Accepts earlier b := by
  intro earlier
  have hi : b.device ∈ d.requiredDevices := Description.device_mem_requiredDevices hb
  obtain ⟨dev, hdev⟩ := Option.ne_none_iff_exists'.mp (h _ hi)
  have htakes : ¬dev.refuses b.command = true :=
    fun hrefuses ↦ hnot ⟨dev, hdev, Device.refuses_iff.mp hrefuses⟩
  refine ⟨dev.compiler, ?_, ?_⟩
  · rw [compilersFor_eq hi, hdev, Option.map_some]
  · rw [Device.compiler, if_neg htakes]

theorem rejects_of_refuses (hb : b ∈ d.behaviors) (h : x.Refuses b) (earlier : List Call) :
    (x.compilersFor d).Rejects earlier b b.refusal := by
  have hi : b.device ∈ d.requiredDevices := Description.device_mem_requiredDevices hb
  obtain ⟨dev, hdev, hrefuses⟩ := h
  refine ⟨dev.compiler, ?_, ?_⟩
  · rw [compilersFor_eq hi, hdev, Option.map_some]
  · rw [Device.compiler, if_pos (Device.refuses_iff.mpr hrefuses), id_of_resolve hdev,
      Behavior.refusal]

end

/-! ## What comes first -/

section

variable (x : Setup) (d : Description)

theorem exists_lacks (h : ¬x.Provides d) : ∃ i, x.Lacks d i := by
  have hmissing : ∃ i ∈ d.requiredDevices, x.compilersFor d i = none := by
    rw [Provides] at h
    push Not at h
    obtain ⟨i, hi, hnone⟩ := h
    exact ⟨i, hi, (compilersFor_eq_none_iff hi).mpr hnone⟩
  obtain ⟨i, hi, hnone, hleast, -⟩ := Description.exists_smallest_missing hmissing
  refine ⟨i, hi, (compilersFor_eq_none_iff hi).mp hnone, fun j hj hjnone ↦ ?_⟩
  exact hleast j hj ((compilersFor_eq_none_iff hj).mpr hjnone)

theorem exists_refusesFirst (h : ∃ b ∈ d.behaviors, x.Refuses b) : ∃ c, x.RefusesFirst d c := by
  simp only [← d.map_behavior_commands, List.mem_map, exists_exists_and_eq_and] at h
  obtain ⟨before, c, after, hsplit, hbefore, hc⟩ := exists_first h
  exact ⟨c, before, after, hsplit, hbefore, hc⟩

end

theorem RefusesFirst.mem_commands {x : Setup} {d : Description} {c : Command}
    (h : x.RefusesFirst d c) : c ∈ d.commands := by
  obtain ⟨before, after, hsplit, -⟩ := h
  rw [hsplit]
  exact List.mem_append_right _ List.mem_cons_self

namespace Agrees

variable {x y : Setup} {d : Description} (h : x.Agrees y d)

include h

theorem lacks {i : UInt32} (hi : x.Lacks d i) : y.Lacks d i where
  required := hi.required
  missing := (h.missing i hi.required).mp hi.missing
  least := fun j hj hnone ↦ hi.least j hj ((h.missing j hj).mpr hnone)

theorem provides (hx : x.Provides d) : y.Provides d :=
  fun i hi ↦ (h.missing i hi).not.mp (hx i hi)

theorem refuses_iff {b : Behavior} (hb : b ∈ d.behaviors) : x.Refuses b ↔ y.Refuses b := by
  rw [Refuses, Refuses, h.named b hb]

theorem refusesFirst {c : Command} (hc : x.RefusesFirst d c) : y.RefusesFirst d c := by
  obtain ⟨before, after, hsplit, hbefore, hrefuses⟩ := hc
  have hlisted (a : Command) (ha : a ∈ before ++ c :: after) : a.behavior ∈ d.behaviors :=
    Description.behavior_mem_behaviors (hsplit ▸ ha)
  refine ⟨before, after, hsplit, fun a ha ↦ ?_, ?_⟩
  · rw [← h.refuses_iff (hlisted a (List.mem_append_left _ ha))]
    exact hbefore a ha
  · exact (h.refuses_iff (hlisted c (by simp))).mp hrefuses

end Agrees

end Setup

/-! ## Sessions -/

namespace Session

variable {setup : Setup} {d : Description}

theorem compile_of_error {e : CompileError}
    (h : (d.compile (setup.compilersFor d)).result = .error e) :
    (compile setup d).1 = .error (.compilation e) := by
  rw [Setup.compilersFor] at h
  simp only [compile, h]

def opened (setup : Setup) (d : Description) : Session where
  machine := .start d.assemble
  devices := (setup.deviceMap d.requiredDevices).1
  stopOnFinal := setup.stopOnFinal

theorem compile_of_ok (h : (d.compile (setup.compilersFor d)).result = .ok d.assemble) :
    (compile setup d).1 = .ok (opened setup d) := by
  rw [Setup.compilersFor] at h
  simp only [compile, h]
  rfl

/-- The smallest required id without a device is the one reported. -/
theorem compile_of_lacks {i : UInt32} (h : setup.Lacks d i) :
    (compile setup d).1 = .error (.compilation (.missingCompiler i)) := by
  have hnone := (Setup.compilersFor_eq_none_iff h.required).mpr h.missing
  obtain ⟨j, hj, hjnone, hleast, hfind⟩ :=
    Description.exists_smallest_missing ⟨i, h.required, hnone⟩
  obtain rfl : j = i := by
    apply UInt32.le_antisymm
    · exact hleast i h.required hnone
    · exact h.least j hj ((Setup.compilersFor_eq_none_iff hj).mp hjnone)
  apply compile_of_error
  rw [Description.compile_of_missing hfind]

theorem compile_of_refusesFirst (hd : d.Consistent) (h : setup.Provides d) {c : Command}
    (hc : setup.RefusesFirst d c) :
    (compile setup d).1 = .error (.compilation (.rejected c c.behavior.refusal)) := by
  obtain ⟨before, after, hsplit, hbefore, hrefuses⟩ := hc
  have hlisted (a : Command) (ha : a ∈ before ++ c :: after) : a.behavior ∈ d.behaviors :=
    Description.behavior_mem_behaviors (hsplit ▸ ha)
  have haccepts : (setup.compilersFor d).AcceptsAll [] (before.map Command.behavior) := by
    refine Compilers.acceptsAll_of_forall (List.forall_mem_map.mpr fun a ha ↦ ?_) []
    exact Setup.accepts_of_not_refuses h (hlisted a (List.mem_append_left _ ha)) (hbefore a ha)
  have hrejects := Setup.rejects_of_refuses (hlisted c (by simp)) hrefuses
  apply compile_of_error
  rw [Description.compile_of_rejects hd h.compilersFor_ne_none hsplit haccepts (hrejects _)]

/-- With all devices there and nothing refused, a session opens. -/
theorem compile_of_provides (hd : d.Consistent) (h : setup.Provides d)
    (hnot : ∀ b ∈ d.behaviors, ¬setup.Refuses b) :
    (compile setup d).1 = .ok (opened setup d) := by
  have haccepts : (setup.compilersFor d).AcceptsAll [] d.behaviors :=
    Compilers.acceptsAll_of_forall
      (fun b hb ↦ Setup.accepts_of_not_refuses h hb (hnot b hb)) []
  apply compile_of_ok
  rw [Description.compile_of_accepts hd h.compilersFor_ne_none haccepts]

/-- A device is missing, or else a command is refused, or else there is a session. -/
theorem compile_cases (hd : d.Consistent) (setup : Setup) :
    (∃ i, setup.Lacks d i ∧ (compile setup d).1 = .error (.compilation (.missingCompiler i))) ∨
    (setup.Provides d ∧ ∃ c, setup.RefusesFirst d c ∧
      (compile setup d).1 = .error (.compilation (.rejected c c.behavior.refusal))) ∨
    (setup.Provides d ∧ (∀ b ∈ d.behaviors, ¬setup.Refuses b) ∧
      (compile setup d).1 = .ok (opened setup d)) := by
  by_cases h : setup.Provides d
  · by_cases hrefuses : ∃ b ∈ d.behaviors, setup.Refuses b
    · obtain ⟨c, hc⟩ := setup.exists_refusesFirst d hrefuses
      exact .inr (.inl ⟨h, c, hc, compile_of_refusesFirst hd h hc⟩)
    · push Not at hrefuses
      exact .inr (.inr ⟨h, hrefuses, compile_of_provides hd h hrefuses⟩)
  · obtain ⟨i, hi⟩ := setup.exists_lacks d h
    exact .inl ⟨i, hi, compile_of_lacks hi⟩

theorem exists_compile_eq_ok_iff (hd : d.Consistent) (setup : Setup) :
    (∃ s, (compile setup d).1 = .ok s) ↔
      setup.Provides d ∧ ∀ b ∈ d.behaviors, ¬setup.Refuses b := by
  constructor
  · rintro ⟨s, hs⟩
    rcases compile_cases hd setup with ⟨i, -, heq⟩ | ⟨-, c, -, heq⟩ | ⟨h, hnot, -⟩
    · rw [heq] at hs
      cases hs
    · rw [heq] at hs
      cases hs
    · exact ⟨h, hnot⟩
  · rintro ⟨h, hnot⟩
    exact ⟨_, compile_of_provides hd h hnot⟩

theorem compile_eq_error_iff (hd : d.Consistent) (setup : Setup) {e : SessionError} :
    (compile setup d).1 = .error e ↔
      (∃ i, setup.Lacks d i ∧ e = .compilation (.missingCompiler i)) ∨
      (setup.Provides d ∧ ∃ c, setup.RefusesFirst d c ∧
        e = .compilation (.rejected c c.behavior.refusal)) := by
  constructor
  · intro he
    rcases compile_cases hd setup with ⟨i, hi, heq⟩ | ⟨h, c, hc, heq⟩ | ⟨-, -, heq⟩
    · rw [heq] at he
      exact .inl ⟨i, hi, (Except.error.inj he).symm⟩
    · rw [heq] at he
      exact .inr ⟨h, c, hc, (Except.error.inj he).symm⟩
    · rw [heq] at he
      cases he
  · rintro (⟨i, hi, rfl⟩ | ⟨h, c, hc, rfl⟩)
    · exact compile_of_lacks hi
    · exact compile_of_refusesFirst hd h hc

/-- A device that is there is at fault only if a behavior names it. -/
theorem exists_behavior_of_compile (hd : d.Consistent) {e : CompileError}
    (he : (compile setup d).1 = .error (.compilation e)) {i : UInt32} (hi : e.device? = some i)
    (hthere : setup.resolve i ≠ none) : ∃ b ∈ d.behaviors, b.device = i := by
  rcases (compile_eq_error_iff hd setup).mp he with ⟨j, hj, heq⟩ | ⟨-, c, hc, heq⟩
  · cases heq
    obtain rfl : j = i := Option.some.inj hi
    exact absurd hj.missing hthere
  · cases heq
    exact ⟨c.behavior, Description.behavior_mem_behaviors hc.mem_commands, Option.some.inj hi⟩

/-- Of a device that no behavior names it matters only that it is there. -/
theorem compile_eq_of_agrees (hd : d.Consistent) {setup' : Setup} (h : setup.Agrees setup' d) :
    (compile setup d).1.map (·.machine) = (compile setup' d).1.map (·.machine) := by
  rcases compile_cases hd setup with ⟨i, hi, heq⟩ | ⟨hall, c, hc, heq⟩ | ⟨hall, hnot, heq⟩
  · rw [heq, compile_of_lacks (h.lacks hi)]
  · rw [heq, compile_of_refusesFirst hd (h.provides hall) (h.refusesFirst hc)]
  · have hnot' : ∀ b ∈ d.behaviors, ¬setup'.Refuses b :=
      fun b hb ↦ (h.refuses_iff hb).not.mp (hnot b hb)
    rw [heq, compile_of_provides hd (h.provides hall) hnot']
    rfl

/-- A session for an accepted description compiles if every required id has a device and no
behavior is refused.  If ids have no device, the smallest of them is reported, and otherwise the
first refused command with its place.  A device that only ignored effects name is never at fault if
it is there, and what kind of device it is makes no difference. -/
theorem compile_settled {x : Draft} (hd : Description.ofDraft x = .ok d) (setup : Setup) :
    (∀ id, (setup.deviceMap d.requiredDevices).1.lookup id =
      (setup.last? id).or (if id ∈ d.requiredDevices then setup.default? id else none)) ∧
    ((∃ s, (compile setup d).1 = .ok s) ↔
      setup.Provides d ∧ ∀ b ∈ d.behaviors, ¬setup.Refuses b) ∧
    (¬setup.Provides d → ∃ i, setup.Lacks d i) ∧
    (∀ e, (compile setup d).1 = .error e ↔
      (∃ i, setup.Lacks d i ∧ e = .compilation (.missingCompiler i)) ∨
      (setup.Provides d ∧ ∃ c, setup.RefusesFirst d c ∧
        e = .compilation (.rejected c c.behavior.refusal))) ∧
    (∀ e i, (compile setup d).1 = .error (.compilation e) → e.device? = some i →
      setup.resolve i ≠ none → ∃ b ∈ d.behaviors, b.device = i) ∧
    ∀ setup', setup.Agrees setup' d →
      (compile setup d).1.map (·.machine) = (compile setup' d).1.map (·.machine) := by
  have hconsistent : d.Consistent := Description.consistent_of_ofDraft hd
  refine ⟨setup.lookup_deviceMap d.requiredDevices, exists_compile_eq_ok_iff hconsistent setup,
    setup.exists_lacks d, fun e ↦ compile_eq_error_iff hconsistent setup, ?_, ?_⟩
  · intro e i he hi hthere
    exact exists_behavior_of_compile hconsistent he hi hthere
  · intro setup' h
    exact compile_eq_of_agrees hconsistent h

/-- Of the devices of a gate one is named by an ignored effect only, and that one refuses
everything. -/
def gateSetup : Setup where
  devices := [{ id := 4294967295, kind := .fail }]
  defaultKind := some .log

theorem compile_settled_gate :
    Description.ofDraft Description.gate = .ok Description.gateDescription ∧
      gateSetup.resolve 4294967295 = some { id := 4294967295, kind := .fail } ∧
      (∃ s, (compile gateSetup Description.gateDescription).1 = .ok s) ∧
      (compile { gateSetup with defaultKind := none } Description.gateDescription).1 =
        .error (.compilation (.missingCompiler 4)) ∧
      (compile { gateSetup with defaultKind := some .fail } Description.gateDescription).1 =
        .error (.compilation (.rejected ⟨.onExit "closed", 4, "creak"⟩
          (.refused "device 4 refuses command 'creak'"))) := by
  have hd : Description.ofDraft Description.gate = .ok Description.gateDescription := rfl
  have hrequired : Description.gateDescription.requiredDevices = [4, 4294967295] := rfl
  have hcommands : Description.gateDescription.commands = [⟨.onExit "closed", 4, "creak"⟩] := rfl
  obtain ⟨-, hok, -⟩ := compile_settled hd gateSetup
  obtain ⟨-, -, -, hmissing, -⟩ := compile_settled hd { gateSetup with defaultKind := none }
  obtain ⟨-, -, -, hrefused, -⟩ := compile_settled hd { gateSetup with defaultKind := some .fail }
  refine ⟨hd, rfl, hok.mpr ⟨?_, ?_⟩, ?_, ?_⟩
  · rw [Setup.Provides, hrequired, List.forall_mem_cons, List.forall_mem_singleton]
    decide
  · intro b hb
    obtain rfl : b = ⟨4, "creak"⟩ := List.mem_singleton.mp hb
    rintro ⟨dev, hdev, hkind, -⟩
    cases hdev
    cases hkind
  · refine (hmissing _).mpr (.inl ⟨4, ⟨?_, rfl, ?_⟩, rfl⟩)
    · rw [hrequired]
      decide
    · rw [hrequired, List.forall_mem_cons, List.forall_mem_singleton]
      decide
  · refine (hrefused _).mpr (.inr ⟨?_, _, ⟨[], [], hcommands, by simp, ?_⟩, rfl⟩)
    · rw [Setup.Provides, hrequired, List.forall_mem_cons, List.forall_mem_singleton]
      decide
    · exact ⟨{ id := 4, kind := .fail }, rfl, rfl, by simp⟩

end Session

end EventMachine
