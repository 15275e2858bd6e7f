import EventMachine.Proofs.Prompt.Turns
import EventMachine.Proofs.Script.Line
import EventMachine.Proofs.Session.Stopping
import EventMachine.Proofs.Session.Story

/-!
# Events at the prompt

The order to inject an event and a line of a script spell events alike, although one of them cuts a
line that has been trimmed and cut before, and the other skips lines.  A script that is entered
event by event is therefore replayed, to its end and not just to the first final state.
-/

namespace EventMachine

namespace Prompt

open EventMachine.Text

/-! ## Reading events -/

theorem event?_eq (cs : List Char) : event? cs =
    (readId (cutWord cs).1).bind fun source ↦
      if trim (cutWord cs).2 = [] then none
      else some (source, String.ofList (trim (cutWord cs).2)) := by
  rw [event?, cutWord]
  cases cutAtBlank cs with
  | some p => rfl
  | none =>
      -- nothing is behind a word that no blank ends
      simp only [Option.getD_none, if_pos trim_nil, Option.bind_fun_none]
      rfl

/-- An event is read as it is from a line: the word in front is its source, and there has to be
something behind it. -/
theorem event?_eq_some_iff {cs : List Char} {e : UInt32 × String} :
    event? cs = some e ↔ readId (cutWord cs).1 = some e.1 ∧
      trim (cutWord cs).2 = e.2.toList ∧ e.2.toList ≠ [] := by
  obtain ⟨source, payload⟩ := e
  rw [event?_eq, Option.bind_eq_some_iff]
  constructor
  · rintro ⟨n, hid, hevent⟩
    split at hevent
    · cases hevent
    · rename_i hrest
      obtain ⟨rfl, rfl⟩ := Prod.mk.inj (Option.some.inj hevent)
      simp [hid, hrest]
  · rintro ⟨hid, hpayload, hne⟩
    refine ⟨source, hid, ?_⟩
    rw [hpayload, if_neg hne, String.ofList_toList]

/-- The argument of an injection and a script line are read alike, once both are trimmed. -/
theorem event?_trim_eq_some_iff {cs : List Char} {e : UInt32 × String} :
    event? (trim cs) = some e ↔ Script.event? cs = .ok (some e) := by
  rw [event?_eq_some_iff, Script.event?_eq_ok_some_iff]

/-! ## Injecting -/

def told (colors : Bool) (r : Report) : String :=
  r.outcome.line colors ++ " => " ++ stateLine colors r.state r.isFinal ++ "\n"

def stepTurn (colors : Bool) (x : Session) (source : UInt32) (payload : String) : Turn :=
  let (r, y, notices) := x.step source payload
  { printed := [told colors r], next := some y, notices }

def usageTurn (x : Session) : Turn :=
  { printed := ["Usage: inject <source> <payload>\n"], next := some x }

variable {colors : Bool} {x : Session} {s : String}

theorem turn_inject (h : order? s = some .inject) :
    turn colors x (.line s) =
      match event? (argument s) with
      | some (source, payload) => stepTurn colors x source payload
      | none => usageTurn x := by
  rw [turn_of_order colors x h, obey]
  rcases event? (argument s) with _ | ⟨source, payload⟩ <;> rfl

/-- An order to inject makes the step that a script of one line asks for. -/
theorem turn_inject_line {w r : String} (hw : lower w ∈ Order.inject.words)
    (hr : '\n' ∉ r.toList) : turn colors x (.line (w ++ " " ++ r)) =
      match Script.read r with
      | .ok [e] => stepTurn colors x e.source e.payload
      | _ => usageTurn x := by
  obtain ⟨horder, hrest⟩ := cut_line hw r
  rw [turn_inject horder, hrest, Script.read_of_notMem hr]
  cases hevent : Script.event? r.toList with
  | error fault =>
      have hnone : event? (trim r.toList) = none := by
        rw [Option.eq_none_iff_forall_ne_some]
        intro e he
        rw [event?_trim_eq_some_iff, hevent] at he
        cases he
      rw [hnone]
  | ok e =>
      cases e with
      | none =>
          have hnone : event? (trim r.toList) = none := by
            rw [Option.eq_none_iff_forall_ne_some]
            intro e he
            rw [event?_trim_eq_some_iff, hevent] at he
            cases he
          rw [hnone]
      | some e => rw [event?_trim_eq_some_iff.mpr hevent]

/-- A session that knows no event, so that its notices tell which one it was given. -/
def listener : Session where
  machine := .start {
    rows := [], events := {}, triggers := [], initial := 0, finals := [], devices := []
    sources := [], checksum := "" }
  devices := []
  stopOnFinal := false

/-- The step that every session makes on a line is the one its event asks for. -/
theorem forall_stepTurn_iff {w r : String} (hw : lower w ∈ Order.inject.words)
    (hr : '\n' ∉ r.toList) (source : UInt32) (payload : String) :
    (∀ colors x, turn colors x (.line (w ++ " " ++ r)) = stepTurn colors x source payload) ↔
      ∃ n, Script.read r = .ok [⟨n, source, payload⟩] := by
  constructor
  · intro h
    have hlistener : (turn false listener (.line (w ++ " " ++ r))).notices =
        [.unknownEvent source payload] := congrArg Turn.notices (h false listener)
    rw [turn_inject_line hw hr] at hlistener
    split at hlistener
    · rename_i e hread
      obtain ⟨hsource, hpayload⟩ : e.source = source ∧ e.payload = payload :=
        Notice.unknownEvent.inj (List.head_eq_of_cons_eq hlistener)
      exact ⟨e.line, by rw [hread, ← hsource, ← hpayload]⟩
    · cases hlistener
  · rintro ⟨n, hread⟩ colors x
    rw [turn_inject_line hw hr, hread]

/-! ## Whole scripts -/

def injection (e : ScriptEvent) : String := "inject " ++ Script.spell e.source e.payload

theorem turn_injection (colors : Bool) (x : Session) {e : ScriptEvent}
    (htrim : trim e.payload.toList = e.payload.toList) (hne : e.payload.toList ≠ []) :
    turn colors x (.line (injection e)) = stepTurn colors x e.source e.payload := by
  have hw : lower "inject" ∈ Order.inject.words := by decide
  obtain ⟨horder, hrest⟩ := cut_line hw (Script.spell e.source e.payload)
  have hevent := event?_trim_eq_some_iff.mpr (Script.event?_spell e.source htrim hne)
  have hline : injection e = "inject" ++ " " ++ Script.spell e.source e.payload := rfl
  rw [hline, turn_inject horder, hrest, hevent]

/-- Each of the inputs makes the session at that point take a step; these are the reports. -/
inductive Injects (colors : Bool) : Session → List Input → List Report → Session → Prop
  | nil (x : Session) : Injects colors x [] [] x
  | cons {x y : Session} {i : Input} {is : List Input} {rs : List Report} {source : UInt32}
      {payload : String} (hturn : turn colors x i = stepTurn colors x source payload)
      (h : Injects colors (x.step source payload).2.1 is rs y) :
      Injects colors x (i :: is) ((x.step source payload).1 :: rs) y

/-- Events that are entered one by one are replayed. -/
theorem injects_replay {es : List ScriptEvent}
    (hes : ∀ e ∈ es, trim e.payload.toList = e.payload.toList ∧ e.payload.toList ≠ [])
    (colors : Bool) (x : Session) :
    let lines := es.map fun e ↦ Input.line (injection e)
    let (rs, y, notices) := x.persistent.replay es
    Injects colors x lines rs (after colors x lines) ∧
      after colors x lines = { y with stopOnFinal := x.stopOnFinal } ∧
      run colors x lines = (rs.map fun r ↦ [told colors r], notices) := by
  induction es generalizing x with
  | nil => exact ⟨.nil x, rfl, rfl⟩
  | cons e es ih =>
      rw [List.forall_mem_cons] at hes
      have hturn := turn_injection colors x hes.1.1 hes.1.2
      have hnext : (turn colors x (.line (injection e))).next =
          some (x.step e.source e.payload).2.1 := by rw [hturn]; rfl
      obtain ⟨hinjects, hafter, hrun⟩ := ih hes.2 (x.step e.source e.payload).2.1
      simp only [Session.replay_persistent_cons, List.map_cons]
      rw [after_cons_of_next hnext, run_cons_of_next hnext, hrun, hturn]
      exact ⟨.cons hturn hinjects, hafter, rfl⟩

/-- A line that orders to inject an event makes the step of a script that consists of its rest, if
there is one event in it, and is not understood otherwise.  The events of a script that are injected
one by one therefore lead where a replay leads, by the same steps. -/
theorem injection_agrees_with_script :
    (∀ w r, lower w ∈ Order.inject.words → '\n' ∉ r.toList →
      (∀ colors x, turn colors x (.line (w ++ " " ++ r)) =
        match Script.read r with
        | .ok [e] => stepTurn colors x e.source e.payload
        | _ => usageTurn x) ∧
      ∀ source payload,
        (∀ colors x, turn colors x (.line (w ++ " " ++ r)) = stepTurn colors x source payload) ↔
          ∃ n, Script.read r = .ok [⟨n, source, payload⟩]) ∧
    ∀ t es, Script.read t = .ok es → ∀ (colors : Bool) (x : Session),
      let lines := es.map fun e ↦ Input.line (injection e)
      let (rs, y, notices) := x.persistent.replay es
      Injects colors x lines rs (after colors x lines) ∧
        after colors x lines = { y with stopOnFinal := x.stopOnFinal } ∧
        run colors x lines = (rs.map fun r ↦ [told colors r], notices) := by
  refine ⟨fun w r hw hr ↦ ⟨fun colors x ↦ turn_inject_line hw hr, forall_stepTurn_iff hw hr⟩, ?_⟩
  intro t es hread colors x
  exact injects_replay (Script.trim_payload_of_read hread) colors x

/-- The lamp is off, and final, after the second event, but the prompt goes on. -/
def lampScript : String := "1 press\n# twice\n  +1\tpress\n1 press"

def lampScriptEvents : List ScriptEvent := [⟨1, 1, "press"⟩, ⟨3, 1, "press"⟩, ⟨4, 1, "press"⟩]

theorem injection_agrees_with_script_lamp :
    lower "InJect" ∈ Order.inject.words ∧ Script.read "  +1\tpress " = .ok [⟨1, 1, "press"⟩] ∧
      turn false Session.lampSession (.line "InJect   +1\tpress ") =
        stepTurn false Session.lampSession 1 "press" ∧
      (stepTurn false Session.lampSession 1 "press").printed = ["switch off → on => on\n"] ∧
      Script.read "# 1 press" = .ok [] ∧
      turn false Session.lampSession (.line "i # 1 press") = usageTurn Session.lampSession ∧
      Script.read lampScript = .ok lampScriptEvents ∧
      (run false Session.lampSession (lampScriptEvents.map fun e ↦ .line (injection e))).1 =
        [["switch off → on => on\n"], ["switch on → off => off (final)\n"],
          ["switch off → on => on\n"]] := by
  have hw : lower "InJect" ∈ Order.inject.words := by decide
  have hshort : lower "i" ∈ Order.inject.words := by decide
  have hread : Script.read "  +1\tpress " = .ok [⟨1, 1, "press"⟩] := by decide
  have hskipped : Script.read "# 1 press" = .ok [] := by decide
  have hscript : Script.read lampScript = .ok lampScriptEvents := by decide
  have hturn := (injection_agrees_with_script.1 "InJect" "  +1\tpress " hw (by decide)).1
    false Session.lampSession
  have husage := (injection_agrees_with_script.1 "i" "# 1 press" hshort (by decide)).1
    false Session.lampSession
  rw [hread] at hturn
  rw [hskipped] at husage
  obtain ⟨-, -, hrun⟩ := injection_agrees_with_script.2 lampScript lampScriptEvents hscript
    false Session.lampSession
  refine ⟨hw, hread, hturn, by decide, hskipped, husage, hscript, ?_⟩
  rw [hrun]
  decide

end Prompt

end EventMachine
