import EventMachine.Proofs.Text.Digits
import EventMachine.Script
import Mathlib.Data.List.Basic

/-!
# Lines of a script

A line has an event if its first word is an id and something is behind it, which is the payload.
The events of a script are those of its lines, and an event is read again from the line that spells
it.
-/

namespace EventMachine

namespace Script

open EventMachine.Text

/-! ## Single lines -/

theorem event?_eq (line : List Char) : event? line =
    if trim line = [] ∨ (trim line).head? = some '#' then .ok none
    else
      match readId (cutWord (trim line)).1 with
      | none => .error (.badSource (String.ofList (cutWord (trim line)).1))
      | some source =>
        if trim (cutWord (trim line)).2 = [] then .error .noPayload
        else .ok (some (source, String.ofList (trim (cutWord (trim line)).2))) := rfl

theorem readId_cutWord_of_skipped {cs : List Char} (h : cs = [] ∨ cs.head? = some '#') :
    readId (cutWord cs).1 = none := by
  rcases h with rfl | h
  · rfl
  · obtain ⟨ds, rfl⟩ := List.head?_eq_some_iff.mp h
    obtain ⟨w, r, hw, hcut, hword⟩ := exists_cut ('#' :: ds)
    rw [hword]
    rcases hcut with ⟨rfl, -⟩ | ⟨b, hb, heq⟩
    · exact readId_hash ds
    · cases w with
      | nil =>
          obtain rfl : '#' = b := List.head_eq_of_cons_eq heq
          exact absurd hb (by decide)
      | cons c w =>
          obtain rfl : '#' = c := List.head_eq_of_cons_eq heq
          exact readId_hash w

/-- A line has an event if it starts with an id, as a line that is skipped does not, and does not
end there. -/
theorem event?_eq_ok_some_iff {line : List Char} {e : UInt32 × String} :
    event? line = .ok (some e) ↔ readId (cutWord (trim line)).1 = some e.1 ∧
      trim (cutWord (trim line)).2 = e.2.toList ∧ e.2.toList ≠ [] := by
  obtain ⟨source, payload⟩ := e
  rw [event?_eq]
  split
  · rename_i hskipped
    simp [readId_cutWord_of_skipped hskipped]
  · cases hid : readId (cutWord (trim line)).1 with
    | none => simp
    | some n =>
        simp only
        by_cases hrest : trim (cutWord (trim line)).2 = []
        · rw [if_pos hrest, hrest]
          constructor
          · intro h
            cases h
          · rintro ⟨-, hpayload, hne⟩
            exact absurd hpayload.symm hne
        · rw [if_neg hrest, Except.ok.injEq, Option.some_inj, Option.some_inj, Prod.mk.injEq]
          constructor
          · rintro ⟨rfl, rfl⟩
            simp [hrest]
          · rintro ⟨rfl, hpayload, -⟩
            simp [hpayload]

theorem trim_payload {line : List Char} {source : UInt32} {payload : String}
    (h : event? line = .ok (some (source, payload))) :
    trim payload.toList = payload.toList ∧ payload.toList ≠ [] := by
  obtain ⟨-, hpayload, hne⟩ := event?_eq_ok_some_iff.mp h
  rw [← hpayload, trim_trim]
  exact ⟨rfl, hpayload ▸ hne⟩

def spell (source : UInt32) (payload : String) : String :=
  decimal source.toNat ++ " " ++ payload

/-- An event is read from the line that spells it, if its payload has been trimmed. -/
theorem event?_spell (source : UInt32) {payload : String}
    (htrim : trim payload.toList = payload.toList) (hne : payload.toList ≠ []) :
    event? (spell source payload).toList = .ok (some (source, payload)) := by
  have hspell : (spell source payload).toList =
      (decimal source.toNat).toList ++ ' ' :: payload.toList := by
    simp [spell]
  have hdigits : ∀ c ∈ (decimal source.toNat).toList, isBlank c = false := fun c hc ↦
    isBlank_eq_false_of_isDigit (isDigit_of_mem_decimal hc)
  have hblank : isBlank ' ' = true := by decide
  obtain ⟨hword, hrest⟩ := cutWord_trim_append (decimal_toList_ne_nil source.toNat) hdigits hblank
    payload.toList
  rw [hspell, event?_eq_ok_some_iff, hword, hrest]
  exact ⟨readId_decimal source, htrim, hne⟩

/-! ## Whole scripts -/

theorem read_of_notMem {s : String} (h : '\n' ∉ s.toList) : read s =
    match event? s.toList with
    | .error fault => .error ⟨1, fault⟩
    | .ok none => .ok []
    | .ok (some e) => .ok [⟨1, e.1, e.2⟩] := by
  have hread : read s = eventsFrom 1 [s.toList] := by
    rw [read, lines, List.splitOn_eq_singleton h]
  rw [hread, eventsFrom]
  rcases event? s.toList with fault | (_ | e) <;> rfl

theorem eventsFrom_cons_eq_ok_iff {n : Nat} {l : List Char} {ls : List (List Char)}
    {es : List ScriptEvent} : eventsFrom n (l :: ls) = .ok es ↔
      ∃ o es', event? l = .ok o ∧ eventsFrom (n + 1) ls = .ok es' ∧
        es = (o.map fun e ↦ ⟨n, e.1, e.2⟩).toList ++ es' := by
  rw [eventsFrom]
  cases event? l with
  | error fault => simp
  | ok o =>
      cases eventsFrom (n + 1) ls with
      | error e => simp [Except.map]
      | ok es' => simp [Except.map, eq_comm]

/-- Reading stops at the first bad line, and says its number. -/
theorem eventsFrom_cons_eq_error_iff {n : Nat} {l : List Char} {ls : List (List Char)}
    {e : ScriptError} : eventsFrom n (l :: ls) = .error e ↔
      event? l = .error e.fault ∧ e.line = n ∨
        (∃ o, event? l = .ok o) ∧ eventsFrom (n + 1) ls = .error e := by
  rw [eventsFrom]
  cases event? l with
  | error fault =>
      obtain ⟨line, fault'⟩ := e
      simp [eq_comm, and_comm]
  | ok o => cases eventsFrom (n + 1) ls <;> simp [Except.map]

/-- An event of a script is that of the line with its number. -/
theorem exists_line_of_mem_eventsFrom {n : Nat} {ls : List (List Char)} {es : List ScriptEvent}
    (h : eventsFrom n ls = .ok es) {e : ScriptEvent} (he : e ∈ es) :
    ∃ before l after, ls = before ++ l :: after ∧ event? l = .ok (some (e.source, e.payload)) ∧
      e.line = n + before.length := by
  induction ls generalizing n es with
  | nil =>
      cases h
      cases he
  | cons l ls ih =>
      obtain ⟨o, es', hl, hrest, rfl⟩ := eventsFrom_cons_eq_ok_iff.mp h
      rcases List.mem_append.mp he with he | he
      · obtain ⟨a, ha, rfl⟩ := Option.map_eq_some_iff.mp (Option.mem_toList.mp he)
        exact ⟨[], l, ls, rfl, by rw [hl, ha], rfl⟩
      · obtain ⟨before, l', after, rfl, hevent, hline⟩ := ih hrest he
        refine ⟨l :: before, l', after, rfl, hevent, ?_⟩
        rw [hline, List.length_cons]
        omega

/-- The payloads of a script have been trimmed, and none is empty. -/
theorem trim_payload_of_read {s : String} {es : List ScriptEvent} (h : read s = .ok es) :
    ∀ e ∈ es, trim e.payload.toList = e.payload.toList ∧ e.payload.toList ≠ [] := by
  intro e he
  obtain ⟨_, l, _, -, hl, -⟩ := exists_line_of_mem_eventsFrom h he
  exact trim_payload hl

end Script

end EventMachine
