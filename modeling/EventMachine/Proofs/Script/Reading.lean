import EventMachine.Proofs.Script.Grammar
import Mathlib.Data.List.Forall2

/-!
# Scripts in parts

A script that ends a line is read independently of what is added to it: the lines of both parts keep
their faults and their events, and only the numbers of the later ones change.  Reading fails if one
of the lines is faulty, and the first such line is reported.
-/

namespace EventMachine.Script

open EventMachine.Text

/-! ## Lines in a row -/

/-- The events that lines tell, when the first of them has the number `n`. -/
def numbered (n : Nat) (os : List (Option (UInt32 × String))) : List ScriptEvent :=
  (os.zipIdx n).filterMap fun p ↦ p.1.map fun e ↦ ⟨p.2, e.1, e.2⟩

theorem numbered_cons (n : Nat) (o : Option (UInt32 × String))
    (os : List (Option (UInt32 × String))) : numbered n (o :: os) =
      (o.map fun e ↦ ⟨n, e.1, e.2⟩).toList ++ numbered (n + 1) os := by
  rw [numbered, List.zipIdx_cons, List.filterMap_cons]
  cases o <;> rfl

theorem numbered_ascending (n : Nat) (os : List (Option (UInt32 × String))) :
    (numbered n os).Pairwise fun e f ↦ e.line < f.line := by
  induction os generalizing n with
  | nil => exact .nil
  | cons o os ih =>
      rw [numbered_cons]
      cases o with
      | none => exact ih (n + 1)
      | some e =>
          refine List.pairwise_cons.mpr ⟨fun f hf ↦ ?_, ih (n + 1)⟩
          obtain ⟨p, hp, hf⟩ := List.mem_filterMap.mp hf
          obtain ⟨a, -, rfl⟩ := Option.map_eq_some_iff.mp hf
          exact List.le_snd_of_mem_zipIdx hp

/-- Lines are read if each of them has one of the forms, and then for the events they tell. -/
theorem eventsFrom_eq_ok_iff {n : Nat} {ls : List (List Char)} {es : List ScriptEvent} :
    eventsFrom n ls = .ok es ↔ ∃ os, List.Forall₂ Tells ls os ∧ es = numbered n os := by
  induction ls generalizing n es with
  | nil =>
      constructor
      · intro h
        cases h
        exact ⟨[], .nil, rfl⟩
      · rintro ⟨os, hos, rfl⟩
        cases hos
        rfl
  | cons l ls ih =>
      rw [eventsFrom_cons_eq_ok_iff]
      constructor
      · rintro ⟨o, es', hl, hrest, rfl⟩
        obtain ⟨os, hos, rfl⟩ := ih.mp hrest
        exact ⟨o :: os, .cons (event?_eq_ok_iff.mp hl) hos, (numbered_cons n o os).symm⟩
      · rintro ⟨os, hos, rfl⟩
        cases hos with
        | @cons _ o _ os hl hos =>
            exact ⟨o, _, hl.event?_eq, ih.mpr ⟨os, hos, rfl⟩, numbered_cons n o os⟩

/-- The error is that of the first line that has none of the forms. -/
theorem eventsFrom_eq_error_iff {n : Nat} {ls : List (List Char)} {e : ScriptError} :
    eventsFrom n ls = .error e ↔ ∃ before l after, ls = before ++ l :: after ∧
      (∀ l' ∈ before, ∃ o, Tells l' o) ∧ event? l = .error e.fault ∧
      e.line = n + before.length := by
  induction ls generalizing n with
  | nil => simp [eventsFrom]
  | cons l ls ih =>
      rw [eventsFrom_cons_eq_error_iff, ih]
      constructor
      · rintro (⟨hl, hline⟩ | ⟨⟨o, hl⟩, before, l', after, rfl, hbefore, hl', hline⟩)
        · exact ⟨[], l, ls, rfl, by simp, hl, hline⟩
        · refine ⟨l :: before, l', after, rfl, ?_, hl', ?_⟩
          · exact List.forall_mem_cons.mpr ⟨⟨o, event?_eq_ok_iff.mp hl⟩, hbefore⟩
          · rw [hline, List.length_cons]
            omega
      · rintro ⟨before, l', after, heq, hbefore, hl', hline⟩
        cases before with
        | nil =>
            cases heq
            exact .inl ⟨hl', hline⟩
        | cons k before =>
            cases heq
            obtain ⟨⟨o, hl⟩, hbefore⟩ := List.forall_mem_cons.mp hbefore
            refine .inr ⟨⟨o, hl.event?_eq⟩, before, l', after, rfl, hbefore, hl', ?_⟩
            rw [hline, List.length_cons]
            omega

/-- Lines are read on from where the ones before them stopped. -/
theorem eventsFrom_append (n : Nat) (ls ms : List (List Char)) :
    eventsFrom n (ls ++ ms) = (eventsFrom n ls).bind fun es ↦
      (eventsFrom (n + ls.length) ms).map fun fs ↦ es ++ fs := by
  induction ls generalizing n with
  | nil =>
      simp only [List.nil_append, eventsFrom, List.length_nil, Nat.add_zero]
      cases eventsFrom n ms <;> rfl
  | cons l ls ih =>
      have hlength : n + 1 + ls.length = n + (l :: ls).length := by
        rw [List.length_cons]
        omega
      rw [List.cons_append, eventsFrom, eventsFrom, ih, hlength]
      cases event? l with
      | error fault => rfl
      | ok o =>
          cases eventsFrom (n + 1) ls with
          | error e => rfl
          | ok es =>
              cases eventsFrom (n + (l :: ls).length) ms with
              | error e => rfl
              | ok fs => exact congrArg Except.ok (List.append_assoc _ es fs).symm

/-- The same result for lines that are `k` lines further on. -/
def later (k : Nat) : Except ScriptError (List ScriptEvent) → Except ScriptError (List ScriptEvent)
  | .error e => .error { e with line := k + e.line }
  | .ok es => .ok (es.map fun e ↦ { e with line := k + e.line })

/-- Starting to count later moves all line numbers, those of faults included. -/
theorem eventsFrom_add (k n : Nat) (ls : List (List Char)) :
    eventsFrom (k + n) ls = later k (eventsFrom n ls) := by
  induction ls generalizing n with
  | nil => rfl
  | cons l ls ih =>
      rw [eventsFrom, eventsFrom, Nat.add_assoc, ih]
      cases event? l with
      | error fault => rfl
      | ok o =>
          cases eventsFrom (n + 1) ls with
          | error e => rfl
          | ok es => cases o <;> rfl

/-! ## Texts -/

def lineFeeds (s : String) : Nat := s.toList.count '\n'

/-- A text that is empty or ends with a line feed. -/
def Closed (s : String) : Prop := s = "" ∨ ∃ t, s = t ++ "\n"

theorem length_lines (s : String) : (lines s).length = lineFeeds s + 1 := by
  rw [lines, lineFeeds]
  induction s.toList with
  | nil => rfl
  | cons c cs ih =>
      rw [List.splitOn_cons_eq_if_modifyHead, List.count_cons]
      cases c == '\n' with
      | true => simp [ih]
      | false => simp [ih]

theorem notMem_of_mem_lines {s : String} {l : List Char} (h : l ∈ lines s) : '\n' ∉ l := by
  rw [lines] at h
  generalize s.toList = cs at h
  induction cs generalizing l with
  | nil =>
      obtain rfl := List.mem_singleton.mp h
      exact List.not_mem_nil
  | cons c cs ih =>
      rw [List.splitOn_cons_eq_if_modifyHead] at h
      split at h
      · rcases List.mem_cons.mp h with rfl | h
        · exact List.not_mem_nil
        · exact ih h
      · rename_i hc
        obtain ⟨k, ks, hks⟩ := List.exists_cons_of_ne_nil (List.splitOn_ne_nil '\n' cs)
        rw [hks] at h ih
        rcases List.mem_cons.mp h with rfl | h
        · have hk : '\n' ∉ k := ih List.mem_cons_self
          rw [List.mem_cons, not_or]
          exact ⟨fun heq ↦ hc (by rw [heq, beq_self_eq_true]), hk⟩
        · exact ih (List.mem_cons_of_mem k h)

/-- The lines of a closed text stand in front of those of what is added to it. -/
theorem Closed.exists_lines {a : String} (h : Closed a) : ∃ ls, ls.length = lineFeeds a ∧
    lines a = ls ++ [[]] ∧ ∀ b, lines (a ++ b) = ls ++ lines b := by
  rcases h with rfl | ⟨t, rfl⟩
  · exact ⟨[], rfl, rfl, fun b ↦ by rw [String.empty_append, List.nil_append]⟩
  · have hlines (b : String) : lines (t ++ "\n" ++ b) = lines t ++ lines b := by
      have hlist : (t ++ "\n" ++ b).toList = t.toList ++ '\n' :: b.toList := by simp
      rw [lines, hlist, List.splitOn_append_cons_self]
      rfl
    have hself := hlines ""
    rw [String.append_empty] at hself
    refine ⟨lines t, ?_, hself, hlines⟩
    have hlength := length_lines (t ++ "\n")
    rw [hself, List.length_append] at hlength
    exact Nat.succ.inj hlength

theorem Closed.read_append {a : String} (h : Closed a) (b : String) : read (a ++ b) =
    (read a).bind fun es ↦ (later (lineFeeds a) (read b)).map fun fs ↦ es ++ fs := by
  obtain ⟨ls, hlength, hself, happend⟩ := h.exists_lines
  have hread : read a = eventsFrom 1 ls := by
    rw [read, hself, eventsFrom_append]
    cases eventsFrom 1 ls with
    | error e => rfl
    | ok es => exact congrArg Except.ok (List.append_nil es)
  rw [hread, read, happend, eventsFrom_append, hlength, Nat.add_comm, eventsFrom_add, read]

/-- The first line that has none of the forms is the one that is reported. -/
theorem read_eq_error_iff {s : String} {e : ScriptError} : read s = .error e ↔
    ∃ before l after, lines s = before ++ l :: after ∧ (∀ l' ∈ before, ∃ o, Tells l' o) ∧
      (∀ o, ¬Tells l o) ∧ e.line = before.length + 1 ∧
      ∃ w r, FirstWord l w r ∧ Blames w r e.fault := by
  rw [read, eventsFrom_eq_error_iff]
  constructor
  · rintro ⟨before, l, after, hlines, hbefore, hl, hline⟩
    obtain ⟨hsilent, hblames⟩ := event?_eq_error_iff.mp hl
    exact ⟨before, l, after, hlines, hbefore, hsilent, hline.trans (Nat.add_comm _ _), hblames⟩
  · rintro ⟨before, l, after, hlines, hbefore, hsilent, hline, hblames⟩
    have hl := event?_eq_error_iff.mpr ⟨hsilent, hblames⟩
    exact ⟨before, l, after, hlines, hbefore, hl, hline.trans (Nat.add_comm _ _)⟩

theorem exists_error_iff {s : String} :
    (∃ e, read s = .error e) ↔ ∃ l ∈ lines s, ∀ o, ¬Tells l o := by
  constructor
  · rintro ⟨e, h⟩
    obtain ⟨before, l, after, hlines, -, hsilent, -⟩ := read_eq_error_iff.mp h
    exact ⟨l, by simp [hlines], hsilent⟩
  · rintro ⟨l, hl, hsilent⟩
    cases h : read s with
    | error e => exact ⟨e, rfl⟩
    | ok es =>
        obtain ⟨os, hos, -⟩ := eventsFrom_eq_ok_iff.mp h
        have hforms : List.Forall₂ (fun l o ↦ (∃ o, Tells l o) ∧ Tells l o) (lines s) os :=
          hos.imp fun l o ho ↦ ⟨⟨o, ho⟩, ho⟩
        obtain ⟨o, ho⟩ := ((List.forall₂_and_left _ _).mp hforms).1 l hl
        exact absurd ho (hsilent o)

/-- A text behind one that ends its last line is read as it is alone, but for the numbers of its
lines, and only if the first text has no fault.  So a text as a whole has a fault if one of its
lines is neither blank nor a comment nor an event, and then it is that of the first such line: its
first word is no id, or nothing is behind it. -/
theorem read_composes :
    (∀ a b, Closed a → read (a ++ b) =
      match read a with
      | .error e => .error e
      | .ok es =>
        match read b with
        | .error e => .error { e with line := lineFeeds a + e.line }
        | .ok fs => .ok (es ++ fs.map fun e ↦ { e with line := lineFeeds a + e.line })) ∧
    (∀ s, (∃ e, read s = .error e) ↔ ∃ l ∈ lines s, ∀ o, ¬Tells l o) ∧
    (∀ s e, read s = .error e ↔
      ∃ before l after, lines s = before ++ l :: after ∧ (∀ l' ∈ before, ∃ o, Tells l' o) ∧
        (∀ o, ¬Tells l o) ∧ e.line = before.length + 1 ∧
        ∃ w r, FirstWord l w r ∧ Blames w r e.fault) ∧
    (∀ w, (ScriptFault.badSource w).message = "invalid event source id '" ++ w ++ "'") ∧
    ScriptFault.noPayload.message = "missing event payload" := by
  refine ⟨fun a b h ↦ ?_, fun s ↦ exists_error_iff, fun s e ↦ read_eq_error_iff, fun w ↦ rfl, rfl⟩
  rw [h.read_append]
  cases read a with
  | error e => rfl
  | ok es => cases read b <;> rfl

def scriptHead : String := "# go\r\n +01\tgo on\n"

/-- The source of the last event is one more than an id can be. -/
def scriptTail : String := "7 a # b\n4294967296 x"

theorem read_composes_head_tail :
    Closed scriptHead ∧ read scriptHead = .ok [⟨2, 1, "go on"⟩] ∧
      read scriptTail = .error ⟨2, .badSource "4294967296"⟩ ∧
      read (scriptHead ++ scriptTail) = .error ⟨4, .badSource "4294967296"⟩ ∧
      ∃ l ∈ lines scriptTail, ∀ o, ¬Tells l o := by
  have hclosed : Closed scriptHead := .inr ⟨"# go\r\n +01\tgo on", by decide⟩
  have hhead : read scriptHead = .ok [⟨2, 1, "go on"⟩] := by decide
  have htail : read scriptTail = .error ⟨2, .badSource "4294967296"⟩ := by decide
  have hfeeds : lineFeeds scriptHead = 2 := by decide
  have hboth := read_composes.1 scriptHead scriptTail hclosed
  rw [hhead, htail, hfeeds] at hboth
  exact ⟨hclosed, hhead, htail, hboth, (read_composes.2.1 scriptTail).mp ⟨_, htail⟩⟩

end EventMachine.Script
