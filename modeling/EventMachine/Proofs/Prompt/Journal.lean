import EventMachine.Proofs.Prompt.Turns
import EventMachine.Proofs.Session.Story

/-!
# The journal at the prompt

The journal is a queue: orders to inject or to fire enter at its end, and the order to show it takes
all that is in it.  No other order reads it, so what stands before the entries of a session can be
put aside until the end; an entry is then shown once, or left.
-/

namespace EventMachine

namespace Session

/-- The same session with entries in front of its journal. -/
def prepend (past : List JournalEntry) (x : Session) : Session :=
  { x with journal := past ++ x.journal }

variable (past : List JournalEntry) (x : Session)

theorem prepend_append (past' : List JournalEntry) :
    x.prepend (past ++ past') = (x.prepend past').prepend past := by
  simp only [prepend, List.append_assoc]

theorem prepend_drain : x.drain.2.prepend x.journal = x := by
  simp only [drain, prepend, List.append_nil]

/-- An earlier journal stays in front of whatever a step adds. -/
theorem after_prepend (s : Step) : (x.prepend past).after s = (x.after s).prepend past := by
  simp only [after, prepend, List.append_assoc]

theorem journal_prefix_after (s : Step) : x.journal <+: (x.after s).journal :=
  List.prefix_append _ _

end Session

namespace Prompt

/-! ## Single lines -/

section

variable {colors : Bool} {x y : Session} {rest : List Char} {o : Order} {s : String}

theorem machine_of_obey {r : Reply} (h : obey colors x rest o = some r)
    (ho : o ∉ [.inject, .fire, .reset]) : r.session.machine = x.machine := by
  cases o with
  | help | state | journal =>
      cases h
      rfl
  | quit => cases h
  | inject | fire | reset => exact absurd (by decide) ho

/-- An order to inject or to fire runs a step, unless it is not understood. -/
theorem session_of_obey {r : Reply} (h : obey colors x rest o = some r)
    (ho : o ∈ [.inject, .fire]) : r.session = x ∨ ∃ s : Step, r.session = x.after s := by
  cases o with
  | help | quit | state | reset | journal => exact absurd ho (by decide)
  | inject | fire =>
      rw [obey] at h
      split at h
      · cases h
        exact .inl rfl
      · cases h
        exact .inr ⟨_, rfl⟩

/-- Entries are added by orders to inject or fire, and are taken all at once. -/
theorem journal_of_obey {r : Reply} (h : obey colors x rest o = some r) :
    r.session.journal = x.journal ∨
      o ∈ [.inject, .fire] ∧ x.journal <+: r.session.journal ∨
        o = .journal ∧ r.session.journal = [] := by
  cases o with
  | help | state | reset =>
      cases h
      exact .inl rfl
  | quit => cases h
  | journal =>
      cases h
      exact .inr (.inr ⟨rfl, rfl⟩)
  | inject | fire =>
      rcases session_of_obey h (by decide) with hsame | ⟨s, hran⟩
      · exact .inl (congrArg Session.journal hsame)
      · rw [hran]
        exact .inr (.inl ⟨by decide, x.journal_prefix_after s⟩)

/-- Only the order to show the journal depends on what is in it. -/
theorem obey_prepend (past : List JournalEntry) (ho : o ≠ .journal) :
    (obey colors (x.prepend past) rest o).map Reply.session =
      (obey colors x rest o).map fun r ↦ r.session.prepend past := by
  cases o with
  | help | quit | state | reset => rfl
  | journal => exact absurd rfl ho
  | inject | fire =>
      rw [obey, obey]
      split
      · rfl
      · exact congrArg some (x.after_prepend past _)

/-- A line that is not understood leaves the session as it is, and so does one that only asks. -/
theorem next_of_idle (h : order? s ∈ [none, some .help, some .state] ∨
    order? s = some .inject ∧ event? (argument s) = none ∨
      order? s = some .fire ∧ argument s = []) :
    (turn colors x (.line s)).next = some x := by
  rw [next_turn]
  rcases h with h | ⟨horder, hevent⟩ | ⟨horder, hnil⟩
  · simp only [List.mem_cons, List.not_mem_nil, or_false] at h
    rcases h with h | h | h <;> rw [h] <;> rfl
  · simp only [horder, obey, hevent]
    rfl
  · simp only [horder, obey, hnil]
    rfl

/-- A line changes the machine or the journal only by an order made for that. -/
theorem changes_of_next (h : (turn colors x (.line s)).next = some y) :
    (y.machine ≠ x.machine → order? s ∈ [some .inject, some .fire, some .reset]) ∧
      (y.journal ≠ x.journal →
        order? s ∈ [some .inject, some .fire] ∧ x.journal <+: y.journal ∨
          order? s = some .journal ∧ y.journal = []) := by
  rw [next_turn] at h
  cases horder : order? s with
  | none =>
      rw [horder] at h
      cases h
      exact ⟨fun hne ↦ absurd rfl hne, fun hne ↦ absurd rfl hne⟩
  | some o =>
      rw [horder] at h
      obtain ⟨r, hobey, rfl⟩ := Option.map_eq_some_iff.mp h
      refine ⟨fun hne ↦ ?_, fun hne ↦ ?_⟩
      · by_contra ho
        exact hne (machine_of_obey hobey (by simpa using ho))
      · rcases journal_of_obey hobey with hsame | ⟨ho, hadded⟩ | ⟨rfl, htaken⟩
        · exact absurd hsame hne
        · exact .inl ⟨by simpa using ho, hadded⟩
        · exact .inr ⟨rfl, htaken⟩

theorem turn_quit (h : order? s = some .quit) :
    turn colors x (.line s) = { printed := [], next := none } := turn_of_order colors x h

theorem turn_journal (h : order? s = some .journal) : turn colors x (.line s) =
    { printed := [journalText colors x.journal ++ "\n"], next := some x.drain.2 } :=
  turn_of_order colors x h

variable (colors x)

theorem quits_or_next (s : String) :
    order? s = some .quit ∧ (turn colors x (.line s)).next = none ∨
      ∃ y, order? s ≠ some .quit ∧ (turn colors x (.line s)).next = some y := by
  by_cases hquit : order? s = some .quit
  · exact .inl ⟨hquit, by rw [turn_quit hquit]⟩
  · suffices hnext : ∃ y, (turn colors x (.line s)).next = some y from
      .inr (hnext.imp fun _ h ↦ ⟨hquit, h⟩)
    rw [next_turn]
    cases horder : order? s with
    | none => exact ⟨x, rfl⟩
    | some o =>
        cases o with
        | quit => exact absurd horder hquit
        | help | state | reset | journal => exact ⟨_, rfl⟩
        | inject | fire =>
            simp only [obey]
            split <;> exact ⟨_, rfl⟩

theorem next_prepend (past : List JournalEntry) (h : order? s ≠ some .journal) :
    (turn colors (x.prepend past) (.line s)).next =
      (turn colors x (.line s)).next.map (Session.prepend past) := by
  rw [next_turn, next_turn]
  cases horder : order? s with
  | none => rfl
  | some o =>
      have ho : o ≠ .journal := by
        rintro rfl
        exact h horder
      simp only [obey_prepend past ho, Option.map_map]
      rfl

end

/-! ## Many lines -/

variable (colors : Bool) (x : Session)

theorem after_prepend (past : List JournalEntry) {ls : List String}
    (h : ∀ l ∈ ls, order? l ≠ some .journal) :
    after colors (x.prepend past) (ls.map .line) =
      (after colors x (ls.map .line)).prepend past := by
  induction ls generalizing x with
  | nil => rfl
  | cons l ls ih =>
      rw [List.forall_mem_cons] at h
      have hnext := next_prepend colors x past h.1
      rw [List.map_cons]
      cases hl : (turn colors x (.line l)).next with
      | none =>
          rw [hl] at hnext
          rw [after_cons_of_end hl, after_cons_of_end hnext]
      | some y =>
          rw [hl] at hnext
          rw [after_cons_of_next hl, after_cons_of_next hnext, ih y h.2]

def asks (l : String) : Bool := order? l = some .journal

theorem asks_of_quit {l : String} (h : order? l = some .quit) : asks l = false := by
  rw [asks, h]
  rfl

/-- What the lines that ask for the journal print. -/
def shown (ls : List String) : List (List String) :=
  ((ls.zip (run colors x (ls.map .line)).1).filter fun p ↦ asks p.1).map (·.2)

/-- What those lines take from the journal. -/
def drained (colors : Bool) (x : Session) : List String → List (List JournalEntry)
  | [] => []
  | l :: ls =>
    (if asks l then [x.drain.1] else []) ++
      match (turn colors x (.line l)).next with
      | none => []
      | some y => drained colors y ls

section

variable {colors x} {y : Session} {l : String}

theorem shown_cons_of_next (h : (turn colors x (.line l)).next = some y) (ls : List String) :
    shown colors x (l :: ls) =
      (if asks l then [(turn colors x (.line l)).printed] else []) ++ shown colors y ls := by
  rw [shown, List.map_cons, run_cons_of_next h, List.zip_cons_cons, List.filter_cons]
  split <;> rfl

theorem drained_cons_of_next (h : (turn colors x (.line l)).next = some y) (ls : List String) :
    drained colors x (l :: ls) =
      (if asks l then [x.journal] else []) ++ drained colors y ls := by
  rw [drained]
  simp only [h]
  rfl

variable (colors x)

/-- The line that ends the loop does not ask for the journal. -/
theorem shown_cons_of_quit (h : order? l = some .quit) (ls : List String) :
    shown colors x (l :: ls) = [] ∧ drained colors x (l :: ls) = [] := by
  have hend : (turn colors x (.line l)).next = none := by rw [turn_quit h]
  constructor
  · rw [shown, List.map_cons, run_cons_of_end hend, List.zip_cons_cons, List.zip_nil_right,
      List.filter_cons, asks_of_quit h]
    rfl
  · rw [drained, asks_of_quit h]
    simp only [hend]
    rfl

end

/-- What is shown is the text of what is drained, block by block. -/
theorem shown_eq_map_drained (ls : List String) : shown colors x ls =
    (drained colors x ls).map fun es ↦ [journalText colors es ++ "\n"] := by
  induction ls generalizing x with
  | nil => rfl
  | cons l ls ih =>
      rcases quits_or_next colors x l with ⟨hquit, -⟩ | ⟨y, -, hnext⟩
      · obtain ⟨hshown, hdrained⟩ := shown_cons_of_quit colors x hquit ls
        rw [hshown, hdrained]
        rfl
      · rw [shown_cons_of_next hnext, drained_cons_of_next hnext, List.map_append, ih]
        by_cases hl : order? l = some .journal
        · rw [turn_journal hl, asks, decide_eq_true hl]
          rfl
        · rw [asks, decide_eq_false hl]
          rfl

/-- What is taken from the journal, and what is left in it, is what has been entered. -/
theorem after_filter (ls : List String) :
    after colors x ((ls.filter (!asks ·)).map .line) =
      (after colors x (ls.map .line)).prepend (drained colors x ls).flatten := by
  induction ls generalizing x with
  | nil => rfl
  | cons l ls ih =>
      rcases quits_or_next colors x l with ⟨hquit, hend⟩ | ⟨y, -, hnext⟩
      · have hasks : asks l = false := asks_of_quit hquit
        rw [(shown_cons_of_quit colors x hquit ls).2, List.filter_cons_of_pos (by simp [hasks]),
          List.map_cons, List.map_cons, after_cons_of_end hend, after_cons_of_end hend]
        rfl
      · rw [List.map_cons, after_cons_of_next hnext, drained_cons_of_next hnext]
        by_cases hl : order? l = some .journal
        · have hasks : asks l = true := decide_eq_true hl
          obtain rfl : x.drain.2 = y := by
            rw [turn_journal hl] at hnext
            exact Option.some.inj hnext
          -- what this line takes could as well have stayed, as no line that is kept looks at it
          have hkept : ∀ l ∈ ls.filter (!asks ·), order? l ≠ some .journal := by
            intro l hl
            simpa [asks] using (List.mem_filter.mp hl).2
          rw [List.filter_cons_of_neg (by simp [hasks]), if_pos hasks, List.flatten_append,
            List.flatten_singleton, Session.prepend_append, ← ih, ← after_prepend _ _ _ hkept,
            Session.prepend_drain]
        · have hasks : asks l = false := decide_eq_false hl
          rw [List.filter_cons_of_pos (by simp [hasks]), List.map_cons, after_cons_of_next hnext,
            ih, hasks]
          rfl

/-- The lines up to the first one that quits. -/
def heeded (ls : List String) : List String := ls.takeWhile (order? · ≠ some .quit)

/-- Lines after quitting are never read. -/
theorem run_heeded (ls : List String) :
    after colors x (ls.map .line) = after colors x ((heeded ls).map .line) ∧
      (run colors x (ls.map .line)).1.flatten =
        (run colors x ((heeded ls).map .line)).1.flatten ∧
      (run colors x (ls.map .line)).2 = (run colors x ((heeded ls).map .line)).2 ∧
      (run colors x ((heeded ls).map .line)).1.length = (heeded ls).length := by
  induction ls generalizing x with
  | nil => exact ⟨rfl, rfl, rfl, rfl⟩
  | cons l ls ih =>
      rcases quits_or_next colors x l with ⟨hquit, hend⟩ | ⟨y, hon, hnext⟩
      · rw [heeded, List.takeWhile_cons_of_neg (by simp [hquit]), List.map_cons,
          after_cons_of_end hend, run_cons_of_end hend, turn_quit hquit]
        exact ⟨rfl, rfl, rfl, rfl⟩
      · obtain ⟨hafter, hprinted, hnotices, hlength⟩ := ih y
        rw [heeded, List.takeWhile_cons_of_pos (by simp [hon]), ← heeded]
        simp only [List.map_cons, after_cons_of_next hnext, run_cons_of_next hnext,
          List.flatten_cons, List.length_cons, hafter, hprinted, hnotices, hlength]
        exact ⟨trivial, trivial, trivial, trivial⟩

/-- The lines up to the first one that quits are answered, and the others have no effect.  The
machine is only changed by orders to inject, fire or reset, and the journal only grows by the first
two; all that enters it is shown once, in order, or left in it. -/
theorem run_conserves_journal (ls : List String) :
    (after colors x (ls.map .line) = after colors x ((heeded ls).map .line) ∧
        (run colors x (ls.map .line)).1.flatten =
          (run colors x ((heeded ls).map .line)).1.flatten ∧
        (run colors x (ls.map .line)).2 = (run colors x ((heeded ls).map .line)).2 ∧
        (run colors x ((heeded ls).map .line)).1.length = (heeded ls).length) ∧
      (∀ y z l, (turn colors y (.line l)).next = some z →
        (z.machine ≠ y.machine → order? l ∈ [some .inject, some .fire, some .reset]) ∧
          (z.journal ≠ y.journal →
            order? l ∈ [some .inject, some .fire] ∧ y.journal <+: z.journal ∨
              order? l = some .journal ∧ z.journal = [])) ∧
      (∀ y l, order? l ∈ [none, some .help, some .state] ∨
          order? l = some .inject ∧ event? (argument l) = none ∨
            order? l = some .fire ∧ argument l = [] →
        (turn colors y (.line l)).next = some y) ∧
      shown colors x ls =
        (drained colors x ls).map (fun es ↦ [journalText colors es ++ "\n"]) ∧
      after colors x ((ls.filter (!asks ·)).map .line) =
        (after colors x (ls.map .line)).prepend (drained colors x ls).flatten := by
  refine ⟨run_heeded colors x ls, ?_, ?_, shown_eq_map_drained colors x ls,
    after_filter colors x ls⟩
  · exact fun y z l h ↦ changes_of_next h
  · exact fun y l h ↦ next_of_idle h

def lampLines : List String :=
  ["i 1 press", " Journal", "inject 1", "j", "fire switch", "state", "J", "f switch", "reset", "",
    "QUIT", "fire switch"]

theorem run_conserves_journal_lamp :
    let x := Session.lampSession
    let y := (x.step 1 "press").2.1
    (turn false x (.line "i 1 press")).next = some y ∧ y.machine ≠ x.machine ∧
      order? "i 1 press" ∈ [some .inject, some .fire, some .reset] ∧
      (order? "inject 1" = some .inject ∧ event? (argument "inject 1") = none) ∧
      (turn false y (.line "inject 1")).next = some y ∧
      heeded lampLines = lampLines.take 10 ∧
      shown false x lampLines =
        [["[7] lamp: light\n"], ["No entries\n"], ["[7] lamp: darken\n"]] ∧
      (after false x (lampLines.map .line)).journal = [⟨7, "lamp: light"⟩] ∧
      (after false x ((lampLines.filter (!asks ·)).map .line)).journal =
        [⟨7, "lamp: light"⟩, ⟨7, "lamp: darken"⟩, ⟨7, "lamp: light"⟩] := by
  intro x y
  obtain ⟨-, hchanges, hidle, hshown, hjournal⟩ := run_conserves_journal false x lampLines
  have horder : order? "i 1 press" = some .inject := by decide
  have hevent : event? (argument "i 1 press") = some (1, "press") := by decide
  have hnext : (turn false x (.line "i 1 press")).next = some y := by
    simp only [next_turn, horder, obey, hevent]
    rfl
  have hcurrent : y.machine.current ≠ x.machine.current := by decide
  have hmoved : y.machine ≠ x.machine := fun h ↦ hcurrent (congrArg Machine.current h)
  have hmisread : order? "inject 1" = some .inject ∧ event? (argument "inject 1") = none := by
    decide
  refine ⟨hnext, hmoved, (hchanges x y "i 1 press" hnext).1 hmoved, hmisread,
    hidle y "inject 1" (.inr (.inl hmisread)), by decide, ?_, by decide, ?_⟩
  · rw [hshown]
    decide
  · rw [hjournal]
    decide

end Prompt

end EventMachine
