import EventMachine.Proofs.Compilation.Assembly
import EventMachine.Proofs.Draft.RoundTrip
import EventMachine.Proofs.Text.Words
import EventMachine.Summary

/-!
# What a replay prints

The text of a replay is the lines of its reports and of its journal with line feeds between them.
White space is dropped at the end of the whole text, which is more than the last line end: a state
or a command at the end of the last line loses the white space it ends in.
-/

namespace EventMachine

open EventMachine.Text

/-! ## Dropping white space behind lines -/

namespace Text

def chomp (s : String) : String := String.ofList (trimEnd s.toList)

/-- The lines with nothing changed but the end of the last one. -/
def chompLast : List String → List String
  | [] => []
  | [l] => [chomp l]
  | l :: m :: ls => l :: chompLast (m :: ls)

def EndsVisibly (s : String) : Prop := ∀ c ∈ s.toList.getLast?, isBlank c = false

theorem chomp_eq_self_iff {s : String} : chomp s = s ↔ EndsVisibly s := by
  rw [chomp, EndsVisibly, ← trimEnd_eq_self_iff, ← String.toList_inj, String.toList_ofList]

theorem chomp_append_of_blank (s : String) {t : String} (ht : blank t = true) :
    chomp (s ++ t) = chomp s := by
  have hblank : ∀ b ∈ t.toList, isBlank b = true := List.all_eq_true.mp ht
  rw [chomp, String.toList_append, trimEnd_append_of_blank _ hblank]
  rfl

/-- Chomping stays within the last part that has something visible. -/
theorem chomp_append (s : String) {t : String} (ht : blank t = false) :
    chomp (s ++ t) = s ++ chomp t := by
  have hne : ¬ (trimEnd t.toList).isEmpty := by
    rw [List.isEmpty_iff, trimEnd_eq_nil_iff]
    exact Bool.not_eq_true _ ▸ ht
  rw [chomp, String.toList_append, trimEnd_append, if_neg hne, String.ofList_append,
    String.ofList_toList]
  rfl

theorem blank_append (s t : String) : blank (s ++ t) = (blank s && blank t) := by
  rw [blank, String.toList_append, List.all_append]
  rfl

theorem blank_join_eq_false {l : String} {ls : List String} (hmem : l ∈ ls)
    (hl : blank l = false) : blank (String.join (ls.map (· ++ "\n"))) = false := by
  induction ls with
  | nil => cases hmem
  | cons m ls ih =>
      rw [List.map_cons, String.join_cons, blank_append, blank_append]
      rcases List.mem_cons.mp hmem with rfl | hmem
      · simp [hl]
      · simp [ih hmem]

theorem chompLast_ne_nil (l : String) (ls : List String) : chompLast (l :: ls) ≠ [] := by
  cases ls <;> simp [chompLast]

/-- Behind a line that is not blank, dropping white space never gets as far as the line before. -/
theorem chomp_join {ls : List String} (h : ∀ l ∈ ls.getLast?, blank l = false) :
    chomp (String.join (ls.map (· ++ "\n"))) = "\n".intercalate (chompLast ls) := by
  induction ls with
  | nil => rfl
  | cons l ls ih =>
      rw [List.map_cons, String.join_cons]
      cases ls with
      | nil =>
          rw [chompLast, String.intercalate_singleton]
          simpa using chomp_append_of_blank l (t := "\n") (by decide)
      | cons m ls =>
          rw [List.getLast?_cons_cons] at h
          obtain ⟨last, hlast⟩ : ∃ last, (m :: ls).getLast? = some last :=
            ⟨_, List.getLast?_eq_some_getLast (List.cons_ne_nil m ls)⟩
          have hrest := blank_join_eq_false (List.mem_of_getLast? hlast) (h last hlast)
          rw [chomp_append _ hrest, ih h, chompLast,
            String.intercalate_cons_of_ne_nil (chompLast_ne_nil m ls)]

/-- The text is printed unchanged exactly when its last line ends visibly. -/
theorem intercalate_chompLast_eq_iff {ls : List String} :
    "\n".intercalate (chompLast ls) = "\n".intercalate ls ↔ ∀ l ∈ ls.getLast?, EndsVisibly l := by
  induction ls with
  | nil => simp [chompLast]
  | cons l ls ih =>
      cases ls with
      | nil => simp [chompLast, chomp_eq_self_iff]
      | cons m ls =>
          rw [chompLast, String.intercalate_cons_of_ne_nil (chompLast_ne_nil m ls),
            String.intercalate_cons_of_ne_nil (List.cons_ne_nil m ls), String.append_right_inj,
            ih, List.getLast?_cons_cons]

end Text

/-! ## The lines of a replay -/

theorem Report.blank_line_eq_false (colors : Bool) (r : Report) :
    blank (r.line colors) = false := by
  have hcolon : blank ":" = false := by decide
  simp [line, blank_append, hcolon]

theorem JournalEntry.blank_line_eq_false (colors : Bool) (e : JournalEntry) :
    blank (e.line colors) = false := by
  have hbracket : blank "[" = false := by decide
  simp [line, blank_append, hbracket]

theorem blank_of_getLast?_replayLines {colors : Bool} {rs : List Report}
    {journal : List JournalEntry} {l : String}
    (hl : l ∈ (replayLines colors rs journal).getLast?) : blank l = false := by
  rw [replayLines] at hl
  split at hl
  · rw [List.append_nil] at hl
    obtain ⟨r, -, rfl⟩ := List.mem_map.mp (List.mem_of_getLast? hl)
    exact r.blank_line_eq_false colors
  · rename_i hjournal
    -- the two lines in front of the entries are not the last ones
    rw [← List.append_assoc, List.getLast?_append_of_ne_nil _ (by simpa using hjournal)] at hl
    obtain ⟨e, -, rfl⟩ := List.mem_map.mp (List.mem_of_getLast? hl)
    rw [blank_append, e.blank_line_eq_false colors, Bool.and_false]

theorem replayText_eq (colors : Bool) (rs : List Report) (journal : List JournalEntry) :
    replayText colors rs journal = "\n".intercalate (chompLast (replayLines colors rs journal)) :=
  chomp_join fun _ ↦ blank_of_getLast?_replayLines

theorem JournalEntry.indented_line (e : JournalEntry) :
    "  " ++ e.line false = "  [" ++ decimal e.device.toNat ++ "] " ++ e.command := by
  have hbracket : "  [" = "  " ++ "[" := by decide
  rw [line, paint_false, hbracket, String.append_assoc, String.append_assoc, String.append_assoc,
    String.append_assoc, String.append_assoc]

theorem replayLines_plain (rs : List Report) (journal : List JournalEntry) :
    replayLines false rs journal = rs.map (Report.line false) ++
      (if journal = [] then [] else
        "" :: "Journal:" :: journal.map fun e ↦
          "  [" ++ decimal e.device.toNat ++ "] " ++ e.command) := by
  rw [replayLines, paint_false]
  simp only [JournalEntry.indented_line]
  rfl

/-! ## The text of a replay -/

variable (setup : Setup) (machinePath scriptPath : String) (machine script : FileText)

theorem replayFiles_eq_ok_iff {colors asJson : Bool} {t : String} :
    (replayFiles colors asJson setup machinePath machine scriptPath script).1 = .ok t ↔
      ∃ events x, Script.ofFile scriptPath script = .ok events ∧
        (Session.ofFile setup machinePath machine).1 = .ok x ∧
        t = if asJson then Report.jsonLines (x.replay events).1
          else replayText colors (x.replay events).1 (x.replay events).2.1.journal := by
  rw [replayFiles]
  cases Script.ofFile scriptPath script with
  | error e => simp
  | ok events =>
      rcases Session.ofFile setup machinePath machine with ⟨e | x, notices⟩
      · simp
      · simp [eq_comm]

/-- A replay that succeeds prints the lines of all reports, and of all entries of the journal if
there are any.  Only the last line may differ: it is complete if it does not end in white space. -/
theorem replayFiles_printed_iff {t : String} :
    (replayFiles false false setup machinePath machine scriptPath script).1 = .ok t ↔
      ∃ events x, Script.ofFile scriptPath script = .ok events ∧
        (Session.ofFile setup machinePath machine).1 = .ok x ∧
        let rs := (x.replay events).1
        let journal := (x.replay events).2.1.journal
        let ls := rs.map (Report.line false) ++
          (if journal = [] then [] else
            "" :: "Journal:" :: journal.map fun e ↦
              "  [" ++ decimal e.device.toNat ++ "] " ++ e.command)
        t = "\n".intercalate (chompLast ls) ∧
          (t = "\n".intercalate ls ↔ ∀ l ∈ ls.getLast?, EndsVisibly l) := by
  rw [replayFiles_eq_ok_iff]
  apply exists₂_congr
  intro events x
  rw [replayText_eq, replayLines_plain, if_neg Bool.false_ne_true]
  refine and_congr_right fun _ ↦ and_congr_right fun _ ↦ ⟨?_, And.left⟩
  rintro rfl
  exact ⟨rfl, intercalate_chompLast_eq_iff⟩

/-- The name of the second state ends in a space. -/
def Draft.spaced : Draft where
  initialState := some "A"
  triggers := some [{ name := some "go", source := some 1, payload := some "go" }]
  states := some [
    { name := some "A", transitions := some [{ trigger := some "go", target := some "B " }] },
    { name := some "B " }]

def Description.spaced : Description where
  initialState := "A"
  finalStates := []
  triggers := [⟨"go", 1, "go"⟩]
  states := [⟨"A", [], [], [⟨"go", .permit "B " []⟩]⟩, ⟨"B ", [], [], []⟩]
  draft := .spaced

def Session.spaced : Session where
  machine := .start Description.spaced.assemble
  devices := []
  stopOnFinal := false

theorem Session.ofFile_spaced :
    (Session.ofFile {} "machine.json" (.ok Draft.spaced.text)).1 = .ok .spaced := by
  have hread : Description.ofText Draft.spaced.text = .ok .spaced := by
    rw [Description.ofText, Draft.read_text]
    rfl
  rw [ofFile, ofText, hread]
  rfl

/-- The report of the one event ends in the name of a state and so in a space, which is missing at
the end of what is printed. -/
theorem replayFiles_spaced :
    let machine : FileText := .ok Draft.spaced.text
    let script : FileText := .ok "1 go\n"
    ∃ events x, Script.ofFile "events.txt" script = .ok events ∧
      (Session.ofFile {} "machine.json" machine).1 = .ok x ∧
      (x.replay events).1.map (Report.line false) = ["1:go go A → B  => B "] ∧
      (x.replay events).2.1.journal = [] ∧
      (replayFiles false false {} "machine.json" machine "events.txt" script).1 =
        .ok "1:go go A → B  => B" := by
  intro machine script
  have hscript : Script.ofFile "events.txt" script = .ok [⟨1, 1, "go"⟩] := by rfl
  refine ⟨_, _, hscript, Session.ofFile_spaced, by decide, by decide, ?_⟩
  rw [replayFiles_eq_ok_iff]
  exact ⟨_, _, hscript, Session.ofFile_spaced, by decide⟩

end EventMachine
