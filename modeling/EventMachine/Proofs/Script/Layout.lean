import EventMachine.Proofs.Script.Reading

/-!
# Scripts as they are written

A script is written line by line, each line in one of the forms and with a line end that the last
one may lack.  Reading it gives back the events of these lines.  Whatever is read, the events come
in the order of their lines, and each could have been written by itself.
-/

namespace EventMachine.Script

open EventMachine.Text

/-! ## Writing -/

/-- A line as it is written, and what it tells. -/
structure Line where
  chars : List Char
  event : Option (UInt32 × String)
  tells : Tells chars event
  notMem : '\n' ∉ chars

inductive LineEnd
  | lf
  | crlf
  deriving DecidableEq, Repr

def LineEnd.lead : LineEnd → List Char
  | lf => []
  | crlf => ['\r']

def LineEnd.chars (e : LineEnd) : List Char := e.lead ++ ['\n']

/-- Lines with their ends, and possibly a last line without one. -/
structure Layout where
  ended : List (Line × LineEnd)
  last : Option Line

namespace Layout

def text (x : Layout) : String :=
  String.ofList ((x.ended.flatMap fun p ↦ p.1.chars ++ p.2.chars) ++
    (x.last.map Line.chars).getD [])

def events (x : Layout) : List ScriptEvent :=
  numbered 1 ((x.ended.map (·.1) ++ x.last.toList).map Line.event)

end Layout

structure IsPayload (s : String) : Prop where
  ne_nil : s.toList ≠ []
  trim_eq : trim s.toList = s.toList
  notMem : '\n' ∉ s.toList

/-! ## Reading what has been written -/

theorem Tells.append_of_blanks {l bs : List Char} {o : Option (UInt32 × String)} (h : Tells l o)
    (hbs : Blanks bs) : Tells (l ++ bs) o := by
  cases h with
  | blank hl => exact .blank (List.forall_mem_append.mpr ⟨hl, hbs⟩)
  | comment hl cs =>
      rw [List.append_assoc]
      exact .comment hl (cs ++ bs)
  | event hl hds hgap hgap_ne hpayload htrim hbs' =>
      simp only [List.append_assoc]
      exact .event hl hds hgap hgap_ne hpayload htrim (List.forall_mem_append.mpr ⟨hbs', hbs⟩)

theorem LineEnd.blanks_lead (e : LineEnd) : Blanks e.lead := by
  cases e <;> simp [Blanks, lead, isBlank]

theorem LineEnd.notMem_lead (e : LineEnd) : '\n' ∉ e.lead := by
  cases e <;> simp [lead]

theorem numbered_append_none (n : Nat) (os : List (Option (UInt32 × String))) :
    numbered n (os ++ [none]) = numbered n os := by
  simp [numbered, List.zipIdx_append]

/-- The carriage return of a line end counts to the line in front of it. -/
theorem splitOn_written (ended : List (Line × LineEnd)) {tail : List Char} (htail : '\n' ∉ tail) :
    ((ended.flatMap fun p ↦ p.1.chars ++ p.2.chars) ++ tail).splitOn '\n' =
      (ended.map fun p ↦ p.1.chars ++ p.2.lead) ++ [tail] := by
  induction ended with
  | nil => exact List.splitOn_eq_singleton htail
  | cons p ended ih =>
      have hline : '\n' ∉ p.1.chars ++ p.2.lead := by
        rw [List.mem_append, not_or]
        exact ⟨p.1.notMem, p.2.notMem_lead⟩
      rw [List.flatMap_cons, LineEnd.chars, ← List.append_assoc p.1.chars, List.append_assoc,
        List.append_assoc, List.singleton_append, List.splitOn_append_cons_self_of_not_mem hline, ih]
      rfl

/-- Whatever blanks, comments and line ends stand around them, the events are read back in
order. -/
theorem Layout.read_text (x : Layout) : read x.text = .ok x.events := by
  have hended : List.Forall₂ Tells (x.ended.map fun p ↦ p.1.chars ++ p.2.lead)
      (x.ended.map fun p ↦ p.1.event) := by
    rw [List.forall₂_map_left_iff, List.forall₂_map_right_iff, List.forall₂_same]
    exact fun p _ ↦ p.1.tells.append_of_blanks p.2.blanks_lead
  cases hlast : x.last with
  | none =>
      have hevents : x.events = numbered 1 ((x.ended.map fun p ↦ p.1.event) ++ [none]) := by
        rw [numbered_append_none, events, hlast, Option.toList_none, List.append_nil, List.map_map]
        rfl
      rw [hevents, read, lines, text, hlast, String.toList_ofList, Option.map_none, Option.getD_none,
        splitOn_written x.ended List.not_mem_nil, eventsFrom_eq_ok_iff]
      have hblank : Tells [] none := .blank (List.forall_mem_nil _)
      exact ⟨_, List.rel_append hended (.cons hblank .nil), rfl⟩
  | some l =>
      have hevents : x.events = numbered 1 ((x.ended.map fun p ↦ p.1.event) ++ [l.event]) := by
        rw [events, hlast, Option.toList_some, List.map_append, List.map_map]
        rfl
      rw [hevents, read, lines, text, hlast, String.toList_ofList, Option.map_some, Option.getD_some,
        splitOn_written x.ended l.notMem, eventsFrom_eq_ok_iff]
      exact ⟨_, List.rel_append hended (.cons l.tells .nil), rfl⟩

/-! ## What is read -/

theorem Tells.mem_of_mem_payload {l : List Char} {e : UInt32 × String} (h : Tells l (some e))
    {c : Char} (hc : c ∈ e.2.toList) : c ∈ l := by
  cases h with
  | event => simp [hc]

theorem Closed.after_ne_nil {s : String} (hs : Closed s) {before after : List (List Char)}
    {l : List Char} (hlines : lines s = before ++ l :: after) (hl : l ≠ []) : after ≠ [] := by
  rintro rfl
  obtain ⟨ls, -, hself, -⟩ := hs.exists_lines
  rw [hlines] at hself
  exact hl (List.cons.inj (List.append_inj_right' hself rfl)).1

/-- The place of an event in a script. -/
theorem line_of_mem_read {s : String} {es : List ScriptEvent} (h : read s = .ok es)
    {e : ScriptEvent} (he : e ∈ es) : IsPayload e.payload ∧ 0 < e.line ∧
      e.line ≤ lineFeeds s + 1 ∧ (Closed s → e.line ≤ lineFeeds s) := by
  obtain ⟨before, l, after, hlines, hl, hline⟩ := exists_line_of_mem_eventsFrom h he
  obtain ⟨htrim, hne⟩ := trim_payload hl
  have htells := event?_eq_ok_iff.mp hl
  have hmem : l ∈ lines s := by simp [hlines]
  have hfeed : '\n' ∉ e.payload.toList := fun hc ↦
    notMem_of_mem_lines hmem (htells.mem_of_mem_payload hc)
  have hlength := length_lines s
  rw [hlines, List.length_append, List.length_cons] at hlength
  refine ⟨⟨hne, htrim, hfeed⟩, by omega, by omega, fun hs ↦ ?_⟩
  have hl_ne : l ≠ [] := by
    rintro rfl
    cases hl
  have hafter := List.length_pos_iff.mpr (hs.after_ne_nil hlines hl_ne)
  omega

/-- A payload is read back from the one line that spells it. -/
theorem IsPayload.read_spell {p : String} (h : IsPayload p) (a : UInt32) :
    read (spell a p) = .ok [⟨1, a, p⟩] := by
  have hdigits : '\n' ∉ (decimal a.toNat).toList := fun hc ↦
    absurd (isDigit_of_mem_decimal hc) (by decide)
  have hfeed : '\n' ∉ (spell a p).toList := by simp [spell, hdigits, h.notMem]
  rw [read_of_notMem hfeed, event?_spell a h.trim_eq h.ne_nil]

/-- What has been written line by line is read as the events of its lines.  Whatever is read has
payloads that are not empty, trimmed and on one line, under ascending numbers of lines of the text;
and every event with such a payload is read from some script. -/
theorem read_inverts_writing :
    (∀ x : Layout, read x.text = .ok x.events) ∧
    (∀ s es, read s = .ok es →
      (∀ e ∈ es, IsPayload e.payload ∧ 0 < e.line ∧ e.line ≤ lineFeeds s + 1 ∧
        (Closed s → e.line ≤ lineFeeds s)) ∧
      es.Pairwise fun e f ↦ e.line < f.line) ∧
    ∀ a p, (∃ s es e, read s = .ok es ∧ e ∈ es ∧ e.source = a ∧ e.payload = p) ↔ IsPayload p := by
  refine ⟨Layout.read_text, fun s es h ↦ ⟨fun e he ↦ line_of_mem_read h he, ?_⟩, fun a p ↦ ?_⟩
  · obtain ⟨os, -, rfl⟩ := eventsFrom_eq_ok_iff.mp h
    exact numbered_ascending 1 os
  · constructor
    · rintro ⟨s, es, e, h, he, -, rfl⟩
      exact (line_of_mem_read h he).1
    · intro hp
      exact ⟨spell a p, [⟨1, a, p⟩], ⟨1, a, p⟩, hp.read_spell a, List.mem_cons_self, rfl, rfl⟩

/-- White space of several kinds around a comment and an event; the last line has no end. -/
def sampleLayout : Layout where
  ended := [
    (⟨['\u00a0'] ++ '#' :: [' ', '1', ' ', 'x'], none, .comment (by decide) _, by decide⟩, .crlf),
    (⟨['\t'], none, .blank (by decide), by decide⟩, .lf)]
  last := some ⟨[' '] ++ (['+', '0', '7'] ++ (['\u2028'] ++ ("go #\u0085on".toList ++ ['\r']))),
    some (7, "go #\u0085on"),
    .event (by decide) ⟨['0', '7'], .inr rfl, by simp, by simp, rfl⟩ (by decide) (by decide)
      (by decide) (by decide) (by decide), by decide⟩

theorem read_inverts_writing_sample :
    sampleLayout.text = "\u00a0# 1 x\r\n\t\n +07\u2028go #\u0085on\r" ∧
      read sampleLayout.text = .ok [⟨3, 7, "go #\u0085on"⟩] ∧ IsPayload "go #\u0085on" ∧
      3 ≤ lineFeeds sampleLayout.text + 1 ∧
      ∃ s es e, read s = .ok es ∧ e ∈ es ∧ e.source = 8 ∧ e.payload = "go #\u0085on" := by
  have hread : read sampleLayout.text = .ok [⟨3, 7, "go #\u0085on"⟩] :=
    read_inverts_writing.1 sampleLayout
  obtain ⟨hpayload, -, hline, -⟩ := (read_inverts_writing.2.1 _ _ hread).1 _ List.mem_cons_self
  exact ⟨by decide, hread, hpayload, hline, (read_inverts_writing.2.2 8 _).mpr hpayload⟩

end EventMachine.Script
