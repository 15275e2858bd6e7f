import EventMachine.Proofs.Draft.Records
import EventMachine.Proofs.Json.Canonical
import EventMachine.Proofs.Json.Reading
import EventMachine.Validation

/-!
# Texts and documents describe the same machines

A description is given by a text or by a document.  A text and the document it denotes give the same
draft, or both are malformed, so everything that is computed from the draft is the same: the
description, its checksum, and the first violation.
-/

namespace EventMachine

open EventMachine.Json

variable {t : String} {v : Document}

namespace Draft

theorem toOption_ofText (h : Json.Denotes t v) : (ofText t).toOption = (ofDocument v).toOption := by
  obtain ⟨n, hreading, halike⟩ := h.exists_reading
  have hdecode : ofText t = record.decode n := by
    rw [ofText, hreading, Reading.decode]
    cases record.decode n <;> rfl
  rw [hdecode, ofDocument]
  exact lawful_record.stable_decode n v.node halike

theorem read_eq_ofText (h : Json.Denotes t v) : read t = (ofText t).mapError .malformed := by
  rw [read, h.blank_eq_false]
  rfl

/-- Text and tree are both decoded, to the same draft, or both refused. -/
theorem read_cases (h : Json.Denotes t v) :
    (∃ x, read t = .ok x ∧ ofDocument v = .ok x) ∨
      ∃ r r', read t = .error (.malformed r) ∧ ofDocument v = .error r' := by
  have hsame := toOption_ofText h
  rw [read_eq_ofText h]
  cases hdocument : ofDocument v with
  | ok x =>
      rw [hdocument] at hsame
      exact Or.inl ⟨x, by rw [toOption_eq_some_iff.mp hsame]; rfl, rfl⟩
  | error r' =>
      rw [hdocument] at hsame
      cases htext : ofText t with
      | ok x =>
          -- the document would have been accepted as well
          rw [htext] at hsame
          cases hsame
      | error r => exact Or.inr ⟨r, r', rfl, rfl⟩

end Draft

namespace Description

theorem ofText_of_read {x : Draft} (h : Draft.read t = .ok x) : ofText t = ofDraft x := by
  rw [ofText, h]
  rfl

theorem ofDocument_of_ofDocument {x : Draft} (h : Draft.ofDocument v = .ok x) :
    ofDocument v = ofDraft x := by
  rw [ofDocument, h]
  rfl

/-- The two ways to give a description agree, however the text is formatted: they give the same
draft, or both find the input malformed.  So they accept the same input as the same description,
whose draft the checksum is computed over, or else they report the same violation. -/
theorem ofText_agrees (h : Json.Denotes t v) :
    ((∃ x, Draft.read t = .ok x ∧ Draft.ofDocument v = .ok x) ∨
      ∃ r r', Draft.read t = .error (.malformed r) ∧ Draft.ofDocument v = .error r') ∧
    (∀ d, ofText t = .ok d ↔ ofDocument v = .ok d) ∧
    (∀ w, ofText t = .error (.violation w) ↔ ofDocument v = .error (.violation w)) ∧
    ((∃ r, ofText t = .error (.malformed r)) ↔ ∃ r, ofDocument v = .error (.malformed r)) ∧
    ofText t ≠ .error .blank := by
  refine ⟨Draft.read_cases h, ?_⟩
  rcases Draft.read_cases h with ⟨x, htext, hdocument⟩ | ⟨r, r', htext, hdocument⟩
  · have hblank : ofDraft x ≠ .error .blank := by
      rw [ofDraft]
      cases x.validate <;> nofun
    rw [ofText_of_read htext, ofDocument_of_ofDocument hdocument]
    exact ⟨fun _ ↦ .rfl, fun _ ↦ .rfl, .rfl, hblank⟩
  · have hofText : ofText t = .error (.malformed r) := by
      rw [ofText, htext]
      rfl
    have hofDocument : ofDocument v = .error (.malformed r') := by
      rw [ofDocument, hdocument]
      rfl
    rw [hofText, hofDocument]
    refine ⟨?_, ?_, ⟨fun _ ↦ ⟨r', rfl⟩, fun _ ↦ ⟨r, rfl⟩⟩, nofun⟩
    · intro d
      constructor <;> nofun
    · intro w
      constructor <;> nofun

/-- White space around tokens, the members in another order, and an escaped letter in a key. -/
def scrambledText : String := "\x7b \"\\u0073tates\" : [ ] ,\n\"initialState\":\"off\"\x7d"

def scrambledDocument : Document := .object [("initialState", .text "off"), ("states", .list [])]

theorem denotes_scrambled : Denotes scrambledText scrambledDocument := by
  have hspace : Gap [' '] := by simp [Gap]
  have hline : Gap ['\n'] := by simp [Gap]
  have hcode : CodeUnit 0x73 ['0', '0', '7', '3'] :=
    .mk (Or.inl rfl) (Or.inl rfl) (Or.inl rfl) (Or.inl rfl)
  have hletter : SpellsChar 's' ['\\', 'u', '0', '0', '7', '3'] := .unit (by decide) hcode
  have hstates : SpellsText "states" _ := .mk (.cons hletter (spellsChars_escapeChar "tates".toList))
  have hinitial := spellsText_quote "initialState"
  have hoff := spellsText_quote "off"
  have hmembers : SpellsMembers [("states", .list []), ("initialState", .text "off")] _ :=
    .more hspace hstates hspace hspace (.emptyList hspace) hspace
      (.last hline hinitial gap_nil gap_nil (.text hoff) gap_nil)
  have hobject : Spells scrambledDocument _ := .object hmembers (by decide) (.swap _ _ _)
  exact .mk rfl gap_nil hobject gap_nil

theorem ofText_scrambled_agrees :
    Denotes scrambledText scrambledDocument ∧
      Draft.read scrambledText = .ok { initialState := some "off", states := some [] } ∧
      ofText scrambledText =
        .error (.violation { position := .triggers, expectation := .notNull }) := by
  have hagree := ofText_agrees denotes_scrambled
  refine ⟨denotes_scrambled, ?_, (hagree.2.2.1 _).mpr rfl⟩
  rcases hagree.1 with ⟨x, htext, hdocument⟩ | ⟨r, r', -, hdocument⟩
  · obtain rfl : _ = x := Except.ok.inj hdocument
    exact htext
  · cases hdocument

end Description

end EventMachine
