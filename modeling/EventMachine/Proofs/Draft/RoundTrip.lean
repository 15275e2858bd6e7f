import EventMachine.Proofs.Description.Consistent
import EventMachine.Proofs.Draft.FrontEnds
import EventMachine.Proofs.Json.Canonical

/-!
# Drafts are read back from what they are written as

Every draft has a regular document, so its canonical text denotes this document.  Decoding the
document gives the draft back, and so does reading the text.
-/

namespace EventMachine

open EventMachine.Json

/-! ## Documents of drafts -/

def Json.RecordField.Regular {ρ : Type} (f : RecordField ρ) : Prop :=
  ∀ x, ∀ d ∈ f.get x, d.Regular

theorem Json.Record.Lawful.regular_encode {ρ : Type} {r : Record ρ} (hr : r.Lawful)
    (hfields : ∀ f ∈ r.fields, f.Regular) (x : ρ) : (r.encode x).Regular := by
  refine .object (hr.keys_encode x) ?_
  intro m hm
  obtain ⟨f, hf, hget⟩ := List.mem_filterMap.mp hm
  obtain ⟨d, hd, rfl⟩ := Option.map_eq_some_iff.mp hget
  exact hfields f hf x d hd

namespace Draft

theorem field_regular {ρ α : Type} {key : String} {d : Decoder α} {write : α → Document}
    {put : Option α → ρ → ρ} {get : ρ → Option α} (h : ∀ a, (write a).Regular) :
    (field key d write put get).Regular := by
  intro x d hd
  obtain ⟨a, -, rfl⟩ := Option.map_eq_some_iff.mp hd
  exact h a

theorem regular_integerDocument (i : Int64) : (integerDocument i).Regular := by
  have hupper : i.toInt < 2 ^ 63 := i.toInt_lt
  refine .integer i.minValue_le_toInt ?_
  rw [UInt64.size]
  omega

theorem regular_finalDocument (s : Option String) : (finalDocument s).Regular := by
  cases s with
  | none => exact .null
  | some s => exact .text s

theorem regular_listDocument {α : Type} {write : α → Document} (h : ∀ a, (write a).Regular)
    (as : List α) : (listDocument write as).Regular := by
  refine .list ?_
  intro d hd
  obtain ⟨a, -, rfl⟩ := List.mem_map.mp hd
  exact h a

theorem Trigger.regular_encode (x : Trigger) : (Trigger.record.encode x).Regular := by
  refine Trigger.lawful_record.regular_encode ?_ x
  simp [Trigger.record, field_regular Document.Regular.text,
    field_regular regular_integerDocument]

theorem Behavior.regular_encode (x : Behavior) : (Behavior.record.encode x).Regular := by
  refine Behavior.lawful_record.regular_encode ?_ x
  simp [Behavior.record, field_regular Document.Regular.text,
    field_regular regular_integerDocument]

theorem Transition.regular_encode (x : Transition) : (Transition.record.encode x).Regular := by
  have hbehaviors := regular_listDocument Behavior.regular_encode
  refine Transition.lawful_record.regular_encode ?_ x
  simp [Transition.record, behaviors, field_regular Document.Regular.text,
    field_regular hbehaviors, field_regular Document.Regular.flag]

theorem State.regular_encode (x : State) : (State.record.encode x).Regular := by
  have hbehaviors := regular_listDocument Behavior.regular_encode
  have htransitions := regular_listDocument Transition.regular_encode
  refine State.lawful_record.regular_encode ?_ x
  simp [State.record, behaviors, field_regular Document.Regular.text, field_regular hbehaviors,
    field_regular htransitions]

theorem regular_document (x : Draft) : x.document.Regular := by
  have hfinals := regular_listDocument regular_finalDocument
  have htriggers := regular_listDocument Trigger.regular_encode
  have hstates := regular_listDocument State.regular_encode
  refine lawful_record.regular_encode ?_ x
  simp [record, field_regular Document.Regular.text, field_regular hfinals,
    field_regular htriggers, field_regular hstates]

/-! ## Reading back -/

theorem ofDocument_document (x : Draft) : ofDocument x.document = .ok x := inverts_record x

theorem denotes_text (x : Draft) : Json.Denotes x.text x.document :=
  (regular_document x).denotes_compact

theorem read_text (x : Draft) : read x.text = .ok x := by
  have hsame := toOption_ofText x.denotes_text
  rw [ofDocument_document] at hsame
  rw [read_eq_ofText x.denotes_text, toOption_eq_some_iff.mp hsame]
  rfl

theorem text_injective : Function.Injective text := by
  intro x y h
  have hread := x.read_text
  rw [h, y.read_text] at hread
  exact (Except.ok.inj hread).symm

def renew (t : String) : Except DescriptionError String := (read t).map text

theorem renew_text (x : Draft) : renew x.text = .ok x.text := by
  rw [renew, read_text]
  rfl

/-- A text that has been renewed once stays as it is. -/
theorem renew_idempotent (t : String) : (renew t).bind renew = renew t := by
  cases hread : read t with
  | error e => simp [renew, hread, Except.map, Except.bind]
  | ok x =>
      have ht : renew t = .ok x.text := by
        rw [renew, hread]
        rfl
      rw [ht]
      exact x.renew_text

end Draft

namespace Description

theorem draft_of_ofDraft {x : Draft} {d : Description} (h : ofDraft x = .ok d) : d.draft = x :=
  (x.validate_performs.of_ok d (validate_of_ofDraft h)).draft

/-- Every draft is read back from its canonical text and decoded from its document.  So different
drafts have different texts, and an absent list, an empty one and one of a null stay apart; writing
again what has been read changes nothing any more; and the canonical text of an accepted description
is accepted again, as the same description with the same checksum. -/
theorem canonical_round_trip (x : Draft) :
    Draft.read x.text = .ok x ∧ Draft.ofDocument x.document = .ok x ∧
      (∀ y : Draft, x.text = y.text ↔ x = y) ∧
      (∀ t, (Draft.renew t).bind Draft.renew = Draft.renew t) ∧
      ∀ d, ofDraft x = .ok d →
        ofText d.draft.text = .ok d ∧ ofDocument d.draft.document = .ok d ∧
          (ofText d.draft.text).map checksum = .ok d.checksum := by
  have hread := x.read_text
  have hdocument := x.ofDocument_document
  refine ⟨hread, hdocument, fun _ ↦ Draft.text_injective.eq_iff, Draft.renew_idempotent, ?_⟩
  intro d hd
  have htext : ofText d.draft.text = .ok d := by
    rw [draft_of_ofDraft hd, ofText_of_read hread, hd]
  refine ⟨htext, ?_, ?_⟩
  · rw [draft_of_ofDraft hd, ofDocument_of_ofDocument hdocument, hd]
  · rw [htext]
    rfl

/-- A draft whose texts have to be escaped, and whose numbers are extreme. -/
def beacon : Draft where
  initialState := some "\"dark\"\n"
  finalStates := some []
  triggers := some [{ name := some "\x01\\", source := some 4294967295, payload := some "é" }]
  states := some [{ name := some "\"dark\"\n" }]

def beaconDescription : Description where
  initialState := "\"dark\"\n"
  finalStates := []
  triggers := [⟨"\x01\\", 4294967295, "é"⟩]
  states := [⟨"\"dark\"\n", [], [], []⟩]
  draft := beacon

theorem canonical_round_trip_beacon :
    ofDraft beacon = .ok beaconDescription ∧ Draft.read beacon.text = .ok beacon ∧
      beacon.text ≠ { beacon with finalStates := none }.text ∧
      beacon.text ≠ { beacon with finalStates := some [none] }.text ∧
      ofText beacon.text = .ok beaconDescription := by
  have hd : ofDraft beacon = .ok beaconDescription := rfl
  obtain ⟨hread, -, hinjective, -, hagain⟩ := canonical_round_trip beacon
  refine ⟨hd, hread, ?_, ?_, (hagain _ hd).1⟩
  · rw [ne_eq, hinjective]
    decide
  · rw [ne_eq, hinjective]
    decide

end Description

end EventMachine
