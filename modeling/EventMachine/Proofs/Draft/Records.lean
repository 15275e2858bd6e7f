import EventMachine.Draft
import EventMachine.Proofs.Json.Inverse

/-!
# The records of a draft

The fields of every record of a draft can be read in any order, and a record that is written is read
back.  All fields are alike in this: a field reads its value, if there is one, and sets it.
-/

namespace EventMachine.Draft

open EventMachine.Json

section Field

variable {ρ α β : Type} {key key' : String} {d : Decoder α} {d' : Decoder β}
  {write : α → Document} {write' : β → Document} {put : Option α → ρ → ρ}
  {put' : Option β → ρ → ρ} {get : ρ → Option α} {get' : ρ → Option β}

theorem field_stable (hd : d.Stable) : (field key d write put get).Stable := by
  intro x n n' h
  simp only [field, toOption_map, hd.optional n n' h]

theorem field_commute (h : ∀ a b x, put' b (put a x) = put a (put' b x)) :
    (field key d write put get).Commute (field key' d' write' put' get') := by
  intro n m x
  simp only [field, toOption_map]
  cases (Decoder.optional d n).toOption with
  | none => cases (Decoder.optional d' m).toOption <;> rfl
  | some a =>
      cases (Decoder.optional d' m).toOption with
      | none => rfl
      | some b => exact congrArg some (h a b x)

/-- Writing a field and putting it into a blank record copies it, absent fields included. -/
theorem field_copy (hd : d.Inverts write) (hnull : (d .null).toOption = none) (x : ρ) {y : ρ}
    (hput : put none y = y) : (field key d write put get).copy x y = some (put (get x) y) := by
  rw [RecordField.copy]
  cases hget : get x with
  | none => simp [field, hget, hput]
  | some a => simp [field, hget, hd.optional hnull a, Except.map, Except.toOption]

end Field

/-! ## Fields in any order -/

theorem Trigger.lawful_record : Trigger.record.Lawful where
  keys := by decide
  stable := by
    simp [Trigger.record, field_stable Decoder.stable_text, field_stable Decoder.stable_integer64]
  commute := by simp [Trigger.record, field_commute]

theorem Behavior.lawful_record : Behavior.record.Lawful where
  keys := by decide
  stable := by
    simp [Behavior.record, field_stable Decoder.stable_text, field_stable Decoder.stable_integer64]
  commute := by simp [Behavior.record, field_commute]

theorem Transition.lawful_record : Transition.record.Lawful where
  keys := by decide
  stable := by
    have hbehaviors := Behavior.lawful_record.stable_decode.list
    simp [Transition.record, behaviors, field_stable Decoder.stable_text,
      field_stable hbehaviors, field_stable Decoder.stable_flag]
  commute := by simp [Transition.record, behaviors, field_commute]

theorem State.lawful_record : State.record.Lawful where
  keys := by decide
  stable := by
    have hbehaviors := Behavior.lawful_record.stable_decode.list
    have htransitions := Transition.lawful_record.stable_decode.list
    simp [State.record, behaviors, field_stable Decoder.stable_text, field_stable hbehaviors,
      field_stable htransitions]
  commute := by simp [State.record, behaviors, field_commute]

theorem lawful_record : record.Lawful where
  keys := by decide
  stable := by
    have hfinals := Decoder.stable_text.optional.list
    have htriggers := Trigger.lawful_record.stable_decode.list
    have hstates := State.lawful_record.stable_decode.list
    simp [record, field_stable Decoder.stable_text, field_stable hfinals, field_stable htriggers,
      field_stable hstates]
  commute := by simp [record, field_commute]

/-! ## Reading what has been written -/

theorem inverts_integerDocument : Decoder.integer64.Inverts integerDocument :=
  Decoder.inverts_integer64

theorem inverts_listDocument {α : Type} {d : Decoder α} {write : α → Document}
    (hd : d.Inverts write) : (Decoder.list d).Inverts (listDocument write) := hd.list

/-- A null among the final states stays a null. -/
theorem inverts_finalDocument : (Decoder.optional Decoder.text).Inverts finalDocument := by
  intro s
  cases s <;> rfl

theorem Trigger.inverts_record : Decoder.Inverts Trigger.record.decode Trigger.record.encode := by
  refine Trigger.lawful_record.inverts_decode fun x ↦ ?_
  simp [Trigger.record, field_copy Decoder.inverts_text rfl,
    field_copy inverts_integerDocument rfl]

theorem Behavior.inverts_record :
    Decoder.Inverts Behavior.record.decode Behavior.record.encode := by
  refine Behavior.lawful_record.inverts_decode fun x ↦ ?_
  simp [Behavior.record, field_copy Decoder.inverts_text rfl,
    field_copy inverts_integerDocument rfl]

theorem Transition.inverts_record :
    Decoder.Inverts Transition.record.decode Transition.record.encode := by
  have hbehaviors := inverts_listDocument Behavior.inverts_record
  refine Transition.lawful_record.inverts_decode fun x ↦ ?_
  simp [Transition.record, behaviors, field_copy Decoder.inverts_text rfl,
    field_copy hbehaviors rfl, field_copy Decoder.inverts_flag rfl]

theorem State.inverts_record : Decoder.Inverts State.record.decode State.record.encode := by
  have hbehaviors := inverts_listDocument Behavior.inverts_record
  have htransitions := inverts_listDocument Transition.inverts_record
  refine State.lawful_record.inverts_decode fun x ↦ ?_
  simp [State.record, behaviors, field_copy Decoder.inverts_text rfl, field_copy hbehaviors rfl,
    field_copy htransitions rfl]

theorem inverts_record : Decoder.Inverts record.decode record.encode := by
  have hfinals := inverts_listDocument inverts_finalDocument
  have htriggers := inverts_listDocument Trigger.inverts_record
  have hstates := inverts_listDocument State.inverts_record
  refine lawful_record.inverts_decode fun x ↦ ?_
  simp [record, field_copy Decoder.inverts_text rfl, field_copy hfinals rfl,
    field_copy htriggers rfl, field_copy hstates rfl]

end EventMachine.Draft
