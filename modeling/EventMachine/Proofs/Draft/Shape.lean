import EventMachine.Proofs.Draft.Records
import EventMachine.Proofs.Json.Shape
import EventMachine.Validation

/-!
# Which documents give a draft

The shape of a description's document is closed.  At every depth a record has fields of its own
only, and each field is absent or has a value of its type; what an ignored transition holds is no
exception.  A draft is decoded from exactly the documents of this shape.
-/

namespace EventMachine

open EventMachine.Json

namespace Draft

open EventMachine.Json.Document

def Trigger.keys : List String := ["name", "eventSourceId", "eventPayload"]

structure Trigger.GivenBy (v : Document) (x : Trigger) : Prop where
  form : v.IsRecord keys
  name : GivesField GivesText (v.slot? keys "name") x.name
  source : GivesField GivesInteger64 (v.slot? keys "eventSourceId") x.source
  payload : GivesField GivesText (v.slot? keys "eventPayload") x.payload

def Behavior.keys : List String := ["deviceId", "commandString"]

structure Behavior.GivenBy (v : Document) (x : Behavior) : Prop where
  form : v.IsRecord keys
  device : GivesField GivesInteger64 (v.slot? keys "deviceId") x.device
  command : GivesField GivesText (v.slot? keys "commandString") x.command

def Transition.keys : List String := ["triggerName", "targetState", "effects", "ignore"]

/-- The target and the effects have to be of their types even if the trigger is ignored. -/
structure Transition.GivenBy (v : Document) (x : Transition) : Prop where
  form : v.IsRecord keys
  trigger : GivesField GivesText (v.slot? keys "triggerName") x.trigger
  target : GivesField GivesText (v.slot? keys "targetState") x.target
  effects : GivesField (GivesList Behavior.GivenBy) (v.slot? keys "effects") x.effects
  ignore : GivesField GivesFlag (v.slot? keys "ignore") x.ignore

def State.keys : List String := ["name", "onEntry", "onExit", "transitions"]

structure State.GivenBy (v : Document) (x : State) : Prop where
  form : v.IsRecord keys
  name : GivesField GivesText (v.slot? keys "name") x.name
  onEntry : GivesField (GivesList Behavior.GivenBy) (v.slot? keys "onEntry") x.onEntry
  onExit : GivesField (GivesList Behavior.GivenBy) (v.slot? keys "onExit") x.onExit
  transitions :
    GivesField (GivesList Transition.GivenBy) (v.slot? keys "transitions") x.transitions

def keys : List String := ["initialState", "finalStates", "triggers", "states"]

/-- Of the lists in a document only that of the final states may hold a null. -/
structure GivenBy (v : Document) (x : Draft) : Prop where
  form : v.IsRecord keys
  initialState : GivesField GivesText (v.slot? keys "initialState") x.initialState
  finalStates :
    GivesField (GivesList (GivesOptional GivesText)) (v.slot? keys "finalStates") x.finalStates
  triggers : GivesField (GivesList Trigger.GivenBy) (v.slot? keys "triggers") x.triggers
  states : GivesField (GivesList State.GivenBy) (v.slot? keys "states") x.states

section Field

variable {ρ α : Type} {key : String} {d : Decoder α} {G : Document → α → Prop}
  {write : α → Document} {put : Option α → ρ → ρ} {get : ρ → Option α}

/-- A field takes what its slot gives: null and absence leave it out. -/
theorem field_take_eq_some_iff (hd : d.Reads G) (hnull : (d .null).toOption = none) {y z : ρ}
    (hput : put none y = y) (s : Option Document) :
    (field key d write put get).take y s = some z ↔ ∃ o, GivesField G s o ∧ put o y = z := by
  cases s with
  | none =>
      constructor
      · intro h
        rw [← Option.some.inj h]
        exact ⟨none, .missing, hput⟩
      · rintro ⟨o, ho, rfl⟩
        cases ho
        rw [RecordField.take, hput]
  | some v =>
      have hread := hd.optional hnull v
      simp only [RecordField.take, field, toOption_map, Option.map_eq_some_iff,
        toOption_eq_some_iff, hread]
      constructor
      · rintro ⟨o, ho, hz⟩
        exact ⟨o, .present ho, hz⟩
      · rintro ⟨o, ho, hz⟩
        cases ho with
        | present ho => exact ⟨o, ho, hz⟩

/-- A record is read by reading its first field and then the others. -/
theorem takeAll_field_eq_some_iff (hd : d.Reads G) (hnull : (d .null).toOption = none)
    {slot : RecordField ρ → Option Document} {fs : List (RecordField ρ)} {y z : ρ}
    (hput : put none y = y) :
    Record.takeAll slot (field key d write put get :: fs) (some y) = some z ↔
      ∃ o, GivesField G (slot (field key d write put get)) o ∧
        Record.takeAll slot fs (some (put o y)) = some z := by
  rw [Record.takeAll_cons]
  constructor
  · intro h
    cases htake : (field key d write put get).take y (slot (field key d write put get)) with
    | none =>
        rw [htake, Record.takeAll_none] at h
        cases h
    | some y' =>
        obtain ⟨o, ho, rfl⟩ := (field_take_eq_some_iff hd hnull hput _).mp htake
        rw [htake] at h
        exact ⟨o, ho, h⟩
  · rintro ⟨o, ho, h⟩
    rw [(field_take_eq_some_iff hd hnull hput _).mpr ⟨o, ho, rfl⟩]
    exact h

end Field

theorem Trigger.reads_record : Decoder.Reads Trigger.record.decode GivenBy := by
  intro v x
  rw [Trigger.lawful_record.decode_eq_ok_iff]
  simp only [Trigger.record, Record.takeAll_nil, Option.some.injEq,
    takeAll_field_eq_some_iff Decoder.reads_text rfl,
    takeAll_field_eq_some_iff Decoder.reads_integer64 rfl]
  constructor
  · rintro ⟨hform, name, hname, source, hsource, payload, hpayload, rfl⟩
    exact ⟨hform, hname, hsource, hpayload⟩
  · rintro ⟨hform, hname, hsource, hpayload⟩
    exact ⟨hform, _, hname, _, hsource, _, hpayload, rfl⟩

theorem Behavior.reads_record : Decoder.Reads Behavior.record.decode GivenBy := by
  intro v x
  rw [Behavior.lawful_record.decode_eq_ok_iff]
  simp only [Behavior.record, Record.takeAll_nil, Option.some.injEq,
    takeAll_field_eq_some_iff Decoder.reads_text rfl,
    takeAll_field_eq_some_iff Decoder.reads_integer64 rfl]
  constructor
  · rintro ⟨hform, device, hdevice, command, hcommand, rfl⟩
    exact ⟨hform, hdevice, hcommand⟩
  · rintro ⟨hform, hdevice, hcommand⟩
    exact ⟨hform, _, hdevice, _, hcommand, rfl⟩

theorem Transition.reads_record : Decoder.Reads Transition.record.decode GivenBy := by
  intro v x
  have hbehaviors := Behavior.reads_record.list
  rw [Transition.lawful_record.decode_eq_ok_iff]
  simp only [Transition.record, behaviors, Record.takeAll_nil, Option.some.injEq,
    takeAll_field_eq_some_iff Decoder.reads_text rfl, takeAll_field_eq_some_iff hbehaviors rfl,
    takeAll_field_eq_some_iff Decoder.reads_flag rfl]
  constructor
  · rintro ⟨hform, trigger, htrigger, target, htarget, effects, heffects, ignore, hignore, rfl⟩
    exact ⟨hform, htrigger, htarget, heffects, hignore⟩
  · rintro ⟨hform, htrigger, htarget, heffects, hignore⟩
    exact ⟨hform, _, htrigger, _, htarget, _, heffects, _, hignore, rfl⟩

theorem State.reads_record : Decoder.Reads State.record.decode GivenBy := by
  intro v x
  have hbehaviors := Behavior.reads_record.list
  have htransitions := Transition.reads_record.list
  rw [State.lawful_record.decode_eq_ok_iff]
  simp only [State.record, behaviors, Record.takeAll_nil, Option.some.injEq,
    takeAll_field_eq_some_iff Decoder.reads_text rfl, takeAll_field_eq_some_iff hbehaviors rfl,
    takeAll_field_eq_some_iff htransitions rfl]
  constructor
  · rintro ⟨hform, name, hname, onEntry, honEntry, onExit, honExit, ts, hts, rfl⟩
    exact ⟨hform, hname, honEntry, honExit, hts⟩
  · rintro ⟨hform, hname, honEntry, honExit, hts⟩
    exact ⟨hform, _, hname, _, honEntry, _, honExit, _, hts, rfl⟩

theorem reads_record : Decoder.Reads record.decode GivenBy := by
  intro v x
  have hfinals := (Decoder.reads_text.optional rfl).list
  have htriggers := Trigger.reads_record.list
  have hstates := State.reads_record.list
  rw [lawful_record.decode_eq_ok_iff]
  simp only [record, Record.takeAll_nil, Option.some.injEq,
    takeAll_field_eq_some_iff Decoder.reads_text rfl, takeAll_field_eq_some_iff hfinals rfl,
    takeAll_field_eq_some_iff htriggers rfl, takeAll_field_eq_some_iff hstates rfl]
  constructor
  · rintro ⟨hform, initial, hinitial, finals, hfinals, triggers, htriggers, states, hstates, rfl⟩
    exact ⟨hform, hinitial, hfinals, htriggers, hstates⟩
  · rintro ⟨hform, hinitial, hfinals, htriggers, hstates⟩
    exact ⟨hform, _, hinitial, _, hfinals, _, htriggers, _, hstates, rfl⟩

/-- The shape of a document is closed: a draft is decoded from a document exactly if the document
gives it, and a document that gives no draft is malformed. -/
theorem ofDocument_eq_ok_iff_givenBy (v : Document) :
    (∀ x, ofDocument v = .ok x ↔ x.GivenBy v) ∧
      ((∃ r, ofDocument v = .error r ∧ Description.ofDocument v = .error (.malformed r)) ↔
        ¬ ∃ x : Draft, x.GivenBy v) := by
  have hread : ∀ x, ofDocument v = .ok x ↔ x.GivenBy v := reads_record v
  refine ⟨hread, ?_⟩
  constructor
  · rintro ⟨r, hr, -⟩ ⟨x, hx⟩
    rw [(hread x).mpr hx] at hr
    cases hr
  · intro hnone
    cases hdocument : ofDocument v with
    | ok x => exact absurd ⟨x, (hread x).mp hdocument⟩ hnone
    | error r =>
        refine ⟨r, rfl, ?_⟩
        rw [Description.ofDocument, hdocument]
        rfl

/-- A key that is misspelt in an effect of an ignored transition. -/
example : ofDocument (.object [("states", .list [.object [("transitions", .list [.object [
    ("ignore", .flag true), ("effects", .list [.object [("device", .nat 1)]])]])]])]) =
      .error (.unknownField "device" ["deviceId", "commandString"]) := rfl

/-- Records as lists, one of them with a null for a field and one without its last field. -/
example : ofDocument (.list [.null, .list [.text "off", .null], .list [.list [.text "go", .nat 1]]]) =
    .ok {
      finalStates := some [some "off", none]
      triggers := some [{ name := some "go", source := some 1 }] } := rfl

end Draft

end EventMachine
