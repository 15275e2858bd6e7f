import EventMachine.Description
import Mathlib.Data.List.Forall2

/-!
# What a complete draft denotes

A draft denotes a description with the same texts, the same numbers as ids and the same lists,
entry by entry; an absent list is an empty one, and an ignored transition has no target and no
effects whatever it says about them.
-/

namespace EventMachine

/-- Related lists have related entries at the same places. -/
theorem exists_getElem?_of_forall₂ {α β : Type} {R : α → β → Prop} {as : List α} {bs : List β}
    (h : List.Forall₂ R as bs) {i : Nat} {b : β} (hb : bs[i]? = some b) :
    ∃ a, as[i]? = some a ∧ R a b := by
  induction h generalizing i with
  | nil => simp at hb
  | @cons a b' as bs hab _ ih =>
      cases i with
      | zero =>
          obtain rfl : b' = b := by simpa using hb
          exact ⟨a, by simp, hab⟩
      | succ i =>
          obtain ⟨a', ha', hR⟩ := ih (i := i) (by simpa using hb)
          exact ⟨a', by simpa using ha', hR⟩

theorem filterMap_eq_map_of_forall₂ {α β γ : Type} {f : α → Option γ} {g : β → γ} {as : List α}
    {bs : List β} (h : List.Forall₂ (fun a b ↦ f a = some (g b)) as bs) :
    as.filterMap f = bs.map g := by
  induction h with
  | nil => rfl
  | cons hab _ ih => simp [hab, ih]

namespace Draft

/-- An integer of a draft stands for an id of the same value. -/
def IdOf (n : Option Int64) (a : UInt32) : Prop := n.map Int64.toInt = some (a.toNat : Int)

structure Trigger.Denotes (r : Draft.Trigger) (t : EventMachine.Trigger) : Prop where
  name : r.name = some t.name
  source : IdOf r.source t.source
  payload : r.payload = some t.payload

structure Behavior.Denotes (r : Draft.Behavior) (b : EventMachine.Behavior) : Prop where
  device : IdOf r.device b.device
  command : r.command = some b.command

def BehaviorsDenote (rs : Option (List Draft.Behavior)) (bs : List EventMachine.Behavior) : Prop :=
  List.Forall₂ Behavior.Denotes (rs.getD []) bs

structure Transition.Denotes (r : Draft.Transition) (t : EventMachine.Transition) : Prop where
  trigger : r.trigger = some t.trigger
  ignore : r.isIgnored = true → t.reaction = .ignore
  permit : r.isIgnored = false → ∃ target effects,
    t.reaction = .permit target effects ∧ r.target = some target ∧
      BehaviorsDenote r.effects effects

/-- What the name and the behaviors of a state denote. -/
structure State.HeadDenotes (r : Draft.State) (s : EventMachine.State) : Prop where
  name : r.name = some s.name
  onEntry : BehaviorsDenote r.onEntry s.onEntry
  onExit : BehaviorsDenote r.onExit s.onExit

def State.TransitionsDenote (r : Draft.State) (ts : List EventMachine.Transition) : Prop :=
  List.Forall₂ Transition.Denotes (r.transitions.getD []) ts

structure State.Denotes (r : Draft.State) (s : EventMachine.State) : Prop
    extends State.HeadDenotes r s where
  transitions : State.TransitionsDenote r s.transitions

structure Denotes (x : Draft) (d : Description) : Prop where
  initialState : x.initialState = some d.initialState
  finalStates : x.finalStates.getD [] = d.finalStates.map some
  triggers : List.Forall₂ Trigger.Denotes (x.triggers.getD []) d.triggers
  states : List.Forall₂ State.Denotes (x.states.getD []) d.states
  draft : d.draft = x

/-- Heads and transitions of the same states give the whole states. -/
theorem State.denotes_zipWith {rs : List Draft.State} {ss : List EventMachine.State}
    {tss : List (List EventMachine.Transition)} (hs : List.Forall₂ State.HeadDenotes rs ss)
    (ht : List.Forall₂ State.TransitionsDenote rs tss) :
    List.Forall₂ State.Denotes rs (ss.zipWith (fun s ts ↦ { s with transitions := ts }) tss) := by
  induction hs generalizing tss with
  | nil =>
      cases ht
      exact .nil
  | cons hr _ ih =>
      cases ht with
      | cons hts ht => exact .cons ⟨⟨hr.name, hr.onEntry, hr.onExit⟩, hts⟩ (ih ht)

end Draft

end EventMachine
