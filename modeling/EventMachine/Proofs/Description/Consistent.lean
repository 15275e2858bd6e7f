import EventMachine.Proofs.Draft.WellFormed
import Mathlib.Data.Prod.Basic

/-!
# Consistent descriptions

What validation guarantees of the description it gives: names and events are distinct, and whatever
is referred to is declared.
-/

namespace EventMachine

theorem map_eq_map_of_forall₂ {α β γ : Type} {R : α → β → Prop} {f : α → γ} {g : β → γ}
    {as : List α} {bs : List β} (h : List.Forall₂ R as bs) (hfg : ∀ a b, R a b → f a = g b) :
    as.map f = bs.map g := by
  induction h with
  | nil => rfl
  | cons hab _ ih => rw [List.map_cons, List.map_cons, hfg _ _ hab, ih]

/-- Distinctness carries over to related lists if it is about contents that agree. -/
theorem nodup_map_of_forall₂ {α β γ δ ε : Type} {R : α → β → Prop} {f : α → γ} {g : β → δ}
    {u : γ → ε} {v : δ → ε} {as : List α} {bs : List β} (hu : Function.Injective u)
    (h : List.Forall₂ R as bs) (hR : ∀ a b, R a b → u (f a) = v (g b))
    (hnodup : (as.map f).Nodup) : (bs.map g).Nodup := by
  have himages : (as.map fun a ↦ u (f a)).Nodup := by
    simpa [Function.comp_def] using hnodup.map hu
  rw [map_eq_map_of_forall₂ h hR] at himages
  have hmap : ((bs.map g).map v).Nodup := by simpa [Function.comp_def] using himages
  exact hmap.of_map

theorem exists_mem_of_forall₂ {α β : Type} {R : α → β → Prop} {as : List α} {bs : List β}
    (h : List.Forall₂ R as bs) {b : β} (hb : b ∈ bs) : ∃ a ∈ as, R a b := by
  obtain ⟨i, hi⟩ := List.mem_iff_getElem?.mp hb
  obtain ⟨a, ha, hR⟩ := exists_getElem?_of_forall₂ h hi
  exact ⟨a, List.mem_of_getElem? ha, hR⟩

namespace Description

def triggerNames (d : Description) : List String := d.triggers.map (·.name)

def stateNames (d : Description) : List String := d.states.map (·.name)

structure Consistent (d : Description) : Prop where
  triggerNames : d.triggerNames.Nodup
  events : (d.triggers.map fun t ↦ (t.source, t.payload)).Nodup
  stateNames : d.stateNames.Nodup
  initialState : d.initialState ∈ d.stateNames
  finalStates : ∀ f ∈ d.finalStates, f ∈ d.stateNames
  known : ∀ s ∈ d.states, ∀ t ∈ s.transitions, t.trigger ∈ d.triggerNames
  targets : ∀ s ∈ d.states, ∀ t ∈ s.transitions, ∀ target ∈ t.target?, target ∈ d.stateNames
  rules : ∀ s ∈ d.states, (s.transitions.map (·.trigger)).Nodup

end Description

namespace Draft

variable {x : Draft} {d : Description}

section

variable (h : x.Denotes d)

include h

theorem Denotes.triggerNames_eq : x.triggerNames = d.triggerNames :=
  Draft.triggerNames_eq h.triggers

theorem Denotes.stateNames_eq : x.stateNames = d.stateNames :=
  Draft.stateNames_eq (h.states.imp fun _ _ hs ↦ hs.toHeadDenotes)

theorem Denotes.mem_triggerNames {a : String} (ha : x.DeclaresTrigger (some a)) :
    a ∈ d.triggerNames :=
  h.triggerNames_eq ▸ mem_triggerNames_iff.mpr ha

theorem Denotes.mem_stateNames {a : String} (ha : x.DeclaresState (some a)) : a ∈ d.stateNames :=
  h.stateNames_eq ▸ mem_stateNames_iff.mpr ha

end

/-- A typed transition has a target only where the draft states one and does not ignore. -/
theorem Transition.Denotes.mem_target? {r : Draft.Transition} {t : EventMachine.Transition}
    (h : r.Denotes t) {target : String} (ht : target ∈ t.target?) :
    r.ignore ≠ some true ∧ r.target = some target := by
  cases hi : r.isIgnored with
  | true => simp [EventMachine.Transition.target?, h.ignore hi] at ht
  | false =>
      obtain ⟨target', effects, hreaction, htarget, _⟩ := h.permit hi
      obtain rfl : target' = target := by
        simpa [EventMachine.Transition.target?, hreaction] using ht
      exact ⟨by simpa [Transition.isIgnored] using hi, htarget⟩

theorem State.WellFormed.forall_transitions {r : Draft.State} (hr : r.WellFormed x) :
    (∀ t ∈ r.transitions.getD [], t.WellFormed x) ∧
      ((r.transitions.getD []).map (·.trigger)).Nodup := by
  cases hts : r.transitions with
  | none => simp
  | some ts => exact hr.transitions ts hts

/-- A well-formed draft denotes a consistent description. -/
theorem Denotes.consistent (h : x.Denotes d) (hx : x.WellFormed) : d.Consistent := by
  obtain ⟨ts, hts, _, _, hnames, hevents⟩ := hx.triggers
  obtain ⟨ss, hss, _, hstates, hstateNames⟩ := hx.states
  have htriggers : List.Forall₂ Trigger.Denotes ts d.triggers := by
    simpa [Option.mem_def.mp hts] using h.triggers
  have hdstates : List.Forall₂ State.Denotes ss d.states := by
    simpa [Option.mem_def.mp hss] using h.states
  have htransition {s : EventMachine.State} (hs : s ∈ d.states) {t : EventMachine.Transition}
      (ht : t ∈ s.transitions) : ∃ r : Draft.Transition, r.WellFormed x ∧ r.Denotes t := by
    obtain ⟨r, hr, hrs⟩ := exists_mem_of_forall₂ hdstates hs
    obtain ⟨q, hq, hqt⟩ := exists_mem_of_forall₂ hrs.transitions ht
    exact ⟨q, (hstates r hr).forall_transitions.1 q hq, hqt⟩
  refine ⟨?_, ?_, ?_, ?_, ?_, ?_, ?_, ?_⟩
  · exact nodup_map_of_forall₂ Function.injective_id htriggers (fun _ _ ht ↦ ht.name) hnames
  · refine nodup_map_of_forall₂ (u := Prod.map (Option.map Int64.toInt) id)
      (v := fun e ↦ (some (e.1.toNat : Int), some e.2)) ?_ htriggers (fun r t ht ↦ ?_) hevents
    · have hsource : Function.Injective (Option.map Int64.toInt) :=
        Option.map_injective fun _ _ ↦ Int64.toInt_inj.mp
      exact hsource.prodMap Function.injective_id
    · exact Prod.ext ht.source ht.payload
  · exact nodup_map_of_forall₂ Function.injective_id hdstates (fun _ _ hs ↦ hs.name) hstateNames
  · exact h.mem_stateNames (h.initialState ▸ hx.initialState.2)
  · intro f hf
    have hmem : some f ∈ x.finalStates.getD [] := by
      rw [h.finalStates]
      exact List.mem_map_of_mem hf
    cases hfs : x.finalStates with
    | none => simp [hfs] at hmem
    | some fs =>
        rw [hfs, Option.getD_some] at hmem
        exact h.mem_stateNames (hx.finalStates fs hfs (some f) hmem).2
  · intro s hs t ht
    obtain ⟨r, hr, hrt⟩ := htransition hs ht
    exact h.mem_triggerNames (hrt.trigger ▸ hr.trigger.2)
  · intro s hs t ht target htarget
    obtain ⟨r, hr, hrt⟩ := htransition hs ht
    obtain ⟨hignore, heq⟩ := hrt.mem_target? htarget
    exact h.mem_stateNames (heq ▸ (hr.target hignore).2)
  · intro s hs
    obtain ⟨r, hr, hrs⟩ := exists_mem_of_forall₂ hdstates hs
    exact nodup_map_of_forall₂ Function.injective_id hrs.transitions (fun _ _ ht ↦ ht.trigger)
      (hstates r hr).forall_transitions.2

/-- Validation leaves no dangling name and no repeated one. -/
theorem consistent_of_validate (h : x.validate = .ok d) : d.Consistent :=
  (x.validate_performs.of_ok d h).consistent (wellFormed_of_validate h)

end Draft

theorem Description.validate_of_ofDraft {x : Draft} {d : Description}
    (h : Description.ofDraft x = .ok d) : x.validate = .ok d := by
  rw [ofDraft] at h
  cases hv : x.validate with
  | error v => rw [hv] at h; cases h
  | ok d' =>
      rw [hv] at h
      rw [Except.ok.inj h]

theorem Description.consistent_of_ofDraft {x : Draft} {d : Description}
    (h : Description.ofDraft x = .ok d) : d.Consistent :=
  Draft.consistent_of_validate (validate_of_ofDraft h)

end EventMachine
