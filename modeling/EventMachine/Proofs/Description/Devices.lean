import EventMachine.Proofs.Compilation.Calls

/-!
# Required devices

A description requires the devices of its behaviors, and beside them those that its draft names in
the effects of ignored transitions.  In the draft there is no difference between the two: the
required devices are the ids in range that stand there as device ids at any place.
-/

namespace EventMachine

/-- What is listed on one side of related lists is listed on the other side or left over. -/
theorem mem_flatMap_of_forall₂ {α β γ : Type} {R : α → β → Prop} (f : α → List γ)
    (g : β → List γ) (rest : α → List γ) {c : γ}
    (hR : ∀ a b, R a b → (c ∈ f a ↔ c ∈ g b ∨ c ∈ rest a)) {as : List α} {bs : List β}
    (h : List.Forall₂ R as bs) :
    c ∈ as.flatMap f ↔ c ∈ bs.flatMap g ∨ c ∈ as.flatMap rest := by
  induction h with
  | nil => simp
  | cons hab _ ih =>
      simp only [List.flatMap_cons, List.mem_append, hR _ _ hab, ih]
      exact or_or_or_comm

/-- A signed number is a device id exactly when it is positive and equal to that id as an
integer; neither a negative nor an overlarge one wraps around. -/
theorem deviceId?_eq_some_iff {i : Int64} {a : UInt32} :
    deviceId? i = some a ↔ 1 ≤ i.toInt ∧ (a.toNat : Int) = i.toInt := by
  have hsize : a.toNat < UInt32.size := a.toNat_lt
  rw [deviceId?]
  constructor
  · intro h
    split at h
    · rename_i hrange
      obtain rfl := Option.some.inj h
      rw [UInt32.toNat_ofNat_of_lt' hrange.2]
      omega
    · cases h
  · rintro ⟨hpos, heq⟩
    have hnat : i.toInt.toNat = a.toNat := by omega
    rw [if_pos ⟨by omega, by omega⟩, hnat, UInt32.ofNat_toNat]

namespace Draft

/-- The ids in range that are given as devices of behaviors. -/
def devicesOf (bs : List Behavior) : List UInt32 := bs.filterMap fun b ↦ b.device.bind deviceId?

def State.allBehaviors (s : State) : List Behavior :=
  s.onEntry.getD [] ++ s.onExit.getD [] ++
    (s.transitions.getD []).flatMap fun t ↦ t.effects.getD []

def allBehaviors (x : Draft) : List Behavior := (x.states.getD []).flatMap State.allBehaviors

theorem devicesOf_append (bs cs : List Behavior) :
    devicesOf (bs ++ cs) = devicesOf bs ++ devicesOf cs := List.filterMap_append

theorem devicesOf_flatMap {α : Type} (f : α → List Behavior) (as : List α) :
    devicesOf (as.flatMap f) = as.flatMap fun a ↦ devicesOf (f a) := List.filterMap_flatMap

/-- An integer beyond the ids of 32 bits gives none, and every other one the id of its value. -/
theorem exists_mem_devicesOf_iff {bs : List Behavior} {n : Int} :
    (∃ a ∈ devicesOf bs, (a.toNat : Int) = n) ↔
      (1 ≤ n ∧ n ≤ 4294967295) ∧ ∃ b ∈ bs, b.device.map Int64.toInt = some n := by
  simp only [devicesOf, List.mem_filterMap, Option.bind_eq_some_iff, Option.map_eq_some_iff,
    deviceId?_eq_some_iff]
  constructor
  · rintro ⟨a, ⟨b, hb, i, hi, hpos, heq⟩, rfl⟩
    have hlt : a.toNat < 4294967296 := a.toNat_lt
    exact ⟨⟨by omega, by omega⟩, b, hb, i, hi, heq.symm⟩
  · rintro ⟨⟨hpos, hle⟩, b, hb, i, hi, rfl⟩
    have hvalue : (UInt32.ofNat i.toInt.toNat).toNat = i.toInt.toNat :=
      UInt32.toNat_ofNat_of_lt' (by rw [UInt32.size]; omega)
    exact ⟨.ofNat i.toInt.toNat, ⟨b, hb, i, hi, hpos, by omega⟩, by omega⟩

/-! ## Drafts and their descriptions -/

variable {x : Draft} {d : Description}

theorem Behavior.Denotes.deviceId? {r : Behavior} {b : EventMachine.Behavior} (h : r.Denotes b)
    (hr : r.WellFormed) : r.device.bind EventMachine.deviceId? = some b.device := by
  obtain ⟨i, hi, hpos, -⟩ := hr.device
  have hvalue : some i.toInt = some (b.device.toNat : Int) := by
    rw [← h.device, Option.mem_def.mp hi, Option.map_some]
  rw [Option.mem_def.mp hi, Option.bind_some, deviceId?_eq_some_iff]
  exact ⟨hpos, (Option.some.inj hvalue).symm⟩

theorem BehaviorsDenote.devicesOf_eq {rs : Option (List Behavior)}
    {bs : List EventMachine.Behavior} (h : BehaviorsDenote rs bs)
    (hrs : ∀ cs ∈ rs, ∀ b ∈ cs, b.WellFormed) :
    devicesOf (rs.getD []) = bs.map (·.device) := by
  have hwell : ∀ b ∈ rs.getD [], b.WellFormed := by
    cases rs with
    | none => simp
    | some cs => exact hrs cs rfl
  refine filterMap_eq_map_of_forall₂ ?_
  exact ((List.forall₂_and_left _ _).mpr ⟨hwell, h⟩).imp fun r b hrb ↦ hrb.2.deviceId? hrb.1

/-- Either a transition is ignored and all its effects are idle, or none of them is. -/
theorem Transition.Denotes.devicesOf_eq {r : Transition} {t : EventMachine.Transition}
    (h : r.Denotes t) (hr : r.WellFormed x) :
    devicesOf (r.effects.getD []) = t.effects.map (·.device) ++ r.idleDevices := by
  cases hi : r.isIgnored with
  | true =>
      rw [EventMachine.Transition.effects, h.ignore hi, idleDevices, hi]
      rfl
  | false =>
      obtain ⟨target, effects, hreaction, -, heffects⟩ := h.permit hi
      have hn : r.ignore ≠ some true := by simpa [Transition.isIgnored] using hi
      rw [heffects.devicesOf_eq (hr.effects hn), EventMachine.Transition.effects, hreaction,
        idleDevices, hi]
      simp

/-- The devices written under a state are those of its typed behaviors, and those that stand
only under transitions it ignores. -/
theorem State.Denotes.mem_devicesOf_iff {r : State} {s : EventMachine.State} (h : r.Denotes s)
    (hr : r.WellFormed x) {a : UInt32} : a ∈ devicesOf r.allBehaviors ↔
      a ∈ s.behaviors.map (·.device) ∨
        a ∈ (r.transitions.getD []).flatMap Transition.idleDevices := by
  have heffects := mem_flatMap_of_forall₂ (c := a)
    (fun t : Transition ↦ devicesOf (t.effects.getD []))
    (fun t : EventMachine.Transition ↦ t.effects.map (·.device)) Transition.idleDevices
    (fun r t (hrt : r.WellFormed x ∧ r.Denotes t) ↦ by
      rw [hrt.2.devicesOf_eq hrt.1, List.mem_append])
    ((List.forall₂_and_left _ _).mpr ⟨hr.forall_transitions.1, h.transitions⟩)
  rw [allBehaviors, devicesOf_append, devicesOf_append, devicesOf_flatMap,
    h.onEntry.devicesOf_eq hr.onEntry, h.onExit.devicesOf_eq hr.onExit,
    EventMachine.State.behaviors, List.map_append, List.map_append, List.map_flatMap,
    List.mem_append, heffects, List.mem_append (s := _ ++ _), or_assoc]

/-- The required devices are the ids that one scan of the draft finds in its behaviors. -/
theorem Denotes.mem_requiredDevices_iff (h : x.Denotes d) (hx : x.WellFormed) {a : UInt32} :
    a ∈ d.requiredDevices ↔ a ∈ devicesOf x.allBehaviors := by
  obtain ⟨ss, hss, -, hstates, -⟩ := hx.states
  have hwell : ∀ s ∈ x.states.getD [], s.WellFormed x := by
    rw [Option.mem_def.mp hss]
    exact hstates
  have hmem := mem_flatMap_of_forall₂ (c := a)
    (fun s : State ↦ devicesOf s.allBehaviors)
    (fun s : EventMachine.State ↦ s.behaviors.map (·.device))
    (fun s : State ↦ (s.transitions.getD []).flatMap Transition.idleDevices)
    (fun r s (hrs : r.WellFormed x ∧ r.Denotes s) ↦ hrs.2.mem_devicesOf_iff hrs.1)
    ((List.forall₂_and_left _ _).mpr ⟨hwell, h.states⟩)
  rw [allBehaviors, devicesOf_flatMap, hmem, Description.requiredDevices,
    IdList.mem_ascending, List.mem_append, Description.behaviors, List.map_flatMap, h.draft,
    idleDevices]

end Draft

namespace Description

variable {d : Description}

/-- Only behaviors of the description are handed to device compilers. -/
theorem exists_behavior_of_mem_calls (hd : d.Consistent) {compilers : Compilers} {c : Call}
    (h : c ∈ (d.compile compilers).calls) : ∃ b ∈ d.behaviors, c = b.call := by
  cases hfind : d.requiredDevices.find? fun i ↦ (compilers i).isNone with
  | some i =>
      rw [compile_of_missing hfind] at h
      cases h
  | none =>
      have hpresent := find?_missing_eq_none_iff.mp hfind
      rcases exists_first_rejected (forall_commands_present hpresent) [] with
        hall | ⟨before, c', after, fault, heq, hbefore, hrejects⟩
      · rw [map_behavior_commands] at hall
        rw [compile_of_accepts hd hpresent hall] at h
        obtain ⟨b, hb, rfl⟩ := List.mem_map.mp h
        exact ⟨b, hb, rfl⟩
      · rw [compile_of_rejects hd hpresent heq hbefore hrejects] at h
        obtain ⟨b, hb, rfl⟩ := List.mem_map.mp h
        have hsplit : d.commands = before ++ [c'] ++ after := by simp [heq]
        refine ⟨b, ?_, rfl⟩
        rw [← map_behavior_commands, hsplit, List.map_append, List.map_append]
        exact List.mem_append_left _ hb

/-- The required devices of an accepted draft, in ascending order, are the ids from 1 to 4294967295
that stand in it at any place.  In particular the effects of an ignored transition add the ids in
range that they name, whether they have a command or not, and nothing else: no other integer comes
to stand for an id.  Only compilers of required devices are ever called. -/
theorem requiredDevices_are_ids_in_draft {x : Draft} (hd : ofDraft x = .ok d) :
    d.requiredDevices.Pairwise (· < ·) ∧
    (∀ n : Int, (∃ a ∈ d.requiredDevices, (a.toNat : Int) = n) ↔
      (1 ≤ n ∧ n ≤ 4294967295) ∧ ∃ b ∈ x.allBehaviors, b.device.map Int64.toInt = some n) ∧
    (∀ s ∈ x.states.getD [], ∀ t ∈ s.transitions.getD [], t.ignore = some true →
      ∀ b ∈ t.effects.getD [], ∀ i, b.device = some i →
        ((∃ a ∈ d.requiredDevices, (a.toNat : Int) = i.toInt) ↔
          1 ≤ i.toInt ∧ i.toInt ≤ 4294967295)) ∧
    ∀ (compilers : Compilers), ∀ c ∈ (d.compile compilers).calls,
      c.device ∈ d.requiredDevices := by
  have hvalid : x.validate = .ok d := validate_of_ofDraft hd
  have hdenotes : x.Denotes d := x.validate_performs.of_ok d hvalid
  have hx : x.WellFormed := Draft.wellFormed_of_validate hvalid
  have hids (n : Int) : (∃ a ∈ d.requiredDevices, (a.toNat : Int) = n) ↔
      (1 ≤ n ∧ n ≤ 4294967295) ∧
        ∃ b ∈ x.allBehaviors, b.device.map Int64.toInt = some n := by
    simp only [hdenotes.mem_requiredDevices_iff hx]
    exact Draft.exists_mem_devicesOf_iff
  refine ⟨IdList.ascending_pairwise _, hids, ?_, ?_⟩
  · intro s hs t ht _ b hb i hi
    have hlisted : b ∈ x.allBehaviors := by
      refine List.mem_flatMap.mpr ⟨s, hs, List.mem_append_right _ ?_⟩
      exact List.mem_flatMap.mpr ⟨t, ht, hb⟩
    rw [hids, and_iff_left_iff_imp]
    exact fun _ ↦ ⟨b, hlisted, by rw [hi, Option.map_some]⟩
  · intro compilers c hc
    obtain ⟨b, hb, rfl⟩ := exists_behavior_of_mem_calls (consistent_of_ofDraft hd) hc
    exact device_mem_requiredDevices hb

/-- A gate that ignores whoever knocks.  The effects of that have no device, devices that cannot be
one, among them one that is too great by a whole turn of 32 bits, and one without a command. -/
def gate : Draft where
  initialState := some "closed"
  triggers := some [{ name := some "knock", source := some 1, payload := some "knock" }]
  states := some [
    { name := some "closed"
      onExit := some [{ device := some 4, command := some "creak" }]
      transitions := some [
        { trigger := some "knock", ignore := some true
          effects := some [{ command := some "bark" }, { device := some 0 }, { device := some (-5) },
            { device := some 4294967299, command := some "ring" },
            { device := some 4294967295 }] }] }]

def gateDescription : Description where
  initialState := "closed"
  finalStates := []
  triggers := [⟨"knock", 1, "knock"⟩]
  states := [⟨"closed", [], [⟨4, "creak"⟩], [⟨"knock", .ignore⟩]⟩]
  draft := gate

theorem requiredDevices_are_ids_in_draft_gate :
    ofDraft gate = .ok gateDescription ∧
      gateDescription.requiredDevices = [4, 4294967295] ∧
      gate.allBehaviors.map (fun b ↦ b.device.map Int64.toInt) =
        [some 4, none, some 0, some (-5), some 4294967299, some 4294967295] ∧
      ∀ n : Int, (∃ a ∈ gateDescription.requiredDevices, (a.toNat : Int) = n) ↔
        (1 ≤ n ∧ n ≤ 4294967295) ∧
          ∃ b ∈ gate.allBehaviors, b.device.map Int64.toInt = some n := by
  have hd : ofDraft gate = .ok gateDescription := rfl
  exact ⟨hd, rfl, by decide, (requiredDevices_are_ids_in_draft hd).2.1⟩

end Description

end EventMachine
