import EventMachine.Proofs.Description.Consistent

/-!
# Descriptions spelled out

A description can be written down as a draft again, with all that counts and nothing else.  Since a
draft denotes one description at most, validation gives this very description for it: what
validation has accepted once it accepts again, and nothing of it changes.
-/

namespace EventMachine

/-- The integer that stands for an id in a draft. -/
def idInteger (a : UInt32) : Int64 := .ofNat a.toNat

def Trigger.spelled (t : Trigger) : Draft.Trigger where
  name := some t.name
  source := some (idInteger t.source)
  payload := some t.payload

def Behavior.spelled (b : Behavior) : Draft.Behavior where
  device := some (idInteger b.device)
  command := some b.command

/-- Of an ignored transition there is only the trigger to spell, and that it is ignored. -/
def Transition.spelled (t : Transition) : Draft.Transition :=
  match t.reaction with
  | .ignore => { trigger := some t.trigger, ignore := some true }
  | .permit target effects =>
    { trigger := some t.trigger
      target := some target
      effects := some (effects.map Behavior.spelled) }

def State.spelled (s : State) : Draft.State where
  name := some s.name
  onEntry := some (s.onEntry.map Behavior.spelled)
  onExit := some (s.onExit.map Behavior.spelled)
  transitions := some (s.transitions.map Transition.spelled)

def Description.spelled (d : Description) : Draft where
  initialState := some d.initialState
  finalStates := some (d.finalStates.map some)
  triggers := some (d.triggers.map Trigger.spelled)
  states := some (d.states.map State.spelled)

theorem forall₂_iff_eq_map {α β : Type} {R : α → β → Prop} {g : β → α}
    (h : ∀ {a b}, R a b ↔ a = g b) {as : List α} {bs : List β} :
    List.Forall₂ R as bs ↔ as = bs.map g := by
  have hmap : List.Forall₂ (· = ·) as (bs.map g) ↔ as = bs.map g := by
    rw [List.forall₂_eq_eq_eq]
  rw [← hmap, List.forall₂_map_right_iff]
  constructor
  · exact List.Forall₂.imp fun _ _ ↦ h.mp
  · exact List.Forall₂.imp fun _ _ ↦ h.mpr

theorem forall₂_map_self {α β : Type} {R : α → β → Prop} {g : β → α} (h : ∀ b, R (g b) b)
    (bs : List β) : List.Forall₂ R (bs.map g) bs :=
  List.forall₂_map_left_iff.mpr (List.forall₂_same.mpr fun b _ ↦ h b)

namespace Draft

open EventMachine.Text

/-! ## Entries without freedom -/

/-- A number denotes an id exactly when it is that id written out, so an id has one spelling. -/
theorem idOf_iff {n : Option Int64} {a : UInt32} : IdOf n a ↔ n = some (idInteger a) := by
  have hvalue : (idInteger a).toInt = a.toNat :=
    Int64.toInt_ofNat_of_lt (Nat.lt_trans a.toNat_lt (by decide))
  rw [IdOf, ← hvalue]
  cases n with
  | none => simp
  | some i => simp [Int64.toInt_inj]

theorem IdOf.unique {n : Option Int64} {a b : UInt32} (ha : IdOf n a) (hb : IdOf n b) : a = b := by
  have heq : (a.toNat : Int) = b.toNat := Option.some.inj (ha.symm.trans hb)
  exact UInt32.toNat_inj.mp (by exact_mod_cast heq)

/-- The spelled-out trigger is the only record that denotes it. -/
theorem Trigger.denotes_iff {r : Trigger} {t : EventMachine.Trigger} :
    r.Denotes t ↔ r = t.spelled := by
  constructor
  · rintro ⟨hname, hsource, hpayload⟩
    obtain ⟨name, source, payload⟩ := r
    rw [EventMachine.Trigger.spelled, Trigger.mk.injEq]
    exact ⟨hname, idOf_iff.mp hsource, hpayload⟩
  · rintro rfl
    exact ⟨rfl, idOf_iff.mpr rfl, rfl⟩

theorem Behavior.denotes_iff {r : Behavior} {b : EventMachine.Behavior} :
    r.Denotes b ↔ r = b.spelled := by
  constructor
  · rintro ⟨hdevice, hcommand⟩
    obtain ⟨device, command⟩ := r
    rw [EventMachine.Behavior.spelled, Behavior.mk.injEq]
    exact ⟨idOf_iff.mp hdevice, hcommand⟩
  · rintro rfl
    exact ⟨idOf_iff.mpr rfl, rfl⟩

theorem behaviorsDenote_iff {rs : Option (List Behavior)} {bs : List EventMachine.Behavior} :
    BehaviorsDenote rs bs ↔ rs.getD [] = bs.map EventMachine.Behavior.spelled :=
  forall₂_iff_eq_map @Behavior.denotes_iff

/-! ## One description at most -/

theorem Trigger.Denotes.unique {r : Trigger} {t u : EventMachine.Trigger} (ht : r.Denotes t)
    (hu : r.Denotes u) : t = u := by
  have hname : t.name = u.name := Option.some.inj (ht.name.symm.trans hu.name)
  have hpayload : t.payload = u.payload := Option.some.inj (ht.payload.symm.trans hu.payload)
  have hsource : t.source = u.source := ht.source.unique hu.source
  cases t
  cases u
  simp_all

theorem Behavior.Denotes.unique {r : Behavior} {b c : EventMachine.Behavior} (hb : r.Denotes b)
    (hc : r.Denotes c) : b = c := by
  have hcommand : b.command = c.command := Option.some.inj (hb.command.symm.trans hc.command)
  have hdevice : b.device = c.device := hb.device.unique hc.device
  cases b
  cases c
  simp_all

theorem BehaviorsDenote.unique {rs : Option (List Behavior)} {bs cs : List EventMachine.Behavior}
    (hb : BehaviorsDenote rs bs) (hc : BehaviorsDenote rs cs) : bs = cs :=
  List.right_unique_forall₂' @Behavior.Denotes.unique hb hc

/-- The flag decides, whatever target and effects stand beside it. -/
theorem Transition.Denotes.ignore_iff {r : Transition} {t : EventMachine.Transition}
    (h : r.Denotes t) : t.reaction = .ignore ↔ r.ignore = some true := by
  cases hi : r.isIgnored with
  | true => simpa [h.ignore hi, Transition.isIgnored] using hi
  | false =>
      obtain ⟨target, effects, hreaction, -⟩ := h.permit hi
      simpa [hreaction, Transition.isIgnored] using hi

/-- A transition record denotes at most one transition: the flag chooses the reaction, and each
reaction is read off its own fields. -/
theorem Transition.Denotes.unique {r : Transition} {t u : EventMachine.Transition}
    (ht : r.Denotes t) (hu : r.Denotes u) : t = u := by
  have htrigger : t.trigger = u.trigger := Option.some.inj (ht.trigger.symm.trans hu.trigger)
  have hreaction : t.reaction = u.reaction := by
    cases hi : r.isIgnored with
    | true => rw [ht.ignore hi, hu.ignore hi]
    | false =>
        obtain ⟨target, effects, hreact, htarget, heffects⟩ := ht.permit hi
        obtain ⟨target', effects', hreact', htarget', heffects'⟩ := hu.permit hi
        obtain rfl : target = target' := Option.some.inj (htarget.symm.trans htarget')
        rw [hreact, hreact', heffects.unique heffects']
  cases t
  cases u
  simp_all

theorem State.Denotes.unique {r : State} {s t : EventMachine.State} (hs : r.Denotes s)
    (ht : r.Denotes t) : s = t := by
  have hname : s.name = t.name := Option.some.inj (hs.name.symm.trans ht.name)
  have hentry : s.onEntry = t.onEntry := hs.onEntry.unique ht.onEntry
  have hexit : s.onExit = t.onExit := hs.onExit.unique ht.onExit
  have htransitions : s.transitions = t.transitions :=
    List.right_unique_forall₂' @Transition.Denotes.unique hs.transitions
      ht.transitions
  cases s
  cases t
  simp_all

/-- A draft denotes at most one description. -/
theorem Denotes.unique {x : Draft} {d e : Description} (hd : x.Denotes d) (he : x.Denotes e) :
    d = e := by
  have hinitial : d.initialState = e.initialState :=
    Option.some.inj (hd.initialState.symm.trans he.initialState)
  have hfinals : d.finalStates = e.finalStates :=
    List.map_injective_iff.mpr (fun _ _ ↦ Option.some.inj)
      (hd.finalStates.symm.trans he.finalStates)
  have htriggers : d.triggers = e.triggers :=
    List.right_unique_forall₂' @Trigger.Denotes.unique hd.triggers
      he.triggers
  have hstates : d.states = e.states :=
    List.right_unique_forall₂' @State.Denotes.unique hd.states he.states
  have hdraft : d.draft = e.draft := hd.draft.trans he.draft.symm
  cases d
  cases e
  simp_all

/-! ## What is spelled denotes -/

theorem denotes_spelled_transition (t : EventMachine.Transition) : t.spelled.Denotes t := by
  obtain ⟨trigger, reaction⟩ := t
  cases reaction with
  | ignore => exact ⟨rfl, fun _ ↦ rfl, fun h ↦ by cases h⟩
  | permit target effects =>
      exact ⟨rfl, fun h ↦ (by cases h), fun _ ↦
        ⟨target, effects, rfl, rfl, behaviorsDenote_iff.mpr rfl⟩⟩

theorem denotes_spelled_state (s : EventMachine.State) : s.spelled.Denotes s where
  name := rfl
  onEntry := behaviorsDenote_iff.mpr rfl
  onExit := behaviorsDenote_iff.mpr rfl
  transitions := forall₂_map_self denotes_spelled_transition s.transitions

/-- Every description is denoted by its own spelling. -/
theorem denotes_spelled (d : Description) : d.spelled.Denotes { d with draft := d.spelled } where
  initialState := rfl
  finalStates := rfl
  triggers := forall₂_map_self (fun _ ↦ Trigger.denotes_iff.mpr rfl) d.triggers
  states := forall₂_map_self denotes_spelled_state d.states
  draft := rfl

/-! ## What is spelled is well-formed -/

variable {x y : Draft} {d : Description}

theorem forall_behaviors_spelled {rs : Option (List Behavior)} {bs : List EventMachine.Behavior}
    (h : BehaviorsDenote rs bs) (hrs : ∀ cs ∈ rs, ∀ b ∈ cs, b.WellFormed) :
    ∀ cs ∈ some (bs.map EventMachine.Behavior.spelled), ∀ b ∈ cs, b.WellFormed := by
  rintro cs ⟨⟩ b hb
  rw [← behaviorsDenote_iff.mp h] at hb
  cases rs with
  | none => simp at hb
  | some cs => exact hrs cs rfl b hb

/-- A draft that declares the same triggers and states may stand in for the one that a transition
was well-formed in. -/
theorem Transition.Denotes.wellFormed_spelled {r : Transition} {t : EventMachine.Transition}
    (h : r.Denotes t) (hr : r.WellFormed x)
    (htriggers : ∀ n, x.DeclaresTrigger n → y.DeclaresTrigger n)
    (hstates : ∀ a, x.DeclaresState (some a) → y.DeclaresState (some a)) :
    t.spelled.WellFormed y := by
  have htrigger : t.spelled.trigger = r.trigger := by
    rw [h.trigger, EventMachine.Transition.spelled]
    cases t.reaction <;> rfl
  cases hi : r.isIgnored with
  | true =>
      have hignore : t.spelled.ignore = some true := by
        rw [EventMachine.Transition.spelled, h.ignore hi]
      refine ⟨?_, fun hn ↦ absurd hignore hn, fun hn ↦ absurd hignore hn⟩
      rw [htrigger]
      exact ⟨hr.trigger.1, htriggers _ hr.trigger.2⟩
  | false =>
      have hn : r.ignore ≠ some true := by simpa [Transition.isIgnored] using hi
      obtain ⟨target, effects, hreaction, htarget, heffects⟩ := h.permit hi
      have hspelled : t.spelled.target = r.target ∧
          t.spelled.effects = some (effects.map EventMachine.Behavior.spelled) := by
        rw [htarget, EventMachine.Transition.spelled, hreaction]
        exact ⟨rfl, rfl⟩
      refine ⟨?_, fun _ ↦ ?_, fun _ ↦ ?_⟩
      · rw [htrigger]
        exact ⟨hr.trigger.1, htriggers _ hr.trigger.2⟩
      · rw [hspelled.1]
        refine ⟨(hr.target hn).1, ?_⟩
        rw [htarget]
        exact hstates target (htarget ▸ (hr.target hn).2)
      · rw [hspelled.2]
        exact forall_behaviors_spelled heffects (hr.effects hn)

/-- Spelling a state out keeps it well formed, where the names it refers to stay declared. -/
theorem State.Denotes.wellFormed_spelled {r : State} {s : EventMachine.State} (h : r.Denotes s)
    (hr : r.WellFormed x) (htriggers : ∀ n, x.DeclaresTrigger n → y.DeclaresTrigger n)
    (hstates : ∀ a, x.DeclaresState (some a) → y.DeclaresState (some a)) :
    s.spelled.WellFormed y where
  name := (h.name ▸ hr.name : Stated (some s.name))
  onEntry := forall_behaviors_spelled h.onEntry hr.onEntry
  onExit := forall_behaviors_spelled h.onExit hr.onExit
  transitions := by
    rintro ts ⟨⟩
    obtain ⟨hwell, hnodup⟩ := hr.forall_transitions
    constructor
    · intro q hq
      obtain ⟨t, ht, rfl⟩ := List.mem_map.mp hq
      obtain ⟨r', hr', hdenotes⟩ := exists_mem_of_forall₂ h.transitions ht
      exact hdenotes.wellFormed_spelled (hwell r' hr') htriggers hstates
    · have hsame := forall₂_map_self denotes_spelled_transition s.transitions
      have hnames : (s.transitions.map EventMachine.Transition.spelled).map (·.trigger) =
          (r.transitions.getD []).map (·.trigger) := by
        rw [map_eq_map_of_forall₂ h.transitions fun _ _ ht ↦ ht.trigger]
        exact map_eq_map_of_forall₂ hsame fun _ _ ht ↦ ht.trigger
      rwa [hnames]

/-- Triggers have no optional part, so a valid draft already spells them out. -/
theorem Denotes.triggers_eq (h : x.Denotes d) (hx : x.WellFormed) :
    x.triggers = d.spelled.triggers := by
  obtain ⟨ts, hts, -⟩ := hx.triggers
  have heq := (forall₂_iff_eq_map @Trigger.denotes_iff).mp h.triggers
  rw [Option.mem_def.mp hts, Option.getD_some] at heq
  rw [Option.mem_def.mp hts, heq]
  rfl

theorem Denotes.exists_states (h : x.Denotes d) (hx : x.WellFormed) :
    ∃ ss, x.states = some ss ∧ List.Forall₂ State.Denotes ss d.states := by
  obtain ⟨ss, hss, -⟩ := hx.states
  refine ⟨ss, hss, ?_⟩
  simpa [Option.mem_def.mp hss] using h.states

theorem Denotes.declaresState_spelled (h : x.Denotes d) {a : String}
    (ha : x.DeclaresState (some a)) : d.spelled.DeclaresState (some a) := by
  have hmem : a ∈ d.stateNames := h.mem_stateNames ha
  rw [← mem_stateNames_iff, (denotes_spelled d).stateNames_eq]
  exact hmem

/-- Spelling a valid draft out gives a valid draft. -/
theorem Denotes.wellFormed_spelled (h : x.Denotes d) (hx : x.WellFormed) :
    d.spelled.WellFormed := by
  have htriggers := h.triggers_eq hx
  have hdeclares (n : Option String) (hn : x.DeclaresTrigger n) : d.spelled.DeclaresTrigger n := by
    rwa [DeclaresTrigger, ← htriggers]
  have href (n : Option String) (hn : Stated n ∧ x.DeclaresState n) :
      Stated n ∧ d.spelled.DeclaresState n := by
    obtain ⟨⟨a, ha, hblank⟩, hdeclared⟩ := hn
    cases ha
    exact ⟨⟨a, rfl, hblank⟩, h.declaresState_spelled hdeclared⟩
  obtain ⟨ss, hss, hne, hstates, -⟩ := hx.states
  obtain ⟨ss', hss', hdenotes⟩ := h.exists_states hx
  obtain rfl : ss = ss' := Option.some.inj (hss.symm.trans hss')
  refine ⟨htriggers ▸ hx.triggers, ⟨_, rfl, ?_, ?_, ?_⟩, ?_, ?_⟩
  · intro hnil
    rw [List.map_eq_nil_iff] at hnil
    rw [hnil] at hdenotes
    exact hne (List.forall₂_nil_right_iff.mp hdenotes)
  · intro s hs
    obtain ⟨t, ht, rfl⟩ := List.mem_map.mp hs
    obtain ⟨r, hr, hrt⟩ := exists_mem_of_forall₂ hdenotes ht
    exact hrt.wellFormed_spelled (hstates r hr) hdeclares fun a ↦ h.declaresState_spelled
  · have hnodup := (h.consistent hx).stateNames.map (fun _ _ ↦ Option.some.inj)
    rw [Description.stateNames, List.map_map] at hnodup
    rwa [List.map_map]
  · exact href (some d.initialState) (h.initialState ▸ hx.initialState)
  · rintro fs ⟨⟩ f hf
    rw [← h.finalStates] at hf
    cases hfs : x.finalStates with
    | none => simp [hfs] at hf
    | some fs =>
        rw [hfs, Option.getD_some] at hf
        exact href f (hx.finalStates fs hfs f hf)

/-! ## Validation again -/

/-- A description that validation gives is the only one its draft denotes: the texts are those of
the draft, the ids have the values they have there, and triggers, states, behaviors and transitions
stand in the same order, an absent list being an empty one.  Spelled out, it is accepted again and
comes back as it was. -/
theorem faithful_of_validate (h : x.validate = .ok d) :
    (∀ e, x.Denotes e ↔ e = d) ∧
      x.initialState = some d.initialState ∧
      x.finalStates.getD [] = d.finalStates.map some ∧
      x.triggers = some (d.triggers.map EventMachine.Trigger.spelled) ∧
      (∃ ss, x.states = some ss ∧ List.Forall₂ State.Denotes ss d.states) ∧
      (∀ (r : Transition) (t : EventMachine.Transition), r.Denotes t →
        (t.reaction = .ignore ↔ r.ignore = some true)) ∧
      d.spelled.validate = .ok { d with draft := d.spelled } := by
  have hdenotes : x.Denotes d := x.validate_performs.of_ok d h
  have hx : x.WellFormed := wellFormed_of_validate h
  obtain ⟨e, he⟩ := (hdenotes.wellFormed_spelled hx).exists_validate
  have heq : e = { d with draft := d.spelled } :=
    (d.spelled.validate_performs.of_ok e he).unique (denotes_spelled d)
  refine ⟨fun e ↦ ?_, hdenotes.initialState, hdenotes.finalStates, hdenotes.triggers_eq hx,
    hdenotes.exists_states hx, fun _ _ ↦ Transition.Denotes.ignore_iff, heq ▸ he⟩
  constructor
  · intro he
    exact he.unique hdenotes
  · rintro rfl
    exact hdenotes

/-- A hatch whose draft leaves much open: a list that is empty and others that are absent, a state
named before it is declared, a final state named twice, and litter in a transition that is
ignored. -/
def hatch : Draft where
  initialState := some "shut"
  finalStates := some [some "open", some "shut", some "open"]
  triggers := some [
    { name := some "turn", source := some 4294967295, payload := some " left" },
    { name := some "knock", source := some 1, payload := some "knock" }]
  states := some [
    { name := some "shut"
      onExit := some []
      transitions := some [
        { trigger := some "turn", target := some "open", ignore := some false },
        { trigger := some "knock", target := some "nowhere", effects := some [{}]
          ignore := some true }] },
    { name := some "open"
      onEntry := some [{ device := some 7, command := some "hiss" }] }]

def hatchDescription : Description where
  initialState := "shut"
  finalStates := ["open", "shut", "open"]
  triggers := [⟨"turn", 4294967295, " left"⟩, ⟨"knock", 1, "knock"⟩]
  states := [
    ⟨"shut", [], [], [⟨"turn", .permit "open" []⟩, ⟨"knock", .ignore⟩]⟩,
    ⟨"open", [⟨7, "hiss"⟩], [], []⟩]
  draft := hatch

theorem faithful_of_validate_hatch :
    hatch.validate = .ok hatchDescription ∧ hatchDescription.spelled ≠ hatch ∧
      hatch.triggers = some (hatchDescription.triggers.map EventMachine.Trigger.spelled) ∧
      hatchDescription.spelled.validate =
        .ok { hatchDescription with draft := hatchDescription.spelled } := by
  have h : hatch.validate = .ok hatchDescription := rfl
  obtain ⟨-, -, -, htriggers, -, -, hagain⟩ := faithful_of_validate h
  exact ⟨h, by decide, htriggers, hagain⟩

end Draft

end EventMachine
