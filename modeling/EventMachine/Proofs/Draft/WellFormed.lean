import EventMachine.Proofs.Draft.Passes

/-!
# Well-formed drafts

What has to hold of a draft for a description to come of it, said without any order of checks.
Validation accepts the well-formed drafts and no others.
-/

namespace EventMachine

open EventMachine.Text

namespace Draft

/-- A text that is there and is not blank. -/
def Stated (s : Option String) : Prop := ∃ a ∈ s, blank a = false

/-- A number that is there and is an id of 32 bits. -/
def Numbered (n : Option Int64) : Prop := ∃ i ∈ n, 1 ≤ i.toInt ∧ i.toInt ≤ 4294967295

def DeclaresTrigger (x : Draft) (name : Option String) : Prop :=
  ∃ ts ∈ x.triggers, ∃ t ∈ ts, t.name = name

def DeclaresState (x : Draft) (name : Option String) : Prop :=
  ∃ ss ∈ x.states, ∃ s ∈ ss, s.name = name

structure Trigger.WellFormed (t : Draft.Trigger) : Prop where
  name : Stated t.name
  source : Numbered t.source
  payload : Stated t.payload

structure Behavior.WellFormed (b : Draft.Behavior) : Prop where
  device : Numbered b.device
  command : Stated b.command

/-- Nothing is asked of the target and the effects of an ignored transition. -/
structure Transition.WellFormed (x : Draft) (t : Draft.Transition) : Prop where
  trigger : Stated t.trigger ∧ x.DeclaresTrigger t.trigger
  target : t.ignore ≠ some true → Stated t.target ∧ x.DeclaresState t.target
  effects : t.ignore ≠ some true → ∀ bs ∈ t.effects, ∀ b ∈ bs, b.WellFormed

structure State.WellFormed (x : Draft) (s : Draft.State) : Prop where
  name : Stated s.name
  onEntry : ∀ bs ∈ s.onEntry, ∀ b ∈ bs, b.WellFormed
  onExit : ∀ bs ∈ s.onExit, ∀ b ∈ bs, b.WellFormed
  transitions : ∀ ts ∈ s.transitions,
    (∀ t ∈ ts, t.WellFormed x) ∧ (ts.map (·.trigger)).Nodup

structure WellFormed (x : Draft) : Prop where
  triggers : ∃ ts ∈ x.triggers, ts ≠ [] ∧ (∀ t ∈ ts, t.WellFormed) ∧
    (ts.map (·.name)).Nodup ∧ (ts.map fun t ↦ (t.source, t.payload)).Nodup
  states : ∃ ss ∈ x.states, ss ≠ [] ∧ (∀ s ∈ ss, s.WellFormed x) ∧ (ss.map (·.name)).Nodup
  initialState : Stated x.initialState ∧ x.DeclaresState x.initialState
  finalStates : ∀ fs ∈ x.finalStates, ∀ f ∈ fs, Stated f ∧ x.DeclaresState f

/-! ## Single fields -/

variable {x : Draft} {p : Position} {α : Type}

theorem meetsAll_name_iff {s : Option String} (hp : x.content? p = s.map .text) :
    x.MeetsAll (Check.name p) ↔ Stated s := by
  cases s with
  | none => simp [Check.name, meets_notNull, hp, Stated]
  | some a => simp [Check.name, meets_notNull, meets_notBlank hp, hp, Stated]

theorem meetsAll_id_iff {n : Option Int64} (hp : x.content? p = n.map (.number ·.toInt)) :
    x.MeetsAll (Check.id p) ↔ Numbered n := by
  cases n with
  | none => simp [Check.id, meets_notNull, hp, Numbered]
  | some i =>
      simp [Check.id, meets_notNull, meets_greaterThan hp, meets_atMost hp, hp, Numbered,
        Int.lt_iff_add_one_le]

theorem meetsAll_list_iff {as : Option (List α)} (hp : x.content? p = as.map (.list ·.length)) :
    x.MeetsAll (Check.list p) ↔ ∃ bs ∈ as, bs ≠ [] := by
  cases as with
  | none => simp [Check.list, meets_notNull, hp]
  | some bs => simp [Check.list, meets_notNull, meets_notEmpty hp, hp]

theorem mem_triggerNames_iff {a : String} : a ∈ x.triggerNames ↔ x.DeclaresTrigger (some a) := by
  cases h : x.triggers <;> simp [triggerNames, DeclaresTrigger, h]

theorem mem_stateNames_iff {a : String} : a ∈ x.stateNames ↔ x.DeclaresState (some a) := by
  cases h : x.states <;> simp [stateNames, DeclaresState, h]

theorem meetsAll_triggerReference_iff {s : Option String} (hp : x.content? p = s.map .text) :
    x.MeetsAll (Check.reference p .knownTrigger) ↔ Stated s ∧ x.DeclaresTrigger s := by
  rw [Check.reference, meetsAll_append, meetsAll_name_iff hp]
  apply and_congr_right
  rintro ⟨a, ha, _⟩
  cases ha
  simp [meets_knownTrigger hp, mem_triggerNames_iff]

theorem meetsAll_stateReference_iff {s : Option String} (hp : x.content? p = s.map .text) :
    x.MeetsAll (Check.reference p .containedInStates) ↔ Stated s ∧ x.DeclaresState s := by
  rw [Check.reference, meetsAll_append, meetsAll_name_iff hp]
  apply and_congr_right
  rintro ⟨a, ha, _⟩
  cases ha
  simp [meets_containedInStates hp, mem_stateNames_iff]

/-- A loop of checks is met exactly when each element meets its own. -/
theorem meetsAll_flatMap_iff {cs : Nat → List Check} {P : α → Prop} {as : List α}
    (h : ∀ k a, as[k]? = some a → (x.MeetsAll (cs k) ↔ P a)) :
    x.MeetsAll ((List.range as.length).flatMap cs) ↔ ∀ a ∈ as, P a := by
  simp only [MeetsAll, List.mem_flatMap, List.mem_range, forall_exists_index, and_imp]
  constructor
  · intro hall a ha
    obtain ⟨k, hk⟩ := List.mem_iff_getElem?.mp ha
    exact (h k a hk).mp fun c hc ↦ hall c k (List.getElem?_eq_some_iff.mp hk).1 hc
  · intro hall c k hk hc
    have hget : as[k]? = some as[k] := List.getElem?_eq_getElem hk
    exact (h k _ hget).mpr (hall _ (List.getElem_mem hk)) c hc

/-! ## Triggers -/

theorem meetsAll_trigger_iff {i : Nat} {t : Draft.Trigger} (h : x.triggerAt i = some t) :
    x.MeetsAll (Check.trigger i) ↔ t.WellFormed := by
  rw [Check.trigger, meetsAll_append, meetsAll_append, meetsAll_name_iff (content?_triggerName h),
    meetsAll_id_iff (content?_triggerSource h), meetsAll_name_iff (content?_triggerPayload h)]
  constructor
  · rintro ⟨hname, hsource, hpayload⟩
    exact ⟨hname, hsource, hpayload⟩
  · intro ht
    exact ⟨ht.name, ht.source, ht.payload⟩

/-- Names that are all stated are distinct if they are unique among those before them. -/
theorem meetsAll_distinct_iff_of_stated {position : Nat → Position} {as : List α}
    {name : α → Option String}
    (hc : ∀ i a, as[i]? = some a → x.content? (position i) = (name a).map .text)
    (hs : ∀ a ∈ as, Stated (name a))
    (he : ∀ i, (position i).earlier = (List.range i).map position) :
    x.MeetsAll (Check.distinct position as.length) ↔ (as.map name).Nodup := by
  have hlists : x.Lists position (Option.map .text) (as.map name) := by
    refine ⟨?_, ?_, ?_, he⟩
    · intro i n hn
      rw [List.getElem?_map, Option.map_eq_some_iff] at hn
      obtain ⟨a, ha, rfl⟩ := hn
      exact hc i a ha
    · intro n hn
      obtain ⟨a, ha, rfl⟩ := List.mem_map.mp hn
      obtain ⟨b, hb, _⟩ := hs a ha
      rw [Option.mem_def.mp hb]
      rfl
    · intro n _ n' _ heq
      exact Option.map_injective (fun _ _ h ↦ Content.text.inj h) heq
  have hdistinct := hlists.meetsAll_distinct_iff
  rwa [List.length_map] at hdistinct

def rawEventContent (e : Option Int64 × Option String) : Option Content :=
  e.1.bind fun n ↦ e.2.map fun a ↦ .event n.toInt a

theorem lists_rawEvents {ts : List Draft.Trigger} (h : x.triggers = some ts)
    (hts : ∀ t ∈ ts, t.WellFormed) :
    x.Lists .triggerEvent rawEventContent (ts.map fun t ↦ (t.source, t.payload)) where
  content_eq i e he := by
    rw [List.getElem?_map, Option.map_eq_some_iff] at he
    obtain ⟨t, ht, rfl⟩ := he
    simp [content?, triggerAt, h, ht, rawEventContent]
  isSome e he := by
    obtain ⟨t, ht, rfl⟩ := List.mem_map.mp he
    obtain ⟨n, hn, _⟩ := (hts t ht).source
    obtain ⟨a, ha, _⟩ := (hts t ht).payload
    rw [rawEventContent, Option.mem_def.mp hn, Option.mem_def.mp ha]
    rfl
  injOn e he e' he' heq := by
    obtain ⟨t, ht, rfl⟩ := List.mem_map.mp he
    obtain ⟨t', ht', rfl⟩ := List.mem_map.mp he'
    obtain ⟨n, hn, _⟩ := (hts t ht).source
    obtain ⟨a, ha, _⟩ := (hts t ht).payload
    obtain ⟨n', hn', _⟩ := (hts t' ht').source
    obtain ⟨a', ha', _⟩ := (hts t' ht').payload
    simp only [Option.mem_def] at hn ha hn' ha'
    simpa [rawEventContent, hn, ha, hn', ha', Int64.toInt_inj] using heq
  earlier_eq i := rfl

/-- The checks of the triggers, without their order. -/
theorem meetsAll_triggerChecks_iff :
    x.MeetsAll x.triggerChecks ↔ ∃ ts ∈ x.triggers, ts ≠ [] ∧ (∀ t ∈ ts, t.WellFormed) ∧
      (ts.map (·.name)).Nodup ∧ (ts.map fun t ↦ (t.source, t.payload)).Nodup := by
  cases h : x.triggers with
  | none => simp [triggerChecks, Check.list, meets_notNull, content?, h]
  | some ts =>
      have hlist : x.MeetsAll (Check.list .triggers) ↔ ts ≠ [] := by
        have hp : x.content? .triggers = (some ts).map (.list ·.length) := by rw [content?, h]
        simpa using meetsAll_list_iff hp
      have hat : ∀ (i : Nat) (t : Draft.Trigger), ts[i]? = some t → x.triggerAt i = some t := by
        intro i t ht
        simp [triggerAt, h, ht]
      have heach : x.MeetsAll ((List.range ts.length).flatMap Check.trigger) ↔
          ∀ t ∈ ts, t.WellFormed :=
        meetsAll_flatMap_iff fun i t ht ↦ meetsAll_trigger_iff (hat i t ht)
      simp only [triggerChecks, h, Option.getD_some, meetsAll_append, hlist, heach,
        Option.mem_def, Option.some.injEq, exists_eq_left']
      refine and_congr_right fun _ ↦ and_congr_right fun hts ↦ ?_
      have hnames : x.MeetsAll (Check.distinct .triggerName ts.length) ↔
          (ts.map (·.name)).Nodup :=
        meetsAll_distinct_iff_of_stated (fun i t ht ↦ content?_triggerName (hat i t ht))
          (fun t ht ↦ (hts t ht).name) fun _ ↦ rfl
      have hevents := (lists_rawEvents h hts).meetsAll_distinct_iff
      rw [List.length_map] at hevents
      exact and_congr hnames hevents

/-! ## Behaviors and states -/

theorem meetsAll_behavior_iff {l : BehaviorList} {j : Nat} {b : Draft.Behavior}
    (h : (x.behaviorsOf l)[j]? = some b) : x.MeetsAll (Check.behavior l j) ↔ b.WellFormed := by
  rw [Check.behavior, meetsAll_append, meetsAll_id_iff (content?_device h),
    meetsAll_name_iff (content?_command h)]
  constructor
  · rintro ⟨hdevice, hcommand⟩
    exact ⟨hdevice, hcommand⟩
  · intro hb
    exact ⟨hb.device, hb.command⟩

/-- An absent list of behaviors has nothing to meet. -/
theorem meetsAll_behaviorChecks_iff {l : BehaviorList} {bs : Option (List Draft.Behavior)}
    (h : x.behaviorsOf l = bs.getD []) :
    x.MeetsAll (x.behaviorChecks l) ↔ ∀ cs ∈ bs, ∀ b ∈ cs, b.WellFormed := by
  rw [behaviorChecks, meetsAll_flatMap_iff fun j b hb ↦ meetsAll_behavior_iff hb, h]
  cases bs <;> simp

theorem meetsAll_headChecks_iff {i : Nat} {s : Draft.State} (h : x.stateAt i = some s) :
    x.MeetsAll (x.headChecks i) ↔ Stated s.name ∧
      (∀ bs ∈ s.onEntry, ∀ b ∈ bs, b.WellFormed) ∧ ∀ bs ∈ s.onExit, ∀ b ∈ bs, b.WellFormed := by
  rw [headChecks, meetsAll_append, meetsAll_append, meetsAll_name_iff (content?_stateName h),
    meetsAll_behaviorChecks_iff (behaviorsOf_onEntry h),
    meetsAll_behaviorChecks_iff (behaviorsOf_onExit h)]

theorem meetsAll_transitionChecks_iff {i k : Nat} {t : Draft.Transition}
    (h : x.transitionAt i k = some t) :
    x.MeetsAll (x.transitionChecks i k) ↔ t.WellFormed x := by
  have hany : (x.transitionAt i k).any (·.isIgnored) = t.isIgnored := by simp [h]
  rw [transitionChecks, meetsAll_append,
    meetsAll_triggerReference_iff (content?_transitionTrigger h), hany]
  by_cases hi : t.ignore = some true
  · have hi' : t.isIgnored = true := by simp [Transition.isIgnored, hi]
    rw [if_pos hi']
    constructor
    · intro ht
      exact ⟨ht.1, fun hn ↦ absurd hi hn, fun hn ↦ absurd hi hn⟩
    · intro ht
      exact ⟨ht.trigger, meetsAll_nil x⟩
  · have hi' : ¬t.isIgnored = true := by simpa [Transition.isIgnored] using hi
    rw [if_neg hi', meetsAll_append, meetsAll_stateReference_iff (content?_transitionTarget h),
      meetsAll_behaviorChecks_iff (behaviorsOf_effects h)]
    constructor
    · rintro ⟨htrigger, htarget, heffects⟩
      exact ⟨htrigger, fun _ ↦ htarget, fun _ ↦ heffects⟩
    · intro ht
      exact ⟨ht.trigger, ht.target hi, ht.effects hi⟩

theorem meetsAll_reactionChecks_iff {i : Nat} {s : Draft.State} (h : x.stateAt i = some s) :
    x.MeetsAll (x.reactionChecks i) ↔
      ∀ ts ∈ s.transitions, (∀ t ∈ ts, t.WellFormed x) ∧ (ts.map (·.trigger)).Nodup := by
  have hlist := transitionsOf_eq h
  have heach : x.MeetsAll
      ((List.range (x.transitionsOf i).length).flatMap (x.transitionChecks i)) ↔
        ∀ t ∈ x.transitionsOf i, t.WellFormed x :=
    meetsAll_flatMap_iff fun k t ht ↦ meetsAll_transitionChecks_iff ht
  have hsplit : x.MeetsAll (x.reactionChecks i) ↔ (∀ t ∈ x.transitionsOf i, t.WellFormed x) ∧
      ((x.transitionsOf i).map (·.trigger)).Nodup := by
    rw [reactionChecks, meetsAll_append, heach]
    apply and_congr_right
    intro hts
    exact meetsAll_distinct_iff_of_stated (fun k t ht ↦ content?_transitionTrigger ht)
      (fun t ht ↦ (hts t ht).trigger.1) fun _ ↦ rfl
  rw [hsplit, hlist]
  cases s.transitions <;> simp

/-- The heads of the states, their names and their transitions are checked in separate passes. -/
theorem meetsAll_states_iff :
    (x.MeetsAll x.stateChecks ∧
      x.MeetsAll ((List.range (x.states.getD []).length).flatMap x.reactionChecks)) ↔
      ∃ ss ∈ x.states, ss ≠ [] ∧ (∀ s ∈ ss, s.WellFormed x) ∧ (ss.map (·.name)).Nodup := by
  cases h : x.states with
  | none => simp [stateChecks, Check.list, meets_notNull, content?, h]
  | some ss =>
      have hlist : x.MeetsAll (Check.list .states) ↔ ss ≠ [] := by
        have hp : x.content? .states = (some ss).map (.list ·.length) := by rw [content?, h]
        simpa using meetsAll_list_iff hp
      have hat : ∀ (i : Nat) (s : Draft.State), ss[i]? = some s → x.stateAt i = some s := by
        intro i s hs
        simp [stateAt, h, hs]
      have hheads := meetsAll_flatMap_iff fun i s hs ↦ meetsAll_headChecks_iff (hat i s hs)
      have hreactions := meetsAll_flatMap_iff fun i s hs ↦ meetsAll_reactionChecks_iff (hat i s hs)
      simp only [stateChecks, h, Option.getD_some, meetsAll_append, hlist, hheads, hreactions,
        Option.mem_def, Option.some.injEq, exists_eq_left', and_assoc]
      have hdistinct (hs : ∀ s ∈ ss, Stated s.name) :
          x.MeetsAll (Check.distinct .stateName ss.length) ↔ (ss.map (·.name)).Nodup :=
        meetsAll_distinct_iff_of_stated (fun i s hs ↦ content?_stateName (hat i s hs)) hs
          fun _ ↦ rfl
      apply and_congr_right
      intro _
      constructor
      · rintro ⟨hh, hd, hr⟩
        refine ⟨fun s hs ↦ ?_, (hdistinct fun s hs ↦ (hh s hs).1).mp hd⟩
        obtain ⟨hname, hentry, hexit⟩ := hh s hs
        exact ⟨hname, hentry, hexit, hr s hs⟩
      · rintro ⟨hs, hd⟩
        exact ⟨fun s h ↦ ⟨(hs s h).name, (hs s h).onEntry, (hs s h).onExit⟩,
          (hdistinct fun s h ↦ (hs s h).name).mpr hd, fun s h ↦ (hs s h).transitions⟩

/-! ## The whole draft -/

theorem meetsAll_finalStates_iff :
    x.MeetsAll ((List.range (x.finalStates.getD []).length).flatMap Check.finalState) ↔
      ∀ fs ∈ x.finalStates, ∀ f ∈ fs, Stated f ∧ x.DeclaresState f := by
  have heach : x.MeetsAll
      ((List.range (x.finalStates.getD []).length).flatMap Check.finalState) ↔
        ∀ f ∈ x.finalStates.getD [], Stated f ∧ x.DeclaresState f := by
    apply meetsAll_flatMap_iff
    intro i f hf
    exact meetsAll_stateReference_iff (content?_finalState hf)
  rw [heach]
  cases x.finalStates <;> simp

/-- The well-formed drafts are those that meet every check. -/
theorem meetsAll_checks_iff (x : Draft) : x.MeetsAll x.checks ↔ x.WellFormed := by
  have hinitial : x.MeetsAll Check.initialState ↔
      Stated x.initialState ∧ x.DeclaresState x.initialState := meetsAll_stateReference_iff rfl
  simp only [checks, meetsAll_append, hinitial, meetsAll_triggerChecks_iff,
    meetsAll_finalStates_iff]
  constructor
  · rintro ⟨ht, hs, hr, hi, hf⟩
    exact ⟨ht, meetsAll_states_iff.mp ⟨hs, hr⟩, hi, hf⟩
  · intro h
    obtain ⟨hs, hr⟩ := meetsAll_states_iff.mpr h.states
    exact ⟨h.triggers, hs, hr, h.initialState, h.finalStates⟩

theorem wellFormed_of_validate {d : Description} (h : x.validate = .ok d) : x.WellFormed :=
  (meetsAll_checks_iff x).mp (x.validate_performs.exists_ok_iff.mp ⟨d, h⟩)

theorem WellFormed.exists_validate (hx : x.WellFormed) : ∃ d, x.validate = .ok d :=
  x.validate_performs.exists_ok_iff.mpr ((meetsAll_checks_iff x).mpr hx)

instance (x : Draft) : Decidable x.WellFormed :=
  decidable_of_iff (∀ c ∈ x.checks, x.meets c = true) (meetsAll_checks_iff x)

/-- Validation accepts exactly the well-formed drafts. -/
theorem exists_validate_eq_ok_iff (x : Draft) : (∃ d, x.validate = .ok d) ↔ x.WellFormed := by
  rw [x.validate_performs.exists_ok_iff, meetsAll_checks_iff]

example : ¬({} : Draft).WellFormed := by decide

end Draft

end EventMachine
