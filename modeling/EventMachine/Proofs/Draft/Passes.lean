import EventMachine.Proofs.Draft.Check
import EventMachine.Proofs.Draft.Denotation

/-!
# The passes of validation

Each pass performs a list of checks: it fails exactly with the violation of the first check that
the draft does not meet, and what it returns is denoted by the part of the draft it read.
Performing composes as the passes do, so the whole of validation performs the list of all checks.
-/

namespace EventMachine

open EventMachine.Text

/-- A violation shows a value unless it is about something missing or an empty list. -/
def Violation.ShowsValue (v : Violation) : Prop :=
  v.value = none ↔ v.expectation = .notNull ∨ v.expectation = .notEmpty

namespace Draft

def firstViolation (x : Draft) (cs : List Check) : Option Violation :=
  (cs.find? fun c ↦ !x.meets c).map x.violation

/-- Of two lists of checks, the second matters only where the draft meets the first. -/
theorem firstViolation_append (x : Draft) (cs ds : List Check) :
    x.firstViolation (cs ++ ds) = (x.firstViolation cs).or (x.firstViolation ds) := by
  simp only [firstViolation, List.find?_append]
  cases cs.find? fun c ↦ !x.meets c <;> rfl

theorem firstViolation_cons_of_meets {x : Draft} {c : Check} (h : x.meets c) (cs : List Check) :
    x.firstViolation (c :: cs) = x.firstViolation cs := by
  simp [firstViolation, h]

theorem firstViolation_cons_of_not_meets {x : Draft} {c : Check} (h : x.meets c = false)
    (cs : List Check) : x.firstViolation (c :: cs) = some (x.violation c) := by
  simp [firstViolation, h]

theorem firstViolation_eq_none_iff {x : Draft} {cs : List Check} :
    x.firstViolation cs = none ↔ x.MeetsAll cs := by
  simp [firstViolation, MeetsAll]

variable {α β : Type}

/-- A computation performs checks: it fails with the first violation among them, and what it
returns has the property `Q`. -/
structure Performs (x : Draft) (cs : List Check) (m : Except Violation α) (Q : α → Prop) :
    Prop where
  error_iff : ∀ v, m = .error v ↔ x.firstViolation cs = some v
  showsValue : ∀ v, m = .error v → v.ShowsValue
  of_ok : ∀ a, m = .ok a → Q a

namespace Performs

variable {x : Draft} {cs ds : List Check} {Q : α → Prop} {R : β → Prop}

theorem ok {a : α} (hcs : x.MeetsAll cs) (ha : Q a) : x.Performs cs (.ok a) Q := by
  refine ⟨fun v ↦ ?_, fun _ hv ↦ (nomatch hv), fun b hb ↦ ?_⟩
  · simp [firstViolation_eq_none_iff.mpr hcs]
  · cases hb
    exact ha

theorem error {v : Violation} (h : x.firstViolation cs = some v) (hv : v.ShowsValue) :
    x.Performs cs (.error v) Q := by
  refine ⟨fun w ↦ by simp [h], fun w hw ↦ ?_, fun b hb ↦ by cases hb⟩
  cases hw
  exact hv

theorem error_head {c : Check} (h : x.meets c = false) (hv : (x.violation c).ShowsValue) :
    x.Performs (c :: cs) (.error (x.violation c)) Q :=
  error (firstViolation_cons_of_not_meets h cs) hv

/-- Two computations, one after the other, perform the checks of both. -/
theorem bind {m : Except Violation α} {f : α → Except Violation β} (hm : x.Performs cs m Q)
    (hf : ∀ a, Q a → x.Performs ds (f a) R) : x.Performs (cs ++ ds) (m >>= f) R := by
  cases m with
  | error v =>
      have hv : x.firstViolation cs = some v := (hm.error_iff v).mp rfl
      refine ⟨fun w ↦ ?_, fun w hw ↦ ?_, fun b hb ↦ by cases hb⟩
      · rw [firstViolation_append, hv]
        simp [Bind.bind, Except.bind]
      · cases hw
        exact hm.showsValue v rfl
  | ok a =>
      have hnone : x.firstViolation cs = none := by
        rw [Option.eq_none_iff_forall_ne_some]
        exact fun v hv ↦ nomatch (hm.error_iff v).mpr hv
      have hfa := hf a (hm.of_ok a rfl)
      refine ⟨fun v ↦ ?_, hfa.showsValue, hfa.of_ok⟩
      rw [firstViolation_append, hnone, Option.none_or]
      exact hfa.error_iff v

theorem map {m : Except Violation α} {f : α → β} (hm : x.Performs cs m Q)
    (hf : ∀ a, Q a → R (f a)) : x.Performs cs (m >>= fun a ↦ pure (f a)) R := by
  have h : x.Performs (cs ++ []) (m >>= fun a ↦ pure (f a)) R :=
    hm.bind fun a ha ↦ ok (by simp) (hf a ha)
  rwa [List.append_nil] at h

theorem cons_of_meets {c : Check} {m : Except Violation α} (h : x.meets c)
    (hm : x.Performs cs m Q) : x.Performs (c :: cs) m Q :=
  ⟨fun v ↦ by rw [firstViolation_cons_of_meets h]; exact hm.error_iff v, hm.showsValue, hm.of_ok⟩

/-- A computation returns something exactly when the draft meets all its checks. -/
theorem exists_ok_iff {m : Except Violation α} (hm : x.Performs cs m Q) :
    (∃ a, m = .ok a) ↔ x.MeetsAll cs := by
  rw [← firstViolation_eq_none_iff, Option.eq_none_iff_forall_ne_some]
  simp only [ne_eq, ← hm.error_iff]
  cases m <;> simp

end Performs

/-! ## Single fields -/

variable {x : Draft} {p : Position}

theorem present_performs {o : Option α} (hp : (x.content? p).isSome = o.isSome)
    (hh : o = none → x.hint? ⟨p, .notNull⟩ = none) :
    x.Performs [⟨p, .notNull⟩] (Validation.present p o) (o = some ·) := by
  cases o with
  | none =>
      have hc : x.content? p = none := by simpa using hp
      have hv : x.violation ⟨p, .notNull⟩ = { position := p, expectation := .notNull } := by
        simp [violation, hc, hh rfl]
      rw [Validation.present, ← hv]
      exact .error_head (by rw [meets_notNull, hp]; rfl) (by simp [hv, Violation.ShowsValue])
  | some a => exact .ok (by simp [meets_notNull, hp]) rfl

theorem nonBlank_performs {s : Option String} (hp : x.content? p = s.map .text)
    (hh : s = none → x.hint? ⟨p, .notNull⟩ = none) :
    x.Performs (Check.name p) (Validation.nonBlank p s) (s = some ·) := by
  refine (present_performs (by simp [hp]) hh).bind fun a ha ↦ ?_
  subst ha
  cases hb : blank a with
  | true =>
      have hv : x.violation ⟨p, .notBlank⟩ =
          { position := p, value := some a, expectation := .notBlank } := by
        simp [violation, hp, hint?, Content.shown?]
      rw [if_pos rfl, ← hv]
      exact .error_head (by simp [meets_notBlank hp, hb]) (by simp [hv, Violation.ShowsValue])
  | false => exact .ok (by simp [meets_notBlank hp, hb]) rfl

theorem nonEmpty_performs {as : Option (List α)} (hp : x.content? p = as.map (.list ·.length))
    (hh : x.hint? ⟨p, .notNull⟩ = none) :
    x.Performs (Check.list p) (Validation.nonEmpty p as) (as = some ·) := by
  refine (present_performs (by simp [hp]) fun _ ↦ hh).bind fun bs hbs ↦ ?_
  subst hbs
  by_cases hb : bs = []
  · have hv : x.violation ⟨p, .notEmpty⟩ = { position := p, expectation := .notEmpty } := by
      simp [violation, hp, hint?, Content.shown?]
    rw [if_pos hb, ← hv]
    exact .error_head (by simp [meets_notEmpty hp, hb]) (by simp [hv, Violation.ShowsValue])
  · rw [if_neg hb]
    exact .ok (by simp [meets_notEmpty hp, hb]) rfl

theorem positiveId_performs {n : Option Int64} (hp : x.content? p = n.map (.number ·.toInt))
    (hh : x.hint? ⟨p, .notNull⟩ = none) :
    x.Performs (Check.id p) (Validation.positiveId p n) (IdOf n) := by
  refine (present_performs (by simp [hp]) fun _ ↦ hh).bind fun i hi ↦ ?_
  subst hi
  have hv : ∀ e, x.hint? ⟨p, e⟩ = none → x.violation ⟨p, e⟩ =
      { position := p, value := some (decimalInt i.toInt), expectation := e } := by
    intro e he
    simp [violation, hp, he, Content.shown?]
  by_cases hpos : i.toInt ≤ 0
  · rw [if_pos hpos, ← hv _ rfl]
    exact .error_head (by simpa [meets_greaterThan hp] using hpos)
      (by simp [hv (.greaterThan 0) rfl, Violation.ShowsValue])
  rw [if_neg hpos]
  refine .cons_of_meets (by simpa [meets_greaterThan hp] using hpos) ?_
  by_cases hmax : UInt32.size ≤ i.toInt.toNat
  · rw [if_pos hmax, ← hv _ rfl]
    refine .error_head ?_ (by simp [hv (.atMost _) rfl, Violation.ShowsValue])
    rw [meets_atMost hp, decide_eq_false_iff_not]
    simp only [UInt32.size] at hmax
    omega
  · rw [if_neg hmax]
    simp only [UInt32.size] at hmax
    refine .ok ?_ ?_
    · simp only [meetsAll_cons, meetsAll_nil, and_true, meets_atMost hp, decide_eq_true_eq]
      omega
    · have hmod : i.toInt.toNat % 2 ^ 32 = i.toInt.toNat := Nat.mod_eq_of_lt (by omega)
      rw [IdOf, Option.map_some, UInt32.toNat_ofNat', hmod, Int.toNat_of_nonneg (by omega)]

/-- A reference is a non-blank text that is among the known ones. -/
theorem declared_performs {e : Expectation} {known : List String} {s : Option String}
    (hek : e = .containedInStates ∨ e = .knownTrigger) (hp : x.content? p = s.map .text)
    (hh : s = none → x.hint? ⟨p, .notNull⟩ = none) (he : x.hint? ⟨p, e⟩ = none)
    (hk : ∀ a, s = some a → x.meets ⟨p, e⟩ = decide (a ∈ known)) :
    x.Performs (Check.reference p e) (Validation.declared p e known s) (s = some ·) := by
  refine (nonBlank_performs hp hh).bind fun a ha ↦ ?_
  subst ha
  have hm := hk a rfl
  by_cases ha : a ∈ known
  · rw [if_pos ha]
    exact .ok (by simp [hm, ha]) rfl
  · have hv : x.violation ⟨p, e⟩ = { position := p, value := some a, expectation := e } := by
      simp [violation, hp, he, Content.shown?]
    rw [if_neg ha, ← hv]
    refine .error_head (by simp [hm, ha]) ?_
    rcases hek with rfl | rfl <;> simp [hv, Violation.ShowsValue]

/-! ## Lists -/

/-- A loop over a list performs the checks of its rounds, round after round. -/
theorem checkEachFrom_performs {f : Nat → α → Except Violation β} {cs : Nat → List Check}
    {Q : α → β → Prop} {as : List α} (i : Nat)
    (h : ∀ k a, as[k]? = some a → x.Performs (cs (i + k)) (f (i + k) a) (Q a)) :
    x.Performs ((List.range as.length).flatMap fun k ↦ cs (i + k)) (checkEach f i as)
      (List.Forall₂ Q as) := by
  induction as generalizing i with
  | nil => exact .ok (by simp) .nil
  | cons a as ih =>
      rw [List.length_cons, List.range_succ_eq_map, List.flatMap_cons, List.flatMap_map]
      refine (h 0 a rfl).bind fun b hb ↦ ?_
      have htail := ih (i + 1) fun k a' ha' ↦ by
        rw [Nat.add_right_comm]
        exact h (k + 1) a' ha'
      simp only [Nat.add_right_comm i 1] at htail
      exact htail.map fun bs hbs ↦ .cons hb hbs

theorem checkEach_performs {f : Nat → α → Except Violation β} {cs : Nat → List Check}
    {Q : α → β → Prop} {as : List α}
    (h : ∀ k a, as[k]? = some a → x.Performs (cs k) (f k a) (Q a)) :
    x.Performs ((List.range as.length).flatMap cs) (checkEach f 0 as) (List.Forall₂ Q as) := by
  have h₀ : x.Performs ((List.range as.length).flatMap fun k ↦ cs (0 + k)) (checkEach f 0 as)
      (List.Forall₂ Q as) := checkEachFrom_performs 0 fun k a ha ↦ by
    rw [Nat.zero_add]
    exact h k a ha
  simpa only [Nat.zero_add] using h₀

section Distinct

variable {κ : Type} {position : Nat → Position} {content : κ → Option Content} {keys : List κ}

/-- Before the first repetition all contents are unique. -/
theorem Lists.meets_unique_of_lt (h : x.Lists position content keys) {i j : Nat} (hji : j < i)
    (hi : i < keys.length) (hn : (keys.take i).Nodup) : x.meets ⟨position j, .unique⟩ := by
  rw [h.meets_unique_iff (Nat.lt_trans hji hi)]
  intro k hr
  exact absurd (nodup_take_iff.mp hn j k hr) (Nat.not_le_of_lt hji)

/-- The hint of a repetition names the only earlier occurrence. -/
theorem Lists.hint_unique (h : x.Lists position content keys) {i j : Nat}
    (hn : (keys.take i).Nodup) (hr : Repeats keys i j) :
    x.hint? ⟨position i, .unique⟩ = some (Hint.same (position j)) := by
  have hi : i < keys.length := hr.lt_length
  obtain ⟨hji, heq⟩ := (repeats_iff hi).mp hr
  have hfind : (List.range i).find? (fun j ↦
      decide (x.content? (position j) = x.content? (position i))) = some j := by
    rw [List.find?_range_eq_some]
    refine ⟨?_, List.mem_range.mpr hji, fun k hk ↦ ?_⟩
    · simpa [h.content_eq_iff hi (Nat.lt_trans hji hi)] using heq
    · have hki : k < i := Nat.lt_trans hk hji
      have hne : keys[k]? ≠ keys[i]? := fun heq' ↦
        Nat.ne_of_lt hk (hr.eq_of_nodup_take hn ((repeats_iff hi).mpr ⟨hki, heq'⟩))
      simpa [h.content_eq_iff hi (Nat.lt_trans hki hi)] using hne
  simp only [hint?, h.earlier_eq, List.find?_map, Function.comp_def, hfind, Option.map_some]

variable [DecidableEq κ]

/-- Distinctness is checked by looking for the first repetition. -/
theorem distinct_performs (hint : Nat → Hint) (text : κ → String)
    (h : x.Lists position content keys)
    (hshown : ∀ k, (content k).bind Content.shown? = some (text k))
    (hhint : ∀ i, Hint.same (position i) = hint i) :
    x.Performs (Check.distinct position keys.length)
      (Validation.distinct position hint text keys) fun _ ↦ keys.Nodup := by
  rw [Validation.distinct]
  cases hd : firstDuplicate keys with
  | none =>
      have hnodup := firstDuplicate_eq_none_iff.mp hd
      exact .ok (h.meetsAll_distinct_iff.mpr hnodup) hnodup
  | some ij =>
      obtain ⟨i, j⟩ := ij
      obtain ⟨htake, hr⟩ := firstDuplicate_eq_some hd
      have hlt : i < keys.length := hr.lt_length
      have hi : keys[i]? = some keys[i] := List.getElem?_eq_getElem hlt
      have hfails : x.meets ⟨position i, .unique⟩ = false := by
        rw [Bool.eq_false_iff, ne_eq, h.meets_unique_iff hlt]
        exact fun hall ↦ hall j hr
      have hfind : (List.range keys.length).find? (fun i ↦ !x.meets ⟨position i, .unique⟩) =
          some i := by
        rw [List.find?_range_eq_some]
        refine ⟨by simp [hfails], List.mem_range.mpr hlt, fun i' hi' ↦ ?_⟩
        simp [h.meets_unique_of_lt hi' hlt htake]
      have hv : x.violation ⟨position i, .unique⟩ =
          { position := position i
            value := keys[i]?.map text
            expectation := .unique
            hint := some (hint j) } := by
        rw [violation, h.hint_unique htake hr, h.content_eq i _ hi, hi, hshown, hhint,
          Option.map_some]
      refine .error ?_ (by simp [hi, Violation.ShowsValue])
      simp only [firstViolation, Check.distinct, List.find?_map, Function.comp_def, hfind,
        Option.map_some, hv]

end Distinct

/-- Names read off a list of records are a listing of the positions they were read at. -/
theorem lists_texts {ρ τ : Type} {R : ρ → τ → Prop} {rs : List ρ} {ts : List τ}
    {position : Nat → Position} {name : τ → String} (h : List.Forall₂ R rs ts)
    (hc : ∀ i r t, rs[i]? = some r → R r t → x.content? (position i) = some (.text (name t)))
    (he : ∀ i, (position i).earlier = (List.range i).map position) :
    x.Lists position (some ∘ .text) (ts.map name) where
  content_eq i k hk := by
    rw [List.getElem?_map, Option.map_eq_some_iff] at hk
    obtain ⟨t, ht, rfl⟩ := hk
    obtain ⟨r, hr, hrt⟩ := exists_getElem?_of_forall₂ h ht
    exact hc i r t hr hrt
  isSome _ _ := rfl
  injOn _ _ _ _ hk := Content.text.inj (Option.some.inj hk)
  earlier_eq := he

/-! ## Triggers -/

theorem trigger_performs {i : Nat} {t : Draft.Trigger} (h : x.triggerAt i = some t) :
    x.Performs (Check.trigger i) (Validation.trigger i t) (Trigger.Denotes t) := by
  apply (nonBlank_performs (content?_triggerName h) fun _ ↦ rfl).bind
  intro name hname
  apply (positiveId_performs (content?_triggerSource h) rfl).bind
  intro source hsource
  apply (nonBlank_performs (content?_triggerPayload h) fun _ ↦ rfl).map
  intro payload hpayload
  exact ⟨hname, hsource, hpayload⟩

section

variable {ts : List EventMachine.Trigger}

theorem lists_triggerNames (h : List.Forall₂ Trigger.Denotes (x.triggers.getD []) ts) :
    x.Lists .triggerName (some ∘ .text) (ts.map (·.name)) :=
  lists_texts h (fun i r t hr hrt ↦ by rw [content?_triggerName hr, hrt.name]; rfl) fun _ ↦ rfl

def eventContent (e : UInt32 × String) : Content := .event e.1.toNat e.2

/-- An event shows its source and payload unabridged, so different events have different
contents. -/
theorem eventContent_inj {e e' : UInt32 × String} (h : eventContent e = eventContent e') :
    e = e' := by
  obtain ⟨hs, hp⟩ := Content.event.inj h
  exact Prod.ext (UInt32.toNat_inj.mp (by exact_mod_cast hs)) hp

theorem lists_triggerEvents (h : List.Forall₂ Trigger.Denotes (x.triggers.getD []) ts) :
    x.Lists .triggerEvent (some ∘ eventContent) (ts.map fun t ↦ (t.source, t.payload)) where
  content_eq i k hk := by
    rw [List.getElem?_map, Option.map_eq_some_iff] at hk
    obtain ⟨t, ht, rfl⟩ := hk
    obtain ⟨r, hr, hrt⟩ := exists_getElem?_of_forall₂ h ht
    obtain ⟨n, hn, hnt⟩ := Option.map_eq_some_iff.mp hrt.source
    simp [content?, triggerAt, hr, hn, hrt.payload, hnt, eventContent]
  isSome _ _ := rfl
  injOn _ _ _ _ hk := eventContent_inj (Option.some.inj hk)
  earlier_eq i := rfl

theorem triggerNames_eq (h : List.Forall₂ Trigger.Denotes (x.triggers.getD []) ts) :
    x.triggerNames = ts.map (·.name) :=
  filterMap_eq_map_of_forall₂ (h.imp fun _ _ ht ↦ ht.name)

end

/-- The pass over the triggers: each of them first, then the names, then the events. -/
theorem triggers_performs (x : Draft) :
    x.Performs x.triggerChecks (Validation.triggers x)
      (List.Forall₂ Trigger.Denotes (x.triggers.getD [])) := by
  refine (nonEmpty_performs rfl rfl).bind fun rs hrs ↦ ?_
  have hlist : x.triggers.getD [] = rs := by simp [hrs]
  have heach : x.Performs ((List.range rs.length).flatMap Check.trigger)
      (checkEach Validation.trigger 0 rs) (List.Forall₂ Trigger.Denotes rs) :=
    checkEach_performs fun k t ht ↦ trigger_performs (by rw [triggerAt, hlist, ht])
  rw [hlist]
  refine heach.bind fun ts hts ↦ ?_
  have hlen : rs.length = ts.length := hts.length_eq
  have hts' : List.Forall₂ Trigger.Denotes (x.triggers.getD []) ts := by rwa [hlist]
  have hnames := distinct_performs (fun i ↦ .sameAs (.triggerName i)) (fun s : String ↦ s)
    (lists_triggerNames hts') (fun _ ↦ rfl) fun _ ↦ rfl
  have hevents := distinct_performs .sameEventAs Validation.eventText (lists_triggerEvents hts')
    (fun _ ↦ rfl) fun _ ↦ rfl
  rw [List.length_map, ← hlen] at hnames hevents
  exact hnames.bind fun _ _ ↦ hevents.map fun _ _ ↦ hts

/-! ## Behaviors and states -/

theorem behavior_performs {l : BehaviorList} {j : Nat} {b : Draft.Behavior}
    (h : (x.behaviorsOf l)[j]? = some b) :
    x.Performs (Check.behavior l j) (Validation.behavior l j b) (Behavior.Denotes b) := by
  apply (positiveId_performs (content?_device h) rfl).bind
  intro device hdevice
  apply (nonBlank_performs (content?_command h) fun _ ↦ rfl).map
  intro command hcommand
  exact ⟨hdevice, hcommand⟩

theorem behaviors_performs {l : BehaviorList} {bs : Option (List Draft.Behavior)}
    (h : x.behaviorsOf l = bs.getD []) :
    x.Performs (x.behaviorChecks l) (Validation.behaviors l bs) (BehaviorsDenote bs) := by
  rw [behaviorChecks, h]
  exact checkEach_performs fun j b hb ↦ behavior_performs (by rw [h, hb])

theorem stateHead_performs {i : Nat} {s : Draft.State} (h : x.stateAt i = some s) :
    x.Performs (x.headChecks i) (Validation.stateHead i s) (State.HeadDenotes s) := by
  apply (nonBlank_performs (content?_stateName h) fun _ ↦ rfl).bind
  intro name hname
  apply (behaviors_performs (behaviorsOf_onEntry h)).bind
  intro onEntry hentry
  apply (behaviors_performs (behaviorsOf_onExit h)).map
  intro onExit hexit
  exact ⟨hname, hentry, hexit⟩

section

variable {ss : List EventMachine.State}

theorem lists_stateNames (h : List.Forall₂ State.HeadDenotes (x.states.getD []) ss) :
    x.Lists .stateName (some ∘ .text) (ss.map (·.name)) :=
  lists_texts h (fun i r s hr hrs ↦ by rw [content?_stateName hr, hrs.name]; rfl) fun _ ↦ rfl

theorem stateNames_eq (h : List.Forall₂ State.HeadDenotes (x.states.getD []) ss) :
    x.stateNames = ss.map (·.name) :=
  filterMap_eq_map_of_forall₂ (h.imp fun _ _ hs ↦ hs.name)

end

/-- The pass over the states without their transitions, which may name states further down. -/
theorem stateHeads_performs (x : Draft) :
    x.Performs x.stateChecks (Validation.stateHeads x)
      (List.Forall₂ State.HeadDenotes (x.states.getD [])) := by
  refine (nonEmpty_performs rfl rfl).bind fun rs hrs ↦ ?_
  have hlist : x.states.getD [] = rs := by simp [hrs]
  have heach : x.Performs ((List.range rs.length).flatMap x.headChecks)
      (checkEach Validation.stateHead 0 rs) (List.Forall₂ State.HeadDenotes rs) :=
    checkEach_performs fun k s hs ↦ stateHead_performs (by rw [stateAt, hlist, hs])
  rw [hlist]
  refine heach.bind fun ss hss ↦ ?_
  have hlen : rs.length = ss.length := hss.length_eq
  have hss' : List.Forall₂ State.HeadDenotes (x.states.getD []) ss := by rwa [hlist]
  have hnames := distinct_performs (fun i ↦ .sameAs (.stateName i)) (fun s : String ↦ s)
    (lists_stateNames hss') (fun _ ↦ rfl) fun _ ↦ rfl
  rw [List.length_map, ← hlen] at hnames
  exact hnames.map fun _ _ ↦ hss

/-! ## Transitions -/

/-- The check of one transition, with the triggers and states that are declared by then. -/
theorem transition_performs {i k : Nat} {t : Draft.Transition} (h : x.transitionAt i k = some t) :
    x.Performs (x.transitionChecks i k) (Validation.transition x.triggerNames x.stateNames i k t)
      (Transition.Denotes t) := by
  have htrigger := content?_transitionTrigger h
  have htarget := content?_transitionTarget h
  have hany : (x.transitionAt i k).any (·.isIgnored) = t.isIgnored := by simp [h]
  have hknown : ∀ a, t.trigger = some a →
      x.meets ⟨.transitionTrigger i k, .knownTrigger⟩ = decide (a ∈ x.triggerNames) := by
    intro a ha
    exact meets_knownTrigger (by rw [htrigger, ha]; rfl)
  have hdeclared : ∀ a, t.target = some a →
      x.meets ⟨.transitionTarget i k, .containedInStates⟩ = decide (a ∈ x.stateNames) := by
    intro a ha
    exact meets_containedInStates (by rw [htarget, ha]; rfl)
  apply (declared_performs (.inr rfl) htrigger (fun _ ↦ rfl) rfl hknown).bind
  intro trigger ht
  rw [hany]
  cases hi : t.isIgnored with
  | true => exact .ok (by simp) ⟨ht, fun _ ↦ rfl, fun hf ↦ by simp [hi] at hf⟩
  | false =>
      rw [if_neg Bool.false_ne_true, if_neg Bool.false_ne_true]
      by_cases hnone : t.target = none
      · have hc : x.content? (.transitionTarget i k) = none := by rw [htarget, hnone]; rfl
        have hv : x.violation ⟨.transitionTarget i k, .notNull⟩ =
            { position := .transitionTarget i k
              expectation := .notNull
              hint := some .ignoreInstead } := by
          simp [violation, hc, hint?]
        rw [if_pos hnone, ← hv]
        exact .error_head (by simp [meets_notNull, hc]) (by simp [hv, Violation.ShowsValue])
      · rw [if_neg hnone]
        apply (declared_performs (.inl rfl) htarget (fun hn ↦ absurd hn hnone) rfl hdeclared).bind
        intro target hta
        apply (behaviors_performs (behaviorsOf_effects h)).map
        intro effects he
        exact ⟨ht, fun hf ↦ by simp [hi] at hf, fun _ ↦ ⟨target, effects, rfl, hta, he⟩⟩

theorem lists_transitionTriggers {i : Nat} {ts : List EventMachine.Transition}
    (h : List.Forall₂ Transition.Denotes (x.transitionsOf i) ts) :
    x.Lists (.transitionTrigger i) (some ∘ .text) (ts.map (·.trigger)) :=
  lists_texts h (fun k r t hr hrt ↦ by rw [content?_transitionTrigger hr, hrt.trigger]; rfl)
    fun _ ↦ rfl

/-- The pass over the transitions of a state: each of them first, then their triggers. -/
theorem transitions_performs {i : Nat} {s : Draft.State} (h : x.stateAt i = some s) :
    x.Performs (x.reactionChecks i) (Validation.transitions x.triggerNames x.stateNames i s)
      (State.TransitionsDenote s) := by
  have hlist := transitionsOf_eq h
  have heach : x.Performs
      ((List.range (x.transitionsOf i).length).flatMap (x.transitionChecks i))
      (checkEach (Validation.transition x.triggerNames x.stateNames i) 0 (x.transitionsOf i))
      (List.Forall₂ Transition.Denotes (x.transitionsOf i)) :=
    checkEach_performs fun k t ht ↦ transition_performs ht
  rw [Validation.transitions, ← hlist]
  refine heach.bind fun ts hts ↦ ?_
  have hnames := distinct_performs (fun k ↦ .sameAs (.transitionTrigger i k))
    (fun s : String ↦ s) (lists_transitionTriggers hts) (fun _ ↦ rfl) fun _ ↦ rfl
  rw [List.length_map, ← hts.length_eq] at hnames
  exact hnames.map fun _ _ ↦ by rwa [State.TransitionsDenote, ← hlist]

/-! ## The whole draft -/

theorem initialState_performs (x : Draft) :
    x.Performs Check.initialState
      (Validation.declared .initialState .containedInStates x.stateNames x.initialState)
      (x.initialState = some ·) :=
  declared_performs (.inl rfl) rfl (fun _ ↦ rfl) rfl fun a ha ↦
    meets_containedInStates (by rw [content?, ha]; rfl)

theorem finalState_performs {i : Nat} {s : Option String}
    (h : (x.finalStates.getD [])[i]? = some s) :
    x.Performs (Check.finalState i) (Validation.finalState x.stateNames i s) (s = some ·) := by
  apply declared_performs (.inl rfl) (content?_finalState h) (fun _ ↦ rfl) rfl
  intro a ha
  exact meets_containedInStates (by rw [content?_finalState h, ha]; rfl)

/-- Validation performs all checks in order, and gives the description that the draft denotes. -/
theorem validate_performs (x : Draft) : x.Performs x.checks x.validate x.Denotes := by
  apply x.triggers_performs.bind
  intro ts hts
  apply x.stateHeads_performs.bind
  intro ss hss
  rw [← triggerNames_eq hts, ← stateNames_eq hss]
  have htransitions : x.Performs
      ((List.range (x.states.getD []).length).flatMap x.reactionChecks)
      (checkEach (Validation.transitions x.triggerNames x.stateNames) 0 (x.states.getD []))
      (List.Forall₂ State.TransitionsDenote (x.states.getD [])) :=
    checkEach_performs fun i s hs ↦ transitions_performs hs
  have hfinals : x.Performs
      ((List.range (x.finalStates.getD []).length).flatMap Check.finalState)
      (checkEach (Validation.finalState x.stateNames) 0 (x.finalStates.getD []))
      (List.Forall₂ (fun s a ↦ s = some a) (x.finalStates.getD [])) :=
    checkEach_performs fun i s hs ↦ finalState_performs hs
  apply htransitions.bind
  intro tss htss
  apply x.initialState_performs.bind
  intro initialState hi
  apply hfinals.map
  intro finalStates hf
  have hfinals' : x.finalStates.getD [] = finalStates.map some :=
    List.forall₂_eq_eq_eq ▸ List.forall₂_map_right_iff.mpr hf
  exact ⟨hi, hfinals', hts, State.denotes_zipWith hss htss, rfl⟩

end Draft

end EventMachine
