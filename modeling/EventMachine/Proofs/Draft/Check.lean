import EventMachine.Proofs.FirstDuplicate

/-!
# The checks of a draft

All conditions that a draft has to meet, one by one and in order.  A check is a position with what
is expected there.  Whether it is met is read off what the draft holds at the position, and so is
the violation that reports it.
-/

namespace EventMachine

open EventMachine.Text

inductive Content
  | text (s : String)
  | number (n : Int)
  | list (length : Nat)
  | event (source : Int) (payload : String)
  deriving DecidableEq, Repr

/-- A content as violations show it; of a list nothing is shown. -/
def Content.shown? : Content → Option String
  | text s => some s
  | number n => some (decimalInt n)
  | list _ => none
  | event source payload => some ("(" ++ decimalInt source ++ "/" ++ payload ++ ")")

structure Check where
  position : Position
  expectation : Expectation
  deriving DecidableEq, Repr

/-- The positions among which the content of a position has to be unique, as far as they come
before it. -/
def Position.earlier : Position → List Position
  | triggerName i => (List.range i).map triggerName
  | triggerEvent i => (List.range i).map triggerEvent
  | stateName i => (List.range i).map stateName
  | transitionTrigger i k => (List.range k).map (transitionTrigger i)
  | _ => []

def Hint.same : Position → Hint
  | .triggerEvent i => .sameEventAs i
  | p => .sameAs p

namespace Draft

/-! ## What stands where -/

def triggerAt (x : Draft) (i : Nat) : Option Draft.Trigger := (x.triggers.getD [])[i]?

def stateAt (x : Draft) (i : Nat) : Option Draft.State := (x.states.getD [])[i]?

def transitionsOf (x : Draft) (i : Nat) : List Draft.Transition :=
  ((x.stateAt i).bind (·.transitions)).getD []

def transitionAt (x : Draft) (i k : Nat) : Option Draft.Transition := (x.transitionsOf i)[k]?

def behaviorsOf (x : Draft) : BehaviorList → List Draft.Behavior
  | .onEntry i => ((x.stateAt i).bind (·.onEntry)).getD []
  | .onExit i => ((x.stateAt i).bind (·.onExit)).getD []
  | .effects i k => ((x.transitionAt i k).bind (·.effects)).getD []

def content? (x : Draft) : Position → Option Content
  | .triggers => x.triggers.map fun ts ↦ .list ts.length
  | .triggerName i => ((x.triggerAt i).bind (·.name)).map .text
  | .triggerSource i => ((x.triggerAt i).bind (·.source)).map fun n ↦ .number n.toInt
  | .triggerPayload i => ((x.triggerAt i).bind (·.payload)).map .text
  | .triggerEvent i =>
    (x.triggerAt i).bind fun t ↦ t.source.bind fun n ↦ t.payload.map fun s ↦ .event n.toInt s
  | .states => x.states.map fun ss ↦ .list ss.length
  | .stateName i => ((x.stateAt i).bind (·.name)).map .text
  | .device l j => ((x.behaviorsOf l)[j]?.bind (·.device)).map fun n ↦ .number n.toInt
  | .command l j => ((x.behaviorsOf l)[j]?.bind (·.command)).map .text
  | .transitionTrigger i k => ((x.transitionAt i k).bind (·.trigger)).map .text
  | .transitionTarget i k => ((x.transitionAt i k).bind (·.target)).map .text
  | .initialState => x.initialState.map .text
  | .finalState i => (x.finalStates.getD [])[i]?.join.map .text

section

variable {x : Draft} {i j k : Nat}

theorem content?_triggerName {t : Draft.Trigger} (h : x.triggerAt i = some t) :
    x.content? (.triggerName i) = t.name.map .text := by simp [content?, h]

theorem content?_triggerSource {t : Draft.Trigger} (h : x.triggerAt i = some t) :
    x.content? (.triggerSource i) = t.source.map (.number ·.toInt) := by simp [content?, h]

theorem content?_triggerPayload {t : Draft.Trigger} (h : x.triggerAt i = some t) :
    x.content? (.triggerPayload i) = t.payload.map .text := by simp [content?, h]

theorem content?_device {l : BehaviorList} {b : Draft.Behavior}
    (h : (x.behaviorsOf l)[j]? = some b) :
    x.content? (.device l j) = b.device.map (.number ·.toInt) := by simp [content?, h]

theorem content?_command {l : BehaviorList} {b : Draft.Behavior}
    (h : (x.behaviorsOf l)[j]? = some b) :
    x.content? (.command l j) = b.command.map .text := by simp [content?, h]

theorem content?_stateName {s : Draft.State} (h : x.stateAt i = some s) :
    x.content? (.stateName i) = s.name.map .text := by simp [content?, h]

theorem behaviorsOf_onEntry {s : Draft.State} (h : x.stateAt i = some s) :
    x.behaviorsOf (.onEntry i) = s.onEntry.getD [] := by simp [behaviorsOf, h]

theorem behaviorsOf_onExit {s : Draft.State} (h : x.stateAt i = some s) :
    x.behaviorsOf (.onExit i) = s.onExit.getD [] := by simp [behaviorsOf, h]

theorem transitionsOf_eq {s : Draft.State} (h : x.stateAt i = some s) :
    x.transitionsOf i = s.transitions.getD [] := by simp [transitionsOf, h]

theorem content?_transitionTrigger {t : Draft.Transition} (h : x.transitionAt i k = some t) :
    x.content? (.transitionTrigger i k) = t.trigger.map .text := by simp [content?, h]

theorem content?_transitionTarget {t : Draft.Transition} (h : x.transitionAt i k = some t) :
    x.content? (.transitionTarget i k) = t.target.map .text := by simp [content?, h]

theorem behaviorsOf_effects {t : Draft.Transition} (h : x.transitionAt i k = some t) :
    x.behaviorsOf (.effects i k) = t.effects.getD [] := by simp [behaviorsOf, h]

theorem content?_finalState {f : Option String} (h : (x.finalStates.getD [])[i]? = some f) :
    x.content? (.finalState i) = f.map .text := by simp [content?, h]

end

def triggerNames (x : Draft) : List String := (x.triggers.getD []).filterMap (·.name)

def stateNames (x : Draft) : List String := (x.states.getD []).filterMap (·.name)

/-! ## Meeting a check -/

/-- Whether a draft meets a check.  Nothing but presence is met by what is missing. -/
def meets (x : Draft) (c : Check) : Bool :=
  match c.expectation, x.content? c.position with
  | .notNull, some _ => true
  | .notBlank, some (.text s) => !blank s
  | .notEmpty, some (.list n) => n != 0
  | .greaterThan m, some (.number n) => decide (m < n)
  | .atMost m, some (.number n) => decide (n ≤ m)
  | .containedInStates, some (.text s) => decide (s ∈ x.stateNames)
  | .knownTrigger, some (.text s) => decide (s ∈ x.triggerNames)
  | .unique, some a => c.position.earlier.all fun q ↦ decide (x.content? q ≠ some a)
  | _, _ => false

section

variable {x : Draft} {p : Position} {s : String} {n : Int}

theorem meets_notNull (p : Position) : x.meets ⟨p, .notNull⟩ = (x.content? p).isSome := by
  cases h : x.content? p <;> simp [meets, h]

theorem meets_notBlank (h : x.content? p = some (.text s)) :
    x.meets ⟨p, .notBlank⟩ = !blank s := by simp [meets, h]

theorem meets_notEmpty {n : Nat} (h : x.content? p = some (.list n)) :
    x.meets ⟨p, .notEmpty⟩ = (n != 0) := by simp [meets, h]

theorem meets_greaterThan (h : x.content? p = some (.number n)) (m : Int) :
    x.meets ⟨p, .greaterThan m⟩ = decide (m < n) := by simp [meets, h]

theorem meets_atMost (h : x.content? p = some (.number n)) (m : Int) :
    x.meets ⟨p, .atMost m⟩ = decide (n ≤ m) := by simp [meets, h]

theorem meets_containedInStates (h : x.content? p = some (.text s)) :
    x.meets ⟨p, .containedInStates⟩ = decide (s ∈ x.stateNames) := by simp [meets, h]

theorem meets_knownTrigger (h : x.content? p = some (.text s)) :
    x.meets ⟨p, .knownTrigger⟩ = decide (s ∈ x.triggerNames) := by simp [meets, h]

/-- Unique means that no earlier position of the same kind holds the same content. -/
theorem meets_unique_iff {a : Content} (h : x.content? p = some a) :
    x.meets ⟨p, .unique⟩ ↔ ∀ q ∈ p.earlier, x.content? q ≠ some a := by simp [meets, h]

end

def MeetsAll (x : Draft) (cs : List Check) : Prop := ∀ c ∈ cs, x.meets c

@[simp] theorem meetsAll_nil (x : Draft) : x.MeetsAll [] := by simp [MeetsAll]

@[simp] theorem meetsAll_cons (x : Draft) (c : Check) (cs : List Check) :
    x.MeetsAll (c :: cs) ↔ x.meets c ∧ x.MeetsAll cs := by simp [MeetsAll]

@[simp] theorem meetsAll_append (x : Draft) (cs ds : List Check) :
    x.MeetsAll (cs ++ ds) ↔ x.MeetsAll cs ∧ x.MeetsAll ds := by
  simp [MeetsAll, or_imp, forall_and]

/-- The hint that goes with an unmet check: the first position with the same content, or that a
transition without a target may be ignored instead. -/
def hint? (x : Draft) (c : Check) : Option Hint :=
  match c.expectation, c.position with
  | .unique, p => (p.earlier.find? fun q ↦ decide (x.content? q = x.content? p)).map Hint.same
  | .notNull, .transitionTarget _ _ => some .ignoreInstead
  | _, _ => none

def violation (x : Draft) (c : Check) : Violation where
  position := c.position
  value := (x.content? c.position).bind Content.shown?
  expectation := c.expectation
  hint := x.hint? c

end Draft

/-! ## The list of all checks -/

namespace Check

def name (p : Position) : List Check := [⟨p, .notNull⟩, ⟨p, .notBlank⟩]

def id (p : Position) : List Check :=
  [⟨p, .notNull⟩, ⟨p, .greaterThan 0⟩, ⟨p, .atMost 4294967295⟩]

def reference (p : Position) (e : Expectation) : List Check := name p ++ [⟨p, e⟩]

def list (p : Position) : List Check := [⟨p, .notNull⟩, ⟨p, .notEmpty⟩]

def distinct (p : Nat → Position) (n : Nat) : List Check :=
  (List.range n).map fun i ↦ ⟨p i, .unique⟩

def trigger (i : Nat) : List Check :=
  name (.triggerName i) ++ (id (.triggerSource i) ++ name (.triggerPayload i))

def behavior (l : BehaviorList) (j : Nat) : List Check := id (.device l j) ++ name (.command l j)

def initialState : List Check := reference .initialState .containedInStates

def finalState (i : Nat) : List Check := reference (.finalState i) .containedInStates

end Check

namespace Draft

def behaviorChecks (x : Draft) (l : BehaviorList) : List Check :=
  (List.range (x.behaviorsOf l).length).flatMap (Check.behavior l)

def triggerChecks (x : Draft) : List Check :=
  let n := (x.triggers.getD []).length
  Check.list .triggers ++ ((List.range n).flatMap Check.trigger ++
    (Check.distinct .triggerName n ++ Check.distinct .triggerEvent n))

def headChecks (x : Draft) (i : Nat) : List Check :=
  Check.name (.stateName i) ++ (x.behaviorChecks (.onEntry i) ++ x.behaviorChecks (.onExit i))

def stateChecks (x : Draft) : List Check :=
  let n := (x.states.getD []).length
  Check.list .states ++ ((List.range n).flatMap x.headChecks ++ Check.distinct .stateName n)

/-- Of an ignored transition only the trigger is checked. -/
def transitionChecks (x : Draft) (i k : Nat) : List Check :=
  Check.reference (.transitionTrigger i k) .knownTrigger ++
    if (x.transitionAt i k).any (·.isIgnored) then []
    else Check.reference (.transitionTarget i k) .containedInStates ++
      x.behaviorChecks (.effects i k)

def reactionChecks (x : Draft) (i : Nat) : List Check :=
  let n := (x.transitionsOf i).length
  (List.range n).flatMap (x.transitionChecks i) ++ Check.distinct (.transitionTrigger i) n

/-- All checks of a draft in order: the triggers, the names and behaviors of all states, the
transitions of all states, the initial state and the final states. -/
def checks (x : Draft) : List Check :=
  x.triggerChecks ++ (x.stateChecks ++
    ((List.range (x.states.getD []).length).flatMap x.reactionChecks ++
      (Check.initialState ++
        (List.range (x.finalStates.getD []).length).flatMap Check.finalState)))

/-! ## Distinct contents -/

section Distinct

variable {κ : Type} {x : Draft} {position : Nat → Position} {content : κ → Option Content}
  {keys : List κ}

/-- The keys stand in the draft at the positions, in their order. -/
structure Lists (x : Draft) (position : Nat → Position) (content : κ → Option Content)
    (keys : List κ) : Prop where
  content_eq : ∀ i k, keys[i]? = some k → x.content? (position i) = content k
  isSome : ∀ k ∈ keys, (content k).isSome
  injOn : ∀ k ∈ keys, ∀ k' ∈ keys, content k = content k' → k = k'
  earlier_eq : ∀ i, (position i).earlier = (List.range i).map position

theorem Lists.content_eq_iff (h : x.Lists position content keys) {i j : Nat}
    (hi : i < keys.length) (hj : j < keys.length) :
    x.content? (position j) = x.content? (position i) ↔ keys[j]? = keys[i]? := by
  have hki : keys[i]? = some keys[i] := List.getElem?_eq_getElem hi
  have hkj : keys[j]? = some keys[j] := List.getElem?_eq_getElem hj
  rw [h.content_eq i _ hki, h.content_eq j _ hkj, hki, hkj, Option.some_inj]
  exact ⟨h.injOn _ (List.getElem_mem hj) _ (List.getElem_mem hi), congrArg content⟩

/-- The check for uniqueness at a position is met where its key repeats no earlier one. -/
theorem Lists.meets_unique_iff (h : x.Lists position content keys) {i : Nat}
    (hi : i < keys.length) : x.meets ⟨position i, .unique⟩ ↔ ∀ j, ¬Repeats keys i j := by
  have hc := h.content_eq i _ (List.getElem?_eq_getElem hi)
  obtain ⟨a, ha⟩ := Option.isSome_iff_exists.mp (h.isSome _ (List.getElem_mem hi))
  rw [Draft.meets_unique_iff (hc.trans ha), ← hc.trans ha, h.earlier_eq]
  simp only [List.mem_map, List.mem_range, forall_exists_index, and_imp,
    forall_apply_eq_imp_iff₂]
  refine forall_congr' fun j ↦ ?_
  rw [repeats_iff hi, not_and]
  exact imp_congr_right fun hj ↦ not_congr (h.content_eq_iff hi (Nat.lt_trans hj hi))

/-- All uniqueness checks of a listing together say that its keys are distinct. -/
theorem Lists.meetsAll_distinct_iff (h : x.Lists position content keys) :
    x.MeetsAll (Check.distinct position keys.length) ↔ keys.Nodup := by
  rw [nodup_iff_not_repeats]
  simp only [MeetsAll, Check.distinct, List.mem_map, List.mem_range, forall_exists_index, and_imp,
    forall_apply_eq_imp_iff₂]
  constructor
  · intro hall i j hr
    exact (h.meets_unique_iff hr.lt_length).mp (hall i hr.lt_length) j hr
  · intro hn i hi
    exact (h.meets_unique_iff hi).mpr (hn i)

end Distinct

end Draft

end EventMachine
