import EventMachine.Proofs.Compilation.Calls
import EventMachine.Proofs.Description.Reachable

/-!
# Ignored transitions

Of an ignored transition only the trigger counts.  What it says about a target and about effects
makes no difference to validation, to compilation or to a run; all it adds to is the list of
required devices, and the canonical text with its checksum.
-/

namespace EventMachine

theorem checkEach_map {α β γ : Type} (f : Nat → β → Except Violation γ) (g : α → β) (i : Nat)
    (as : List α) : checkEach f i (as.map g) = checkEach (fun k a ↦ f k (g a)) i as := by
  induction as generalizing i with
  | nil => rfl
  | cons a as ih => simp only [List.map_cons, checkEach, ih]

theorem nonEmpty_map {α β : Type} (p : Position) (f : α → β) (as : Option (List α)) :
    Validation.nonEmpty p (as.map (List.map f)) = List.map f <$> Validation.nonEmpty p as := by
  rcases as with _ | _ | ⟨a, as⟩ <;> rfl

/-- The description as if it came of another draft. -/
def Description.withDraft (y : Draft) (d : Description) : Description := { d with draft := y }

namespace Draft

/-- The transition without the target and the effects if it is ignored. -/
def Transition.bare (t : Transition) : Transition :=
  if t.isIgnored then { t with target := none, effects := none } else t

def State.bare (s : State) : State :=
  { s with transitions := s.transitions.map (·.map Transition.bare) }

/-- What is left of a draft without the targets and the effects of its ignored transitions. -/
def bare (x : Draft) : Draft := { x with states := x.states.map (·.map State.bare) }

/-! ## Validation -/

/-- The check of a transition looks at neither the target nor the effects of an ignored one. -/
theorem transition_bare (triggers states : List String) (i k : Nat) (t : Transition) :
    Validation.transition triggers states i k t.bare =
      Validation.transition triggers states i k t := by
  rw [Transition.bare]
  by_cases h : t.isIgnored = true
  · rw [if_pos h]
    have hbare : Transition.isIgnored { t with target := none, effects := none } = true := h
    simp only [Validation.transition, h, hbare, if_true]
  · rw [if_neg h]

theorem transitions_bare (triggers states : List String) (i : Nat) (s : State) :
    Validation.transitions triggers states i s.bare =
      Validation.transitions triggers states i s := by
  have hbare : s.bare.transitions.getD [] = (s.transitions.getD []).map Transition.bare := by
    rw [State.bare]
    cases s.transitions <;> rfl
  simp only [Validation.transitions, hbare, checkEach_map, transition_bare]

theorem states_bare (x : Draft) : x.bare.states.getD [] = (x.states.getD []).map State.bare := by
  rw [bare]
  cases x.states <;> rfl

theorem stateHeads_bare (x : Draft) : Validation.stateHeads x.bare = Validation.stateHeads x := by
  have hhead (i : Nat) (s : State) : Validation.stateHead i s.bare = Validation.stateHead i s := rfl
  simp only [Validation.stateHeads, bare, nonEmpty_map, bind_map_left, checkEach_map, hhead]

/-- Dropping the targets and the effects of ignored transitions changes the draft that the
description keeps and nothing else. -/
theorem validate_bare (x : Draft) :
    x.bare.validate = Description.withDraft x.bare <$> x.validate := by
  have htriggers : Validation.triggers x.bare = Validation.triggers x := rfl
  have hinitial : x.bare.initialState = x.initialState := rfl
  have hfinals : x.bare.finalStates = x.finalStates := rfl
  simp only [validate, htriggers, hinitial, hfinals, stateHeads_bare, states_bare, checkEach_map,
    transitions_bare, map_bind, map_pure]
  rfl

theorem validate_withDraft (x : Draft) :
    Description.withDraft x <$> x.validate = x.validate := by
  cases hx : x.validate with
  | error v => rfl
  | ok d =>
      have hdraft : d.draft = x := (x.validate_performs.of_ok d hx).draft
      subst hdraft
      rfl

/-- Drafts that differ in nothing but ignored transitions are accepted alike, or rejected for the
same violation. -/
theorem validate_eq_of_bare_eq {x y : Draft} (h : x.bare = y.bare) :
    y.validate = Description.withDraft y <$> x.validate := by
  calc
    y.validate = Description.withDraft y <$> Description.withDraft y.bare <$> y.validate := by
      rw [Functor.map_map]
      exact y.validate_withDraft.symm
    _ = Description.withDraft y <$> x.bare.validate := by rw [← validate_bare, h]
    _ = Description.withDraft y <$> x.validate := by
      rw [validate_bare, Functor.map_map]
      rfl

end Draft

namespace Description

variable {x y : Draft} {d : Description}

/-- Drafts that are the same when bare have descriptions that differ in their drafts only. -/
theorem ofDraft_withDraft (h : x.bare = y.bare) (hd : ofDraft x = .ok d) :
    ofDraft y = .ok (d.withDraft y) := by
  rw [ofDraft, Draft.validate_eq_of_bare_eq h, validate_of_ofDraft hd]
  rfl

/-! ## Compilation and runs -/

/-- The draft that a description comes of says which devices are required, and nothing more. -/
theorem compile_withDraft {compilers : Compilers} (hd : d.Consistent)
    (hd' : (d.withDraft y).Consistent) (h : ∀ i ∈ d.requiredDevices, compilers i ≠ none)
    (h' : ∀ i ∈ (d.withDraft y).requiredDevices, compilers i ≠ none) :
    (d.withDraft y).compile compilers =
      ⟨(d.compile compilers).result.map fun p ↦
          { p with
            devices := (d.withDraft y).requiredDevices
            checksum := (d.withDraft y).checksum },
        (d.compile compilers).calls⟩ := by
  have hcommands : (d.withDraft y).commands = d.commands := rfl
  rw [compile_of_present hd h, compile_of_present hd' h', hcommands]
  cases ((Binding.submitAll compilers d.commands).run []).1 <;> rfl

/-- The draft a description keeps plays no part in what it does. -/
theorem sharesReachable_withDraft (d : Description) (y : Draft) :
    d.SharesReachable (d.withDraft y) where
  initialState := rfl
  triggers := .refl _
  states s hs _ := ⟨⟨s, hs, rfl, rfl, rfl, .refl _⟩, Iff.rfl⟩

/-- Drafts that differ in nothing but the targets and the effects of ignored transitions.  They are
accepted alike or rejected for the same violation; the descriptions they give differ in their drafts
only.  If no required device of either is missing, compiling them makes the same calls and ends in
the same error or in programs that differ in their required devices and in the checksum only, and
the machines of these respond alike in every run. -/
theorem behaves_alike_of_bare_eq (h : x.bare = y.bare) :
    (y.validate = x.validate.map fun d ↦ { d with draft := y }) ∧
    ∀ d e, ofDraft x = .ok d → ofDraft y = .ok e →
      e = { d with draft := y } ∧
      ∀ compilers : Compilers, (∀ i ∈ d.requiredDevices, compilers i ≠ none) →
        (∀ i ∈ e.requiredDevices, compilers i ≠ none) →
        (e.compile compilers).calls = (d.compile compilers).calls ∧
        ((e.compile compilers).result = (d.compile compilers).result.map fun p ↦
          { p with devices := e.requiredDevices, checksum := e.checksum }) ∧
        ∀ p q, (d.compile compilers).result = .ok p → (e.compile compilers).result = .ok q →
          (Machine.start q).view = (Machine.start p).view ∧
          ∀ (host : Host) (past : List Command) (as : List Action),
            ((Machine.start q).run host past as).map (·.map Machine.view) =
              ((Machine.start p).run host past as).map (·.map Machine.view) := by
  refine ⟨Draft.validate_eq_of_bare_eq h, fun d e hd he ↦ ?_⟩
  obtain rfl : d.withDraft y = e := Except.ok.inj ((ofDraft_withDraft h hd).symm.trans he)
  refine ⟨rfl, fun compilers hpresent hpresent' ↦ ?_⟩
  have hconsistent := consistent_of_ofDraft hd
  have hconsistent' := consistent_of_ofDraft he
  have hcompile := compile_withDraft hconsistent hconsistent' hpresent hpresent'
  refine ⟨by rw [hcompile], by rw [hcompile], fun p q hp hq ↦ ?_⟩
  obtain rfl := eq_assemble_of_compile hconsistent hp
  obtain rfl := eq_assemble_of_compile hconsistent' hq
  have hshares := d.sharesReachable_withDraft y
  refine ⟨?_, fun host past as ↦ ?_⟩
  · exact (hshares.view_machineAt_eq hconsistent hconsistent' .initial).symm
  · exact (hshares.run_machineAt_eq hconsistent hconsistent' host past .initial as).symm

/-- The turnstile, with litter in the transition that it ignores: a target that is no state, a
device that cannot be one, one that nothing else needs, and a blank command. -/
def turnstileLittered : Draft :=
  { turnstile with
    states := some [
      { name := some "locked"
        onExit := some [{ device := some 7, command := some "release" }]
        transitions := some [
          { trigger := some "coin", target := some "open" },
          { trigger := some "push", ignore := some true, target := some "nowhere"
            effects := some [{ device := some (-5) }, { device := some 9, command := some " " }] }] },
      { name := some "open"
        transitions := some [
          { trigger := some "coin", target := some "open"
            effects := some [{ device := some 7, command := some "thank" }] },
          { trigger := some "push", target := some "locked" }] },
      { name := some "jammed"
        transitions := some [{ trigger := some "coin", target := some "jammed" }] }] }

def turnstileLitteredDescription : Description :=
  { turnstileDescription with draft := turnstileLittered }

theorem behaves_alike_of_bare_eq_turnstile :
    turnstile ≠ turnstileLittered ∧ turnstile.bare = turnstileLittered.bare ∧
      ofDraft turnstile = .ok turnstileDescription ∧
      ofDraft turnstileLittered = .ok turnstileLitteredDescription ∧
      turnstileDescription.requiredDevices = [7] ∧
      turnstileLitteredDescription.requiredDevices = [7, 9] ∧
      (turnstileDescription.compile fun _ ↦ some fun _ ↦ none).result =
        .ok turnstileDescription.assemble ∧
      (turnstileLitteredDescription.compile fun _ ↦ some fun _ ↦ none).result =
        .ok turnstileLitteredDescription.assemble ∧
      ∀ (host : Host) (past : List Command) (as : List Action),
        ((Machine.start turnstileLitteredDescription.assemble).run host past as).map
            (·.map Machine.view) =
          ((Machine.start turnstileDescription.assemble).run host past as).map
            (·.map Machine.view) := by
  have hbare : turnstile.bare = turnstileLittered.bare := rfl
  have hd : ofDraft turnstile = .ok turnstileDescription := rfl
  have he : ofDraft turnstileLittered = .ok turnstileLitteredDescription := rfl
  have hp : (turnstileDescription.compile fun _ ↦ some fun _ ↦ none).result =
      .ok turnstileDescription.assemble := rfl
  have hq : (turnstileLitteredDescription.compile fun _ ↦ some fun _ ↦ none).result =
      .ok turnstileLitteredDescription.assemble := rfl
  refine ⟨by decide, hbare, hd, he, rfl, rfl, hp, hq, ?_⟩
  obtain ⟨-, hcompile⟩ := (behaves_alike_of_bare_eq hbare).2 _ _ hd he
  obtain ⟨-, -, halike⟩ := hcompile (fun _ ↦ some fun _ ↦ none) (by simp) (by simp)
  exact (halike _ _ hp hq).2

end Description

end EventMachine
