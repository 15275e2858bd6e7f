import EventMachine.Proofs.Draft.Passes
import EventMachine.Proofs.Draft.Path

/-!
# The first violation

A draft that is not accepted is refused for the first check that it does not meet.  The violation
shows the path of its position, from which the position can be read again.
-/

namespace EventMachine

namespace Draft

/-- Validation reports the first check that is not met: its position, whose path is spelled out and
can be read again, its expectation, the text of what stands there, and its hint.  A value is left
out only where nothing stands, or an empty list. -/
theorem validate_eq_error_iff (x : Draft) (v : Violation) :
    x.validate = .error v ↔
      ∃ before c after, x.checks = before ++ c :: after ∧ (∀ b ∈ before, x.meets b) ∧
        x.meets c = false ∧ v.position = c.position ∧
        v.position.text = c.position.path.text ∧
        Position.ofText? v.position.text = some c.position ∧ v.expectation = c.expectation ∧
        v.value = (x.content? c.position).bind Content.shown? ∧ v.hint = x.hint? c ∧
        (v.value = none ↔ v.expectation = .notNull ∨ v.expectation = .notEmpty) := by
  rw [x.validate_performs.error_iff]
  constructor
  · intro hv
    obtain ⟨c, hc, rfl⟩ := Option.map_eq_some_iff.mp hv
    obtain ⟨hfails, before, after, heq, hbefore⟩ := List.find?_eq_some_iff_append.mp hc
    refine ⟨before, c, after, heq, by simpa using hbefore, by simpa using hfails, rfl,
      c.position.text_path.symm, Position.ofText?_eq_some_iff.mpr rfl, rfl, rfl, rfl, ?_⟩
    exact x.validate_performs.showsValue _ ((x.validate_performs.error_iff _).mpr hv)
  · rintro ⟨before, c, after, heq, hbefore, hfails, hp, -, -, he, hvalue, hhint, -⟩
    have hv : x.violation c = v := by
      rw [violation, ← hvalue, ← hhint, ← hp, ← he]
    rw [heq, firstViolation_append, firstViolation_eq_none_iff.mpr hbefore, Option.none_or,
      firstViolation_cons_of_not_meets hfails, hv]

end Draft

namespace Position

/-- Different positions have different paths, a text is read as the position whose path it is, and
the path of a violation as the position of the first check that the draft does not meet. -/
theorem text_determines_position : Function.Injective Position.text ∧
    (∀ s p, ofText? s = some p ↔ p.text = s) ∧
    ∀ (x : Draft) (v : Violation), x.validate = .error v →
      ∃ c, x.checks.find? (fun c ↦ !x.meets c) = some c ∧
        ofText? v.position.text = some c.position := by
  refine ⟨text_injective, fun _ _ ↦ ofText?_eq_some_iff, fun x v h ↦ ?_⟩
  obtain ⟨c, hc, rfl⟩ := Option.map_eq_some_iff.mp ((x.validate_performs.error_iff v).mp h)
  exact ⟨c, hc, ofText?_eq_some_iff.mpr rfl⟩

/-- A clock strikes thirteen when it is to strike one: the last stroke is no command. -/
def clock : Draft where
  initialState := some "ticking"
  triggers := some [{ name := some "one", source := some 1, payload := some "one" }]
  states := some [
    { name := some "ticking"
      transitions := some [
        { trigger := some "one", target := some "ticking"
          effects := some (List.replicate 12 { device := some 1, command := some "strike" } ++
            [{ device := some 1, command := some " " }]) }] }]

theorem text_determines_position_clock :
    clock.validate = .error
      { position := .command (.effects 0 0) 12, value := some " ", expectation := .notBlank } ∧
    (Position.command (.effects 0 0) 12).text =
      "states[0].transitions[0].effects[12].commandString" ∧
    ∃ c, clock.checks.find? (fun c ↦ !clock.meets c) = some c ∧
      ofText? "states[0].transitions[0].effects[12].commandString" = some c.position := by
  have h : clock.validate = .error
      { position := .command (.effects 0 0) 12, value := some " ", expectation := .notBlank } := rfl
  exact ⟨h, rfl, text_determines_position.2.2 clock _ h⟩

end Position

end EventMachine
