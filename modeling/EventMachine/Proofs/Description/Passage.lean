import EventMachine.Proofs.Compilation.Calls

/-!
# What is executed on the way

Between two states a description has certain behaviors executed, and nothing but behaviors of the
description is ever executed when it is interpreted.
-/

namespace EventMachine

namespace Description

variable {d : Description}

/-- The behaviors on the way from a state to another one: those on exit, the effects of the
transition, and those on entry. -/
def passage (d : Description) (trigger source target : String) : List Behavior :=
  ((d.state? source).map (·.onExit)).getD [] ++
    (((d.transitions source).find? (·.trigger = trigger)).map (·.effects)).getD [] ++
      ((d.state? target).map (·.onEntry)).getD []

theorem mem_behaviors_of_mem_getD {name : String} {f : State → List Behavior}
    (hf : ∀ s, f s ⊆ s.behaviors) {b : Behavior} (h : b ∈ ((d.state? name).map f).getD []) :
    b ∈ d.behaviors := by
  cases hs : d.state? name with
  | none => simp [hs] at h
  | some s =>
      rw [hs] at h
      exact List.mem_flatMap.mpr ⟨s, List.mem_of_find?_eq_some hs, hf s h⟩

theorem mem_behaviors_of_mem_passage {trigger source target : String} {b : Behavior}
    (h : b ∈ d.passage trigger source target) : b ∈ d.behaviors := by
  rcases List.mem_append.mp h with h | hentry
  · rcases List.mem_append.mp h with hexit | heffects
    · refine mem_behaviors_of_mem_getD (fun s b hb ↦ ?_) hexit
      simp [State.behaviors, hb]
    · cases hfind : (d.transitions source).find? (·.trigger = trigger) with
      | none => simp [hfind] at heffects
      | some t =>
          obtain ⟨s, hs, -, ht⟩ :=
            exists_state_of_mem_transitions (List.mem_of_find?_eq_some hfind)
          rw [hfind] at heffects
          refine List.mem_flatMap.mpr ⟨s, hs, ?_⟩
          exact List.mem_append_right _ (List.mem_flatMap.mpr ⟨t, ht, heffects⟩)
  · refine mem_behaviors_of_mem_getD (fun s b hb ↦ ?_) hentry
    simp [State.behaviors, hb]

theorem map_behavior_getD {f : State → List Command} {g : State → List Behavior}
    (h : ∀ s, (f s).map Command.behavior = g s) (s : Option State) :
    ((s.map f).getD []).map Command.behavior = (s.map g).getD [] := by
  cases s with
  | none => rfl
  | some s => exact h s

/-- The commands of a move carry the behaviors of the passage: exits, effects, entries. -/
theorem map_behavior_route {trigger source target : String} {t : Transition}
    {effects : List Behavior} (ht : (d.transitions source).find? (·.trigger = trigger) = some t)
    (hreaction : t.reaction = .permit target effects) :
    (d.route source target trigger effects).map Command.behavior =
      d.passage trigger source target := by
  have hexit := map_behavior_getD (f := State.exitCommands)
    (fun s ↦ map_behavior_commandsAt _ s.onExit) (d.state? source)
  have hentry := map_behavior_getD (f := State.entryCommands)
    (fun s ↦ map_behavior_commandsAt _ s.onEntry) (d.state? target)
  have heffects : t.effects = effects := by rw [Transition.effects, hreaction]
  rw [route, passage, List.map_append, List.map_append, hexit, hentry, map_behavior_commandsAt,
    ht, Option.map_some, Option.getD_some, heffects]

/-- What is executed on a route is among the behaviors of the description. -/
theorem behavior_mem_of_mem_route {trigger source target : String} {t : Transition}
    {effects : List Behavior} (ht : (d.transitions source).find? (·.trigger = trigger) = some t)
    (hreaction : t.reaction = .permit target effects) {c : Command}
    (hc : c ∈ d.route source target trigger effects) : c.behavior ∈ d.behaviors := by
  have hpassage : c.behavior ∈ d.passage trigger source target := by
    rw [← map_behavior_route ht hreaction]
    exact List.mem_map_of_mem hc
  exact mem_behaviors_of_mem_passage hpassage

/-- Only declared behaviors are ever executed. -/
theorem forall_behavior_mem_of_apply (host : Host) (past : List Command) (state trigger : String) :
    ∀ c ∈ (d.apply host past state trigger).commands, c.behavior ∈ d.behaviors := by
  rw [apply]
  cases hfind : (d.transitions state).find? (·.trigger = trigger) with
  | none => simp [Response.commands]
  | some t =>
      cases hreaction : t.reaction with
      | ignore => simp [hreaction, Response.commands]
      | permit target effects =>
          intro c hc
          simp only [hreaction, Response.commands, map_command_execute] at hc
          exact behavior_mem_of_mem_route hfind hreaction hc

/-- Whatever comes of an action, only behaviors of the description are executed. -/
theorem forall_behavior_mem_of_act (host : Host) (past : List Command) (state : String)
    (a : Action) : ∀ c ∈ (d.act host past state a).commands, c.behavior ∈ d.behaviors := by
  apply act_cases (P := fun r ↦ ∀ c ∈ r.commands, c.behavior ∈ d.behaviors)
  · intro r answer h
    exact h
  · exact d.forall_behavior_mem_of_apply host past state
  · simp [Response.commands]
  · simp [Response.commands]

end Description

end EventMachine
