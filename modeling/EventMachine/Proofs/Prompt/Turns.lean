import EventMachine.Prompt
import EventMachine.Proofs.Text.Words

/-!
# Turns of the prompt

The first word of a line says which order it gives, and what is behind the word is the order's
argument.  Reading, or misreading, a line is settled here once, so that the rest is about orders.
-/

namespace EventMachine.Prompt

open EventMachine.Text

/-! ## Lines -/

def firstWord (s : String) : String := String.ofList (cutWord (trim s.toList)).1

def argument (s : String) : List Char := trim (cutWord (trim s.toList)).2

/-- Words are compared in lower case, and no two orders share one. -/
theorem Order.ofWord?_eq_some_iff {word : String} {o : Order} :
    Order.ofWord? word = some o ↔ lower word ∈ o.words := by
  constructor
  · intro h
    simpa using List.find?_some h
  · -- the words of different orders differ, so the first order found is the only one
    intro h
    have hfind : ∀ w ∈ o.words, Order.all.find? (fun o' ↦ w ∈ o'.words) = some o := by
      cases o <;> decide
    exact hfind (lower word) h

theorem Order.words_spec (o : Order) :
    ∀ w ∈ o.words, w.toList ≠ [] ∧ ∀ c ∈ w.toList, isBlank c = false := by
  have hall : o.words.all fun w ↦ w.toList != [] && w.toList.all (!isBlank ·) := by
    cases o <;> decide
  intro w hw
  have hspec := List.all_eq_true.mp hall w hw
  rw [Bool.and_eq_true, bne_iff_ne, List.all_eq_true] at hspec
  exact ⟨hspec.1, fun c hc ↦ by simpa using hspec.2 c hc⟩

/-- A word that gives an order holds no blank, whatever its case. -/
theorem Order.word_spec {o : Order} {w : String} (h : lower w ∈ o.words) :
    w.toList ≠ [] ∧ ∀ c ∈ w.toList, isBlank c = false := by
  obtain ⟨hne, hblank⟩ := o.words_spec _ h
  constructor
  · intro hnil
    rw [lower, hnil] at hne
    exact hne rfl
  · intro c hc
    by_contra hblank'
    rw [Bool.not_eq_false] at hblank'
    rw [hblank c (mem_lower_of_isBlank hblank' hc)] at hblank'
    cases hblank'

def order? (s : String) : Option Order := Order.ofWord? (firstWord s)

/-- A line is cut after its first word; the argument is what remains, trimmed. -/
theorem cut_line {o : Order} {w : String} (h : lower w ∈ o.words) (r : String) :
    order? (w ++ " " ++ r) = some o ∧ argument (w ++ " " ++ r) = trim r.toList := by
  obtain ⟨hne, hw⟩ := Order.word_spec h
  have hline : (w ++ " " ++ r).toList = w.toList ++ ' ' :: r.toList := by simp
  have hblank : isBlank ' ' = true := by decide
  obtain ⟨hword, hrest⟩ := cutWord_trim_append hne hw hblank r.toList
  rw [order?, firstWord, argument, hline, hword, hrest, String.ofList_toList]
  exact ⟨Order.ofWord?_eq_some_iff.mpr h, rfl⟩

theorem order?_of_blank {s : String} (h : trim s.toList = []) : order? s = none := by
  have hword : firstWord s = "" := by
    rw [firstWord, h]
    rfl
  rw [order?, hword]
  rfl

/-! ## Single turns -/

def Reply.turn : Option Reply → Turn
  | none => { printed := [], next := none }
  | some r => { printed := [r.text ++ "\n"], next := some r.session, notices := r.notices }

theorem Reply.turn_next (r : Option Reply) : (Reply.turn r).next = r.map Reply.session := by
  cases r <;> rfl

variable (colors : Bool) (x : Session) {s : String}

theorem turn_line (h : trim s.toList ≠ []) :
    turn colors x (.line s) = Reply.turn (reply? colors x (trim s.toList)) := by
  rw [turn, if_neg h]
  cases reply? colors x (trim s.toList) <;> rfl

theorem reply?_eq : reply? colors x (trim s.toList) =
    match order? s with
    | some o => obey colors x (argument s) o
    | none =>
      some { text := "Unknown command: " ++ firstWord s ++ ". Type 'help' for help."
             session := x } := by
  cases h : order? s with
  | none =>
      rw [order?, firstWord, cutWord] at h
      simp only [reply?, h, firstWord, cutWord]
  | some o =>
      rw [order?, firstWord, cutWord] at h
      simp only [reply?, h, argument, cutWord]

theorem turn_of_order {o : Order} (h : order? s = some o) :
    turn colors x (.line s) = Reply.turn (obey colors x (argument s) o) := by
  have hne : trim s.toList ≠ [] := by
    intro hnil
    rw [order?_of_blank hnil] at h
    cases h
  rw [turn_line colors x hne, reply?_eq, h]

/-- A blank line, or one whose first word gives no order, leaves the session as it is. -/
theorem turn_of_no_order (h : order? s = none) :
    (turn colors x (.line s)).next = some x ∧ (turn colors x (.line s)).notices = [] := by
  by_cases hnil : trim s.toList = []
  · rw [turn, if_pos hnil]
    exact ⟨rfl, rfl⟩
  · rw [turn_line colors x hnil, reply?_eq, h]
    exact ⟨rfl, rfl⟩

theorem next_turn : (turn colors x (.line s)).next =
    match order? s with
    | some o => (obey colors x (argument s) o).map Reply.session
    | none => some x := by
  cases h : order? s with
  | none => exact (turn_of_no_order colors x h).1
  | some o =>
      rw [turn_of_order colors x h]
      exact Reply.turn_next (obey colors x (argument s) o)

/-! ## The loop -/

def after (colors : Bool) (x : Session) : List Input → Session
  | [] => x
  | i :: is =>
    match (turn colors x i).next with
    | none => x
    | some y => after colors y is

variable {colors x} {i : Input} {y : Session}

theorem after_cons_of_next (h : (turn colors x i).next = some y) (is : List Input) :
    after colors x (i :: is) = after colors y is := by
  rw [after, h]

theorem after_cons_of_end (h : (turn colors x i).next = none) (is : List Input) :
    after colors x (i :: is) = x := by
  rw [after, h]

theorem run_cons_of_next (h : (turn colors x i).next = some y) (is : List Input) :
    run colors x (i :: is) = ((turn colors x i).printed :: (run colors y is).1,
      (turn colors x i).notices ++ (run colors y is).2) := by
  rw [run]
  simp only [h]

theorem run_cons_of_end (h : (turn colors x i).next = none) (is : List Input) :
    run colors x (i :: is) = ([(turn colors x i).printed], (turn colors x i).notices) := by
  rw [run]
  simp only [h]

end EventMachine.Prompt
