import EventMachine.Proofs.Text.Digits
import EventMachine.Violation

/-!
# Paths into a draft

The path of a position goes from a field of the description through indices and fields.  As no name
in it contains a dot or an opening bracket, its text is read from left to right: these marks end a
name, and a closing bracket ends the digits of an index.  So the path of a violation determines the
position that it is about.
-/

namespace EventMachine

open EventMachine.Text

inductive Path
  | root (name : String)
  | index (path : Path) (i : Nat)
  | field (path : Path) (name : String)
  deriving DecidableEq, Repr

namespace Path

def text : Path → String
  | root name => name
  | index p i => indexed p.text i
  | field p name => p.text ++ "." ++ name

/-- Whether a name is without the marks that begin a field or an index. -/
def isName (name : String) : Bool := name.toList.all fun c ↦ c != '.' && c != '['

def isPlain : Path → Bool
  | root name => isName name
  | index p _ => p.isPlain
  | field p name => p.isPlain && isName name

/-! ## Reading a path -/

/-- How far a path has been read. -/
inductive Progress
  /-- In a name, the root if it has no owner. -/
  | name (owner : Option Path) (cs : List Char)
  /-- In the digits of an index. -/
  | index (owner : Path) (i : Nat)
  /-- Behind the bracket that ends an index. -/
  | closed (path : Path)

def named (owner : Option Path) (cs : List Char) : Path :=
  match owner with
  | none => root (String.ofList cs)
  | some p => field p (String.ofList cs)

def Progress.path? : Progress → Option Path
  | name owner cs => some (named owner cs)
  | index _ _ => none
  | closed p => some p

/-- A path goes on with a field or an index. -/
def extend (p : Path) (c : Char) : Option Progress :=
  if c = '.' then some (.name (some p) [])
  else if c = '[' then some (.index p 0)
  else none

def step : Progress → Char → Option Progress
  | .name owner cs, c => ((named owner cs).extend c).or (some (.name owner (cs ++ [c])))
  | .index p i, c =>
    if c = ']' then some (.closed (.index p i))
    else (digitValue c).map fun d ↦ .index p (10 * i + d)
  | .closed p, c => p.extend c

/-- Reads a path.  An index may have leading zeros here, or no digits at all for zero. -/
def ofText? (s : String) : Option Path :=
  (s.toList.foldlM step (.name none [])).bind Progress.path?

theorem step_bracket (p : Path) (i : Nat) :
    step (.index p i) ']' = some (.closed (.index p i)) := rfl

theorem step_of_path? {t : Progress} {p : Path} (h : t.path? = some p) {c : Char}
    (hc : c = '.' ∨ c = '[') : step t c = p.extend c := by
  cases t with
  | name owner cs =>
      obtain rfl : named owner cs = p := Option.some.inj h
      rcases hc with rfl | rfl <;> rfl
  | index p i => cases h
  | closed q =>
      obtain rfl : q = p := Option.some.inj h
      rfl

theorem foldlM_step_chars (owner : Option Path) (cs : List Char) {ds : List Char}
    (hds : ∀ c ∈ ds, c ≠ '.' ∧ c ≠ '[') :
    ds.foldlM step (.name owner cs) = some (.name owner (cs ++ ds)) := by
  induction ds generalizing cs with
  | nil => simp
  | cons d ds ih =>
      rw [List.forall_mem_cons] at hds
      have hstep : step (.name owner cs) d = some (.name owner (cs ++ [d])) := by
        simp [step, extend, hds.1.1, hds.1.2]
      rw [List.foldlM_cons, hstep]
      simpa using ih (cs ++ [d]) hds.2

theorem foldlM_step_name (owner : Option Path) {name : String} (h : isName name) :
    name.toList.foldlM step (.name owner []) = some (.name owner name.toList) :=
  foldlM_step_chars owner [] (by simpa [isName] using h)

theorem foldlM_step_index (p : Path) (i : Nat) {ds : List Char}
    (hds : ∀ c ∈ ds, c.isDigit = true) :
    ds.foldlM step (.index p i) = (readDigits i ds).map (.index p) := by
  induction ds generalizing i with
  | nil => rfl
  | cons d ds ih =>
      rw [List.forall_mem_cons] at hds
      have hbracket : d ≠ ']' := by
        rintro rfl
        exact absurd hds.1 (by decide)
      have hvalue := digitValue_of_isDigit hds.1
      rw [List.foldlM_cons, step, if_neg hbracket, readDigits, hvalue]
      exact ih _ hds.2

theorem foldlM_step_decimal (p : Path) (i : Nat) :
    (decimal i).toList.foldlM step (.index p 0) = some (.index p i) := by
  have hdigits : ∀ c ∈ (decimal i).toList, c.isDigit = true := fun c ↦ isDigit_of_mem_decimal
  rw [foldlM_step_index p 0 hdigits, readDigits_of_isDigit hdigits, decimal, String.toList_ofList,
    Nat.ofDigitChars_ten_toDigits]
  rfl

/-- Reading the text of a path leads to where that path may end. -/
theorem exists_foldlM_step {p : Path} (hp : p.isPlain) :
    ∃ t, p.text.toList.foldlM step (.name none []) = some t ∧ t.path? = some p := by
  -- A path grows at its end, by a mark that is read alike wherever the shorter path may end.
  induction p with
  | root name => exact ⟨_, foldlM_step_name none hp, by simp [Progress.path?, named, text]⟩
  | index p i ih =>
      obtain ⟨t, ht, hpath⟩ := ih hp
      have hstep : step t '[' = some (.index p 0) := step_of_path? hpath (.inr rfl)
      refine ⟨.closed (.index p i), ?_, rfl⟩
      simp [text, indexed, ht, hstep, foldlM_step_decimal, step_bracket]
  | field p name ih =>
      obtain ⟨howner, hname⟩ : p.isPlain ∧ isName name := by simpa [isPlain] using hp
      obtain ⟨t, ht, hpath⟩ := ih howner
      have hstep : step t '.' = some (.name (some p) []) := step_of_path? hpath (.inl rfl)
      refine ⟨.name (some p) name.toList, ?_, by simp [Progress.path?, named]⟩
      simp [text, ht, hstep, foldlM_step_name (some p) hname]

/-- Names have no dot and no bracket in them, so the text of a path splits in one way only. -/
theorem ofText?_text {p : Path} (hp : p.isPlain) : ofText? p.text = some p := by
  obtain ⟨t, ht, hpath⟩ := exists_foldlM_step hp
  rw [ofText?, ht, Option.bind_some, hpath]

/-! ## The paths of positions -/

@[match_pattern] def trigger (i : Nat) : Path := .index (.root "triggers") i

@[match_pattern] def state (i : Nat) : Path := .index (.root "states") i

@[match_pattern] def transition (i k : Nat) : Path := .index (.field (.state i) "transitions") k

end Path

namespace BehaviorList

def path : BehaviorList → Path
  | onEntry i => .field (.state i) "onEntry"
  | onExit i => .field (.state i) "onExit"
  | effects i k => .field (.transition i k) "effects"

def ofPath? : Path → Option BehaviorList
  | .field (.state i) "onEntry" => some (.onEntry i)
  | .field (.state i) "onExit" => some (.onExit i)
  | .field (.transition i k) "effects" => some (.effects i k)
  | _ => none

theorem text_path (l : BehaviorList) : l.path.text = l.text := by
  cases l <;> simp [path, Path.text, Path.state, Path.transition, text, indexed,
    String.append_assoc]

end BehaviorList

namespace Position

def path : Position → Path
  | triggers => .root "triggers"
  | triggerName i => .field (.trigger i) "name"
  | triggerSource i => .field (.trigger i) "eventSourceId"
  | triggerPayload i => .field (.trigger i) "eventPayload"
  | triggerEvent i => .field (.trigger i) "(eventSourceId/eventPayload)"
  | states => .root "states"
  | stateName i => .field (.state i) "name"
  | device l j => .field (.index l.path j) "deviceId"
  | command l j => .field (.index l.path j) "commandString"
  | transitionTrigger i k => .field (.transition i k) "triggerName"
  | transitionTarget i k => .field (.transition i k) "targetState"
  | initialState => .root "initialState"
  | finalState i => .index (.root "finalStates") i

def ofPath? : Path → Option Position
  | .root "triggers" => some .triggers
  | .root "states" => some .states
  | .root "initialState" => some .initialState
  | .index (.root "finalStates") i => some (.finalState i)
  | .field (.trigger i) "name" => some (.triggerName i)
  | .field (.trigger i) "eventSourceId" => some (.triggerSource i)
  | .field (.trigger i) "eventPayload" => some (.triggerPayload i)
  | .field (.trigger i) "(eventSourceId/eventPayload)" => some (.triggerEvent i)
  | .field (.state i) "name" => some (.stateName i)
  | .field (.transition i k) "triggerName" => some (.transitionTrigger i k)
  | .field (.transition i k) "targetState" => some (.transitionTarget i k)
  | .field (.index p j) "deviceId" => (BehaviorList.ofPath? p).map fun l ↦ .device l j
  | .field (.index p j) "commandString" => (BehaviorList.ofPath? p).map fun l ↦ .command l j
  | _ => none

/-- The position whose path a text is. -/
def ofText? (s : String) : Option Position :=
  ((Path.ofText? s).bind ofPath?).filter fun p ↦ p.text = s

/-- What violations show is the text of the path. -/
theorem text_path (p : Position) : p.path.text = p.text := by
  cases p <;> simp [path, Path.text, Path.trigger, Path.state, Path.transition, text, indexed,
    BehaviorList.text_path, String.append_assoc]

theorem isPlain_path (p : Position) : p.path.isPlain := by
  cases p with
  | device l j | command l j => cases l <;> rfl
  | _ => rfl

/-- Each position lies at a path of its own, and the path leads back to it. -/
theorem ofPath?_path (p : Position) : ofPath? p.path = some p := by
  cases p with
  | device l j | command l j => cases l <;> rfl
  | _ => rfl

/-- The reader accepts the texts of positions, and those alone. -/
theorem ofText?_eq_some_iff {s : String} {p : Position} : ofText? s = some p ↔ p.text = s := by
  rw [ofText?, Option.filter_eq_some_iff, decide_eq_true_eq, and_iff_right_iff_imp]
  rintro rfl
  rw [← p.text_path, Path.ofText?_text p.isPlain_path, Option.bind_some, ofPath?_path]

theorem text_injective : Function.Injective text := by
  intro p q h
  have hp : ofText? p.text = some p := ofText?_eq_some_iff.mpr rfl
  have hq : ofText? p.text = some q := ofText?_eq_some_iff.mpr h.symm
  exact Option.some.inj (hp.symm.trans hq)

/-- An index has no leading zeros. -/
example : ofText? "states[01].name" = none := rfl

end Position

end EventMachine
