import EventMachine.Description
import EventMachine.Text.Blank
import EventMachine.Violation

/-!
# Validation

A draft becomes a description if it passes every check; otherwise the first violation is reported.
Transitions refer to triggers and states by name, also to states that come later, so the checks run
in passes: triggers, names and behaviors of all states, transitions of all states, then the initial
and the final states.
-/

namespace EventMachine

open EventMachine.Text

/-- The first index whose key occurred before, with the index of the earlier occurrence.  Of the
keys passed, `seen` holds the indices, latest first. -/
def firstDuplicateFrom {κ : Type} [DecidableEq κ] (seen : List (κ × Nat)) (i : Nat) :
    List κ → Option (Nat × Nat)
  | [] => none
  | k :: ks =>
    match seen.lookup k with
    | some j => some (i, j)
    | none => firstDuplicateFrom ((k, i) :: seen) (i + 1) ks

def firstDuplicate {κ : Type} [DecidableEq κ] (keys : List κ) : Option (Nat × Nat) :=
  firstDuplicateFrom [] 0 keys

def checkEach {α β : Type} (f : Nat → α → Except Violation β) (i : Nat) :
    List α → Except Violation (List β)
  | [] => .ok []
  | a :: as => do
    let b ← f i a
    let bs ← checkEach f (i + 1) as
    return b :: bs

namespace Validation

def present {α : Type} (p : Position) : Option α → Except Violation α
  | none => .error { position := p, expectation := .notNull }
  | some a => .ok a

def nonBlank (p : Position) (s : Option String) : Except Violation String := do
  let s ← present p s
  if blank s then .error { position := p, value := some s, expectation := .notBlank }
  else return s

def nonEmpty {α : Type} (p : Position) (as : Option (List α)) : Except Violation (List α) := do
  let as ← present p as
  if as = [] then .error { position := p, expectation := .notEmpty } else return as

def positiveId (p : Position) (i : Option Int64) : Except Violation UInt32 := do
  let i ← present p i
  if i.toInt ≤ 0 then
    .error { position := p, value := some (decimalInt i.toInt), expectation := .greaterThan 0 }
  else if UInt32.size ≤ i.toInt.toNat then
    .error { position := p, value := some (decimalInt i.toInt), expectation := .atMost 4294967295 }
  else return UInt32.ofNat i.toInt.toNat

def declared (p : Position) (e : Expectation) (known : List String) (s : Option String) :
    Except Violation String := do
  let s ← nonBlank p s
  if s ∈ known then return s else .error { position := p, value := some s, expectation := e }

def distinct {κ : Type} [DecidableEq κ] (position : Nat → Position) (hint : Nat → Hint)
    (text : κ → String) (keys : List κ) : Except Violation Unit :=
  match firstDuplicate keys with
  | none => .ok ()
  | some (i, j) =>
    .error {
      position := position i
      value := keys[i]?.map text
      expectation := .unique
      hint := some (hint j) }

def trigger (i : Nat) (t : Draft.Trigger) : Except Violation Trigger := do
  let name ← nonBlank (.triggerName i) t.name
  let source ← positiveId (.triggerSource i) t.source
  let payload ← nonBlank (.triggerPayload i) t.payload
  return ⟨name, source, payload⟩

def eventText (e : UInt32 × String) : String :=
  "(" ++ decimal e.1.toNat ++ "/" ++ e.2 ++ ")"

def triggers (x : Draft) : Except Violation (List Trigger) := do
  let ts ← nonEmpty .triggers x.triggers
  let ts ← checkEach trigger 0 ts
  distinct .triggerName (fun i ↦ .sameAs (.triggerName i)) (fun s : String ↦ s) (ts.map (·.name))
  distinct .triggerEvent .sameEventAs eventText (ts.map fun t ↦ (t.source, t.payload))
  return ts

def behavior (l : BehaviorList) (j : Nat) (b : Draft.Behavior) : Except Violation Behavior := do
  let device ← positiveId (.device l j) b.device
  let command ← nonBlank (.command l j) b.command
  return ⟨device, command⟩

/-- A list of behaviors; an absent one is empty. -/
def behaviors (l : BehaviorList) (bs : Option (List Draft.Behavior)) :
    Except Violation (List Behavior) :=
  checkEach (behavior l) 0 (bs.getD [])

def stateHead (i : Nat) (s : Draft.State) : Except Violation State := do
  let name ← nonBlank (.stateName i) s.name
  let onEntry ← behaviors (.onEntry i) s.onEntry
  let onExit ← behaviors (.onExit i) s.onExit
  return ⟨name, onEntry, onExit, []⟩

def stateHeads (x : Draft) : Except Violation (List State) := do
  let ss ← nonEmpty .states x.states
  let ss ← checkEach stateHead 0 ss
  distinct .stateName (fun i ↦ .sameAs (.stateName i)) (fun s : String ↦ s) (ss.map (·.name))
  return ss

/-- A transition of state `i`.  Of an ignored one only the trigger is checked. -/
def transition (triggers states : List String) (i k : Nat) (t : Draft.Transition) :
    Except Violation Transition := do
  let trigger ← declared (.transitionTrigger i k) .knownTrigger triggers t.trigger
  if t.isIgnored then return ⟨trigger, .ignore⟩
  else if t.target = none then
    .error {
      position := .transitionTarget i k
      expectation := .notNull
      hint := some .ignoreInstead }
  else
    let target ← declared (.transitionTarget i k) .containedInStates states t.target
    let effects ← behaviors (.effects i k) t.effects
    return ⟨trigger, .permit target effects⟩

def transitions (triggers states : List String) (i : Nat) (s : Draft.State) :
    Except Violation (List Transition) := do
  let ts ← checkEach (transition triggers states i) 0 (s.transitions.getD [])
  distinct (.transitionTrigger i) (fun k ↦ .sameAs (.transitionTrigger i k)) (fun s : String ↦ s)
    (ts.map (·.trigger))
  return ts

def finalState (states : List String) (i : Nat) (s : Option String) : Except Violation String :=
  declared (.finalState i) .containedInStates states s

end Validation

/-- The description a draft gives, or its first violation. -/
def Draft.validate (x : Draft) : Except Violation Description := do
  let triggers ← Validation.triggers x
  let heads ← Validation.stateHeads x
  let names := heads.map (·.name)
  let transitions ←
    checkEach (Validation.transitions (triggers.map (·.name)) names) 0 (x.states.getD [])
  let initialState ← Validation.declared .initialState .containedInStates names x.initialState
  let finalStates ← checkEach (Validation.finalState names) 0 (x.finalStates.getD [])
  return {
    initialState
    finalStates
    triggers
    states := heads.zipWith (fun s ts ↦ { s with transitions := ts }) transitions
    draft := x }

inductive DescriptionError
  | blank
  | malformed (reason : Json.Malformed)
  | violation (v : Violation)
  deriving DecidableEq, Repr

def DescriptionError.message : DescriptionError → String
  | blank => "'jsonStateMachine' failed check: is not blank"
  | malformed reason => "error while parsing given json: " ++ reason.message
  | violation v => "invalid machine description: " ++ v.message

/-- The draft a text gives; a blank text is none. -/
def Draft.read (s : String) : Except DescriptionError Draft :=
  if blank s then .error .blank else (Draft.ofText s).mapError .malformed

namespace Description

def ofDraft (x : Draft) : Except DescriptionError Description :=
  x.validate.mapError .violation

def ofText (s : String) : Except DescriptionError Description := do
  let x ← Draft.read s
  ofDraft x

def ofDocument (d : Json.Document) : Except DescriptionError Description := do
  let x ← (Draft.ofDocument d).mapError .malformed
  ofDraft x

end Description

end EventMachine
