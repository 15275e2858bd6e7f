import EventMachine.Text.Decimal

/-!
# Violations

A violation is one failed check of a draft description: the position it is about, the value found
there if there was one, what was expected of it, and sometimes a hint.
-/

namespace EventMachine

open EventMachine.Text

/-- A list of behaviors in a description, by the index of its state and of its transition. -/
inductive BehaviorList
  | onEntry (state : Nat)
  | onExit (state : Nat)
  | effects (state transition : Nat)
  deriving DecidableEq, Repr

inductive Position
  | triggers
  | triggerName (i : Nat)
  | triggerSource (i : Nat)
  | triggerPayload (i : Nat)
  | triggerEvent (i : Nat)
  | states
  | stateName (i : Nat)
  | device (list : BehaviorList) (j : Nat)
  | command (list : BehaviorList) (j : Nat)
  | transitionTrigger (i k : Nat)
  | transitionTarget (i k : Nat)
  | initialState
  | finalState (i : Nat)
  deriving DecidableEq, Repr

def indexed (list : String) (i : Nat) : String := list ++ "[" ++ decimal i ++ "]"

def BehaviorList.text : BehaviorList → String
  | onEntry i => indexed "states" i ++ ".onEntry"
  | onExit i => indexed "states" i ++ ".onExit"
  | effects i k => indexed (indexed "states" i ++ ".transitions") k ++ ".effects"

/-- The path of a position, from the root of the description. -/
def Position.text : Position → String
  | triggers => "triggers"
  | triggerName i => indexed "triggers" i ++ ".name"
  | triggerSource i => indexed "triggers" i ++ ".eventSourceId"
  | triggerPayload i => indexed "triggers" i ++ ".eventPayload"
  | triggerEvent i => indexed "triggers" i ++ ".(eventSourceId/eventPayload)"
  | states => "states"
  | stateName i => indexed "states" i ++ ".name"
  | device l j => indexed l.text j ++ ".deviceId"
  | command l j => indexed l.text j ++ ".commandString"
  | transitionTrigger i k => indexed (indexed "states" i ++ ".transitions") k ++ ".triggerName"
  | transitionTarget i k => indexed (indexed "states" i ++ ".transitions") k ++ ".targetState"
  | initialState => "initialState"
  | finalState i => indexed "finalStates" i

inductive Expectation
  | notNull
  | notBlank
  | notEmpty
  | greaterThan (n : Int)
  | atMost (n : Int)
  | containedInStates
  | knownTrigger
  | unique
  deriving DecidableEq, Repr

def Expectation.text : Expectation → String
  | notNull => "is not null"
  | notBlank => "is not blank"
  | notEmpty => "is not empty"
  | greaterThan n => "is greater than " ++ decimalInt n
  | atMost n => "is at most " ++ decimalInt n
  | containedInStates => "is contained in states"
  | knownTrigger => "is a known triggerName"
  | unique => "is unique"

inductive Hint
  | sameAs (p : Position)
  | sameEventAs (trigger : Nat)
  | ignoreInstead
  deriving DecidableEq, Repr

def Hint.text : Hint → String
  | sameAs p => "same as " ++ p.text
  | sameEventAs i => "same event as " ++ indexed "triggers" i
  | ignoreInstead => "alternatively add 'transition.ignore = true'"

structure Violation where
  position : Position
  value : Option String := none
  expectation : Expectation
  hint : Option Hint := none
  deriving DecidableEq, Repr

def Violation.message (v : Violation) : String :=
  "'" ++ v.position.text ++ "'" ++
    (match v.value with
      | none => ""
      | some s => " (value: '" ++ s ++ "')") ++
    (match v.hint with
      | none => ""
      | some h => " (" ++ h.text ++ ")") ++
    " failed check: " ++ v.expectation.text

end EventMachine
