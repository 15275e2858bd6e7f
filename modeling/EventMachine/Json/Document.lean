import EventMachine.Binary64.Shortest
import EventMachine.Json.Node

/-!
# JSON documents

A document is a JSON value without a text.  It has a compact text, written without white space and
with the members of an object in the order given, and a tree for decoding, in which the members
come in ascending order of their keys and each key occurs once.
-/

namespace EventMachine.Json

open EventMachine.Text

inductive Document
  | null
  | flag (b : Bool)
  | number (n : Number)
  | text (s : String)
  | list (items : List Document)
  | object (members : List (String × Document))

namespace Document

def integer (i : Int) : Document := .number (.integer i)

def nat (n : Nat) : Document := integer n

def id (n : UInt32) : Document := nat n.toNat

/-- A character inside quotes: the quote, the backslash and the characters below U+0020 are
escaped, the latter by a letter where there is one. -/
def escapeChar (c : Char) : List Char :=
  if c = '"' then ['\\', '"']
  else if c = '\\' then ['\\', '\\']
  else if 0x20 ≤ c.toNat then [c]
  else if c = '\x08' then ['\\', 'b']
  else if c = '\x0c' then ['\\', 'f']
  else if c = '\n' then ['\\', 'n']
  else if c = '\r' then ['\\', 'r']
  else if c = '\t' then ['\\', 't']
  else '\\' :: 'u' :: '0' :: '0' :: Nat.digitChar (c.toNat / 16) :: [Nat.digitChar (c.toNat % 16)]

def quote (s : String) : List Char := '"' :: (s.toList.flatMap escapeChar ++ ['"'])

def numberText : Number → List Char
  | .integer i => (decimalInt i).toList
  | .real x => x.text.toList

mutual

def write : Document → List Char
  | .null => ['n', 'u', 'l', 'l']
  | .flag true => ['t', 'r', 'u', 'e']
  | .flag false => ['f', 'a', 'l', 's', 'e']
  | .number n => numberText n
  | .text s => quote s
  | .list items => '[' :: writeItems items
  | .object members => '{' :: writeMembers members

def writeItems : List Document → List Char
  | [] => [']']
  | d :: ds => write d ++ writeMoreItems ds

def writeMoreItems : List Document → List Char
  | [] => [']']
  | d :: ds => ',' :: (write d ++ writeMoreItems ds)

def writeMembers : List (String × Document) → List Char
  | [] => ['}']
  | (k, d) :: ms => quote k ++ ':' :: (write d ++ writeMoreMembers ms)

def writeMoreMembers : List (String × Document) → List Char
  | [] => ['}']
  | (k, d) :: ms => ',' :: (quote k ++ ':' :: (write d ++ writeMoreMembers ms))

end

def compact (d : Document) : String := String.ofList d.write

/-- Puts a member at the place of its key, unless there is a member with this key already. -/
def insertMember {α : Type} (m : String × α) : List (String × α) → List (String × α)
  | [] => [m]
  | n :: ms =>
    if m.1 < n.1 then m :: n :: ms
    else if m.1 = n.1 then n :: ms
    else n :: insertMember m ms

/-- Members in ascending order of their keys; of those with one key the last counts. -/
def sortMembers {α : Type} (ms : List (String × α)) : List (String × α) :=
  ms.foldr insertMember []

mutual

def node : Document → Node
  | .null => .null
  | .flag b => .flag b
  | .number n => .number n
  | .text s => .text s
  | .list items => .list (nodes items) .counted
  | .object members => .object (sortMembers (memberNodes members)) .closed

def nodes : List Document → List Node
  | [] => []
  | d :: ds => node d :: nodes ds

def memberNodes : List (String × Document) → List (String × Node)
  | [] => []
  | (k, d) :: ms => (k, node d) :: memberNodes ms

end

theorem memberNodes_eq_map (ms : List (String × Document)) :
    memberNodes ms = ms.map fun m ↦ (m.1, node m.2) := by
  induction ms with
  | nil => rfl
  | cons m ms ih => simp [memberNodes, ih]

mutual

/-- The document a tree holds, if it is free of defects. -/
def ofNode? : Node → Option Document
  | .null => some .null
  | .flag b => some (.flag b)
  | .number n => some (.number n)
  | .text s => some (.text s)
  | .list items ending =>
    if ending = .closed ∨ ending = .counted then (ofNodes? items).map .list else none
  | .object members ending =>
    if ending = .closed then (ofMembers? members).map .object else none
  | .broken _ => none

def ofNodes? : List Node → Option (List Document)
  | [] => some []
  | n :: ns => (ofNode? n).bind fun d ↦ (ofNodes? ns).map (d :: ·)

def ofMembers? : List (String × Node) → Option (List (String × Document))
  | [] => some []
  | (k, n) :: ms => (ofNode? n).bind fun d ↦ (ofMembers? ms).map ((k, d) :: ·)

end

/-- The document a text denotes, members in the order they are written. -/
def ofText? (s : String) : Option Document :=
  let r := Reading.ofText s
  if r.surplus then none else ofNode? r.root

/-- The value of the last member with a key. -/
def get? (k : String) : Document → Option Document
  | .object members => members.reverse.lookup k
  | _ => none

end Document

end EventMachine.Json
