import EventMachine.Json.Document
import EventMachine.Text.Quoted

/-!
# Decoding a tree

A decoder walks a tree in document order and stops at the first problem it meets, be it a defect of
the text or a value of the wrong type.  A value of the wrong type is reported without looking into
it.  Records have optional fields only; a record is written as an object, or as the list of its
fields in declaration order with missing ones at the end left out.
-/

namespace EventMachine.Json

open EventMachine.Text

inductive Found
  | null
  | flag (b : Bool)
  | integer (i : Int)
  | real (x : Binary64)
  | text (s : String)
  | list
  | object
  deriving DecidableEq, Repr

def Found.message : Found → String
  | null => "null"
  | flag true => "boolean `true`"
  | flag false => "boolean `false`"
  | integer i => "integer `" ++ decimalInt i ++ "`"
  | real x => "floating point `" ++ x.text ++ "`"
  | text s => "string " ++ Text.quoted s
  | list => "sequence"
  | object => "map"

inductive Wanted
  | text
  | integer64
  | flag
  | list
  | record (name : String)
  deriving DecidableEq, Repr

def Wanted.message : Wanted → String
  | text => "a string"
  | integer64 => "i64"
  | flag => "a boolean"
  | list => "a sequence"
  | record name => "struct " ++ name

inductive Malformed
  | defect (d : Defect)
  | mismatch (found : Found) (wanted : Wanted)
  | outOfRange (i : Int)
  | unknownField (key : String) (known : List String)
  | repeatedField (key : String)
  | surplusItems (length : Nat)
  deriving DecidableEq, Repr

def tick (s : String) : String := "`" ++ s ++ "`"

def alternatives : List String → String
  | [] => "there are no fields"
  | [a] => "expected " ++ tick a
  | [a, b] => "expected " ++ tick a ++ " or " ++ tick b
  | keys => "expected one of " ++ ", ".intercalate (keys.map tick)

def Malformed.message : Malformed → String
  | defect d => d.message
  | mismatch found wanted =>
    "invalid type: " ++ found.message ++ ", expected " ++ wanted.message
  | outOfRange i => "invalid value: integer `" ++ decimalInt i ++ "`, expected i64"
  | unknownField key known => "unknown field " ++ tick key ++ ", " ++ alternatives known
  | repeatedField key => "duplicate field " ++ tick key
  | surplusItems n => "invalid length " ++ decimal n ++ ", expected fewer elements in array"

abbrev Decoder (α : Type) := Node → Except Malformed α

/-- The failure of a decoder that finds a value of another type, or a defect. -/
def Node.refuse (wanted : Wanted) : Node → Malformed
  | .null => .mismatch .null wanted
  | .flag b => .mismatch (.flag b) wanted
  | .number (.integer i) => .mismatch (.integer i) wanted
  | .number (.real x) => .mismatch (.real x) wanted
  | .text s => .mismatch (.text s) wanted
  | .list _ _ => .mismatch .list wanted
  | .object _ _ => .mismatch .object wanted
  | .broken d => .defect d

namespace Decoder

def text : Decoder String
  | .text s => .ok s
  | n => .error (n.refuse .text)

def flag : Decoder Bool
  | .flag b => .ok b
  | n => .error (n.refuse .flag)

/-- An integer of 64 bits with sign.  A floating-point number is never one, whatever its value. -/
def integer64 : Decoder Int64
  | .number (.integer i) =>
    if Int64.minValue.toInt ≤ i ∧ i ≤ Int64.maxValue.toInt then .ok (Int64.ofInt i)
    else .error (.outOfRange i)
  | n => .error (n.refuse .integer64)

/-- A null stands for an absent value. -/
def optional {α : Type} (d : Decoder α) : Decoder (Option α)
  | .null => .ok none
  | n => (d n).map some

def items {α : Type} (d : Decoder α) : List Node → Ending → Except Malformed (List α)
  | [], .broken e => .error (.defect e)
  | [], _ => .ok []
  | n :: ns, e => do
    let a ← d n
    let as ← items d ns e
    return a :: as

def list {α : Type} (d : Decoder α) : Decoder (List α)
  | .list ns e => items d ns e
  | n => .error (n.refuse .list)

end Decoder

/-- A field of records of type `ρ`: how it is taken from a tree, and its value as a document if
there is one. -/
structure RecordField (ρ : Type) where
  key : String
  put : Node → ρ → Except Malformed ρ
  get : ρ → Option Document

structure Record (ρ : Type) where
  name : String
  blank : ρ
  fields : List (RecordField ρ)

namespace Record

variable {ρ : Type} (r : Record ρ)

def keys : List String := r.fields.map (·.key)

/-- One member of an object, of which the keys in `seen` have been read. -/
def putMember (seen : List String) (key : String) (n : Node) (x : ρ) : Except Malformed ρ :=
  match r.fields.find? (·.key == key) with
  | none => .error (.unknownField key r.keys)
  | some f => if key ∈ seen then .error (.repeatedField key) else f.put n x

def members (seen : List String) (x : ρ) : List (String × Node) → Ending → Except Malformed ρ
  | [], .broken e => .error (.defect e)
  | [], _ => .ok x
  | (k, n) :: ms, e => do
    let y ← r.putMember seen k n x
    members (k :: seen) y ms e

/-- What is wrong with a list that goes on after the last field of a record.  The text is only
looked at closely enough to tell a comma before the closing bracket. -/
def surplus (length : Nat) : List Node → Ending → Except Malformed Unit
  | [], .closed => .ok ()
  | [], .counted => .ok ()
  | [], .broken .trailingComma => .error (.defect .trailingComma)
  | [], .broken .endInList => .error (.defect .endInList)
  | _ :: _, .counted => .error (.surplusItems length)
  | _, _ => .error (.defect .trailingCharacters)

def positional (length : Nat) :
    List (RecordField ρ) → ρ → List Node → Ending → Except Malformed ρ
  | [], x, ns, e => (surplus length ns e).map fun _ ↦ x
  | _ :: _, _, [], .broken e => .error (.defect e)
  | _ :: _, x, [], _ => .ok x
  | f :: fs, x, n :: ns, e => do
    let y ← f.put n x
    positional length fs y ns e

def decode : Decoder ρ
  | .object ms e => r.members [] r.blank ms e
  | .list ns e => positional ns.length r.fields r.blank ns e
  | n => .error (n.refuse (.record r.name))

def encode (x : ρ) : Document :=
  .object (r.fields.filterMap fun f ↦ (f.get x).map fun d ↦ (f.key, d))

end Record

def Reading.decode {α : Type} (r : Reading) (d : Decoder α) : Except Malformed α := do
  let a ← d r.root
  if r.surplus then .error (.defect .trailingCharacters) else return a

end EventMachine.Json
