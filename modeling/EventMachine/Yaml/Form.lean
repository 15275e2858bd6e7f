import EventMachine.Form
import EventMachine.Yaml.Document
import EventMachine.Yaml.Scalar

/-!
# Records in YAML documents

A record is a mapping, and an empty plain scalar is a record or list without anything in it.  What a
scalar is read as depends on what is asked for: every scalar is a text, and a plain one can be a
flag or a number as well.  A tag names an alternative, or says that a literal block is a flag or a
number.  Each alias that is followed is one step.
-/

namespace EventMachine.Yaml.Document

def follow (d : Document) : Node Nat → Stepwise (Node Nat)
  | .alias i => do
    Stepwise.step
    d.targets[i]?
  | n => pure n

def isEmptyScalar : Node Nat → Bool
  | .scalar _ .plain "" => true
  | _ => false

/-- Whether a scalar can be a value that its tag may name. -/
def isOpen (name : String) (m : Marks) (style : ScalarStyle) : Bool :=
  style = .plain || (style = .literal && m.tag.any (·.isStandard name))

def text (d : Document) (n : Node Nat) : Stepwise String := do
  match ← d.follow n with
  | .scalar _ _ s => return s
  | _ => failure

def fields (d : Document) (keys : List String) (n : Node Nat) :
    Stepwise (List (String × Node Nat)) := do
  match ← d.follow n with
  | .map _ ms =>
    let fs ← ms.mapM fun m ↦ do return (← d.text m.1, m.2)
    Form.knownFields keys fs
  | n => if isEmptyScalar n then return [] else failure

def items (d : Document) (n : Node Nat) : Stepwise (List (Node Nat)) := do
  match ← d.follow n with
  | .list _ ns => return ns
  | n => if isEmptyScalar n then return [] else failure

def flag (d : Document) (n : Node Nat) : Stepwise Bool := do
  match ← d.follow n with
  | .scalar m style s => if isOpen "bool" m style then flagWord? s else failure
  | _ => failure

def natural (d : Document) (n : Node Nat) : Stepwise Nat := do
  match ← d.follow n with
  | .scalar m style s => if isOpen "int" m style then natural? s.toList else failure
  | _ => failure

/-- A scalar with a local tag holds nothing besides the name in the tag. -/
def choice (d : Document) (n : Node Nat) : Stepwise String := do
  match ← d.follow n with
  | .scalar m style s =>
    match m.tag.bind Tag.localName? with
    | none => return s
    | some name => if style = .plain && (s = "" || isNullWord s) then return name else failure
  | _ => failure

/-- Whether a scalar is null.  One that is tagged as null has to be spelled so. -/
def isNull? (m : Marks) (style : ScalarStyle) (s : String) : Option Bool :=
  if style ≠ .plain then some false
  else
    match m.tag with
    | none => some (s = "" || isNullWord s)
    | some t =>
      if t.isStandard "null" then (if isNullWord s then some true else none) else some false

def present (d : Document) (n : Node Nat) : Stepwise (Option (Node Nat)) := do
  match ← d.follow n with
  | .scalar m style s =>
    if ← isNull? m style s then return none else return some (.scalar m style s)
  | n => return some n

def form (d : Document) : Form (Node Nat) where
  fields := d.fields
  items := d.items
  text := d.text
  flag := d.flag
  natural := d.natural
  choice := d.choice
  present := d.present

def steps (d : Document) : Nat := 100 * d.root.size

end EventMachine.Yaml.Document
