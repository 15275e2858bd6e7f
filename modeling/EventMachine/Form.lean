/-!
# Forms of documents

A setup can be kept in documents of more than one kind.  A form tells how records, lists and single
values are found in a kind of document; what is read from them is the same for all.  Reading may
take steps, of which there is a limited supply.
-/

namespace EventMachine

/-- Reading with a supply of steps. -/
abbrev Stepwise := StateT Nat Option

def Stepwise.step : Stepwise Unit := fun n ↦
  match n with
  | 0 => none
  | n + 1 => some ((), n)

structure Form (ν : Type) where
  /-- The fields of a record that has the given keys. -/
  fields : List String → ν → Stepwise (List (String × ν))
  items : ν → Stepwise (List ν)
  text : ν → Stepwise String
  flag : ν → Stepwise Bool
  natural : ν → Stepwise Nat
  /-- The name of one of several alternatives that hold nothing else. -/
  choice : ν → Stepwise String
  /-- The value itself, unless it is null. -/
  present : ν → Stepwise (Option ν)

namespace Form

variable {ν : Type} {α : Type}

/-- Fields that a record knows, if none of them is repeated. -/
def knownFields (keys : List String) (fs : List (String × ν)) : Stepwise (List (String × ν)) :=
  let known := fs.filter fun p ↦ p.1 ∈ keys
  if (known.map (·.1)).eraseDups.length = known.length then pure known else failure

def required (k : String) (read : ν → Stepwise α) (fs : List (String × ν)) : Stepwise α :=
  match fs.lookup k with
  | none => failure
  | some y => read y

def optional (k : String) (d : α) (read : ν → Stepwise α) (fs : List (String × ν)) : Stepwise α :=
  match fs.lookup k with
  | none => pure d
  | some y => read y

def nullable (f : Form ν) (read : ν → Stepwise α) (y : ν) : Stepwise (Option α) := do
  match ← f.present y with
  | none => return none
  | some y => return some (← read y)

def list (f : Form ν) (read : ν → Stepwise α) (y : ν) : Stepwise (List α) := do
  (← f.items y).mapM read

end Form

end EventMachine
