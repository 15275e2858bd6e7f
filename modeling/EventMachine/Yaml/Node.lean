import EventMachine.Yaml.Token

/-!
# Nodes

Tokens form nodes: scalars, lists, mappings and aliases.  A node may carry an anchor and a tag, and
one that is left out is an empty plain scalar.
-/

namespace EventMachine.Yaml

structure Marks where
  anchor : Option String := none
  tag : Option Tag := none
  deriving DecidableEq, Repr

/-- A node whose aliases point to targets of a type. -/
inductive Node (α : Type)
  | alias (target : α)
  | scalar (marks : Marks) (style : ScalarStyle) (text : String)
  | list (marks : Marks) (items : List (Node α))
  | map (marks : Marks) (members : List (Node α × Node α))

namespace Node

def empty {α : Type} (marks : Marks := {}) : Node α := .scalar marks .plain ""

/-- The octets that tag handles stand for. -/
abbrev Handles := List (String × List UInt8)

def readTag (handles : Handles) : List Token → Option (Option Tag × List Token)
  | .tag t :: ts => (t.resolve? handles).map fun tag ↦ (some tag, ts)
  | ts => some (none, ts)

def readAnchor : List Token → Option String × List Token
  | .anchor name :: ts => (some name, ts)
  | ts => (none, ts)

def readMarks (handles : Handles) (ts : List Token) : Option (Marks × List Token) := do
  let (before, ts) := readAnchor ts
  let (tag, ts) ← readTag handles ts
  let (anchor, ts) := if before.isNone then readAnchor ts else (before, ts)
  return (⟨anchor, tag⟩, ts)

def nextIs (ends : List Token) (ts : List Token) : Bool := ts.head?.any (· ∈ ends)

def memberEnds : List Token := [.key, .value, .blockEnd]

mutual

/-- A node, and what follows it.  Blocks may start only where the text is not inside a flow
collection, and the dashes of a list need no indentation where the node belongs to a mapping. -/
def read (handles : Handles) : Nat → (inBlock indentless : Bool) → List Token →
    Option (Node String × List Token)
  | 0, _, _, _ => none
  | _, _, _, .alias name :: ts => some (.alias name, ts)
  | fuel + 1, inBlock, indentless, ts => do
    let (marks, rest) ← readMarks handles ts
    match rest with
    | .scalar style text :: ts => return (.scalar marks style text, ts)
    | .flowListStart :: ts =>
      let (ns, ts) ← flowItems handles fuel true ts
      return (.list marks ns, ts)
    | .flowMapStart :: ts =>
      let (ms, ts) ← flowMembers handles fuel true ts
      return (.map marks ms, ts)
    | .blockListStart :: ts =>
      if inBlock then
        let (ns, ts) ← blockItems handles fuel ts
        return (.list marks ns, ts)
      else leftOut marks rest
    | .blockMapStart :: ts =>
      if inBlock then
        let (ms, ts) ← blockMembers handles fuel ts
        return (.map marks ms, ts)
      else leftOut marks rest
    | .dash :: _ =>
      if indentless then
        let (ns, ts) ← indentlessItems handles fuel rest
        return (.list marks ns, ts)
      else leftOut marks rest
    | _ => leftOut marks rest

/-- A node that is left out; nothing but its marks tells that it is there. -/
def leftOut (marks : Marks) (ts : List Token) : Option (Node String × List Token) :=
  if marks.anchor.isSome || marks.tag.isSome then some (.empty marks, ts) else none

def readUnless (handles : Handles) : Nat → (ends : List Token) → (inBlock : Bool) → List Token →
    Option (Node String × List Token)
  | 0, _, _, _ => none
  | fuel + 1, ends, inBlock, ts =>
    if nextIs ends ts then some (.empty, ts) else read handles fuel inBlock inBlock ts

def blockItems (handles : Handles) : Nat → List Token → Option (List (Node String) × List Token)
  | 0, _ => none
  | _, .blockEnd :: ts => some ([], ts)
  | fuel + 1, .dash :: ts => do
    let (n, ts) ←
      if nextIs [.dash, .blockEnd] ts then some (.empty, ts) else read handles fuel true false ts
    let (ns, ts) ← blockItems handles fuel ts
    return (n :: ns, ts)
  | _, _ => none

/-- The items of a block list that is not indented, which no token ends. -/
def indentlessItems (handles : Handles) : Nat → List Token →
    Option (List (Node String) × List Token)
  | 0, _ => none
  | fuel + 1, .dash :: ts => do
    let (n, ts) ←
      if nextIs (.dash :: memberEnds) ts then some (.empty, ts)
      else read handles fuel true false ts
    let (ns, ts) ← indentlessItems handles fuel ts
    return (n :: ns, ts)
  | _, ts => some ([], ts)

def blockMembers (handles : Handles) : Nat → List Token →
    Option (List (Node String × Node String) × List Token)
  | 0, _ => none
  | _, .blockEnd :: ts => some ([], ts)
  | fuel + 1, .key :: ts => do
    let (k, ts) ← readUnless handles fuel memberEnds true ts
    let (v, ts) ←
      match ts with
      | .value :: ts => readUnless handles fuel memberEnds true ts
      | ts => some (.empty, ts)
    let (ms, ts) ← blockMembers handles fuel ts
    return ((k, v) :: ms, ts)
  | _, _ => none

/-- The value of a member inside a flow collection that ends with the given token. -/
def flowValue (handles : Handles) : Nat → (last : Token) → List Token →
    Option (Node String × List Token)
  | 0, _, _ => none
  | fuel + 1, last, .value :: ts => readUnless handles fuel [.comma, last] false ts
  | _, _, ts => some (.empty, ts)

/-- The items of a flow list.  A key makes a mapping of one member; if the key itself is left out,
the token after it is taken for it. -/
def flowItems (handles : Handles) : Nat → (first : Bool) → List Token →
    Option (List (Node String) × List Token)
  | 0, _, _ => none
  | _, _, .flowListEnd :: ts => some ([], ts)
  | fuel + 1, first, ts => do
    let ts ← afterComma first ts
    match ts with
    | .flowListEnd :: ts => return ([], ts)
    | .key :: ts =>
      let (k, ts) ←
        if nextIs [.value, .comma, .flowListEnd] ts then some (.empty, ts.drop 1)
        else read handles fuel false false ts
      let (v, ts) ← flowValue handles fuel .flowListEnd ts
      let (ns, ts) ← flowItems handles fuel false ts
      return (.map {} [(k, v)] :: ns, ts)
    | ts =>
      let (n, ts) ← read handles fuel false false ts
      let (ns, ts) ← flowItems handles fuel false ts
      return (n :: ns, ts)

/-- The members of a flow mapping.  A node without a key mark is a key without a value. -/
def flowMembers (handles : Handles) : Nat → (first : Bool) → List Token →
    Option (List (Node String × Node String) × List Token)
  | 0, _, _ => none
  | _, _, .flowMapEnd :: ts => some ([], ts)
  | fuel + 1, first, ts => do
    let ts ← afterComma first ts
    match ts with
    | .flowMapEnd :: ts => return ([], ts)
    | .key :: ts =>
      let (k, ts) ← readUnless handles fuel [.value, .comma, .flowMapEnd] false ts
      let (v, ts) ← flowValue handles fuel .flowMapEnd ts
      let (ms, ts) ← flowMembers handles fuel false ts
      return ((k, v) :: ms, ts)
    | ts =>
      let (k, ts) ← read handles fuel false false ts
      let (ms, ts) ← flowMembers handles fuel false ts
      return ((k, .empty) :: ms, ts)

def afterComma (first : Bool) (ts : List Token) : Option (List Token) :=
  match first, ts with
  | true, ts => some ts
  | false, .comma :: ts => some ts
  | false, _ => none

end

end Node

end EventMachine.Yaml
