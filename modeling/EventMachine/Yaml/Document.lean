import EventMachine.Yaml.Node

/-!
# Documents

A text holds one document at most.  Its aliases are resolved to the anchored nodes, which are
counted in the order in which they start.
-/

namespace EventMachine.Yaml

namespace Node

mutual

def anchors {α : Type} : Node α → List String
  | .alias _ => []
  | .scalar m _ _ => m.anchor.toList
  | .list m ns => m.anchor.toList ++ anchorsOfItems ns
  | .map m ms => m.anchor.toList ++ anchorsOfMembers ms

def anchorsOfItems {α : Type} : List (Node α) → List String
  | [] => []
  | n :: ns => anchors n ++ anchorsOfItems ns

def anchorsOfMembers {α : Type} : List (Node α × Node α) → List String
  | [] => []
  | (k, v) :: ms => anchors k ++ (anchors v ++ anchorsOfMembers ms)

end

mutual

def anchored {α : Type} : Node α → List (Node α)
  | .alias _ => []
  | .scalar m style s => m.anchor.toList.map fun _ ↦ .scalar m style s
  | .list m ns => (m.anchor.toList.map fun _ ↦ .list m ns) ++ anchoredItems ns
  | .map m ms => (m.anchor.toList.map fun _ ↦ .map m ms) ++ anchoredMembers ms

def anchoredItems {α : Type} : List (Node α) → List (Node α)
  | [] => []
  | n :: ns => anchored n ++ anchoredItems ns

def anchoredMembers {α : Type} : List (Node α × Node α) → List (Node α)
  | [] => []
  | (k, v) :: ms => anchored k ++ (anchored v ++ anchoredMembers ms)

end

mutual

def size {α : Type} : Node α → Nat
  | .alias _ => 1
  | .scalar _ _ _ => 1
  | .list _ ns => sizeOfItems ns + 2
  | .map _ ms => sizeOfMembers ms + 2

def sizeOfItems {α : Type} : List (Node α) → Nat
  | [] => 0
  | n :: ns => size n + sizeOfItems ns

def sizeOfMembers {α : Type} : List (Node α × Node α) → Nat
  | [] => 0
  | (k, v) :: ms => size k + (size v + sizeOfMembers ms)

end

mutual

/-- Replaces each alias by what it points to, which depends on the number of anchors before it. -/
def resolve (target? : Nat → String → Option Nat) (before : Nat) :
    Node String → Option (Node Nat)
  | .alias name => (target? before name).map .alias
  | .scalar m style s => some (.scalar m style s)
  | .list m ns =>
    (resolveItems target? (before + m.anchor.toList.length) ns).map fun ns ↦ .list m ns
  | .map m ms =>
    (resolveMembers target? (before + m.anchor.toList.length) ms).map fun ms ↦ .map m ms

def resolveItems (target? : Nat → String → Option Nat) (before : Nat) :
    List (Node String) → Option (List (Node Nat))
  | [] => some []
  | n :: ns => do
    let m ← resolve target? before n
    let ms ← resolveItems target? (before + n.anchors.length) ns
    return m :: ms

def resolveMembers (target? : Nat → String → Option Nat) (before : Nat) :
    List (Node String × Node String) → Option (List (Node Nat × Node Nat))
  | [] => some []
  | (k, v) :: ms => do
    let k' ← resolve target? before k
    let v' ← resolve target? (before + k.anchors.length) v
    let ms' ← resolveMembers target? (before + k.anchors.length + v.anchors.length) ms
    return (k', v') :: ms'

end

end Node

/-! ## Anchors -/

/-- The number of each anchor: how many names there were before it. -/
def anchorNumbers (seen : List String) : List String → List Nat
  | [] => []
  | name :: names =>
    seen.length :: anchorNumbers (if name ∈ seen then seen else name :: seen) names

def lastIdx? {α : Type} (p : α → Bool) (as : List α) : Option Nat :=
  (as.reverse.findIdx? p).map fun i ↦ as.length - 1 - i

/-- The anchor that an alias means: the last one with the number of the last anchor of that name
before the alias. -/
def target? (names : List String) (before : Nat) (name : String) : Option Nat := do
  let numbers := anchorNumbers [] names
  let i ← lastIdx? (· = name) (names.take before)
  let number ← numbers[i]?
  lastIdx? (· = number) numbers

/-! ## Documents -/

structure Document where
  root : Node Nat
  targets : List (Node Nat)

namespace Document

def ofNode? (n : Node String) : Option Document :=
  (n.resolve (target? n.anchors) 0).map fun root ↦ ⟨root, root.anchored⟩

/-- The handles that directives define; each may be defined once, and of the versions 1.1 and 1.2
one may be named. -/
def handles? (versioned : Bool) (handles : Node.Handles) : List Directive → Option Node.Handles
  | [] => some (handles ++ standardHandles)
  | .version major minor :: ds =>
    if versioned || major ≠ 1 || minor ∉ [1, 2] then none else handles? true handles ds
  | .handle name lead :: ds =>
    if (handles.lookup name).isSome then none
    else handles? versioned (handles ++ [(name, lead)]) ds

def readDirectives : List Token → List Directive × List Token
  | .directive d :: ts =>
    let p := readDirectives ts
    (d :: p.1, p.2)
  | ts => ([], ts)

def isBoundary : Token → Bool
  | .directive _ | .documentStart | .documentEnd => true
  | _ => false

/-- The node of a document, and what follows it.  Directives need a mark at the start of the
document, and only after such a mark may the document be empty. -/
def readRoot (ts : List Token) : Option (Node String × List Token) :=
  let fuel := 2 * ts.length + 2
  match readDirectives ts with
  | (ds, .documentStart :: ts) => do
    let handles ← handles? false [] ds
    if ts.head?.all isBoundary then return (.empty, ts)
    else Node.read handles fuel true false ts
  | ([], ts) => Node.read standardHandles fuel true false ts
  | _ => none

def ofText? (s : String) : Option Document := do
  let ts ← Token.ofText? s
  if ts = [] then ofNode? .empty
  else
    let (n, rest) ← readRoot ts
    if rest.all (· = .documentEnd) then ofNode? n else none

end Document

end EventMachine.Yaml
