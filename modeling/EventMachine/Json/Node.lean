import EventMachine.Json.Token

/-!
# What can be read of a JSON text

A text is read into a tree even if it is defective: the tree then holds what precedes the defect,
and a single `broken` leaf or ending where reading stopped.  Walking the tree in document order
meets the parts of a text, its defect included, in the order in which they are written.

Reading is a run of a stack machine over the tokens, so it always ends, whatever the text.
-/

namespace EventMachine.Json

/-- How a list or an object ends.  A `counted` list was not read from text, and its length is known
beforehand. -/
inductive Ending
  | closed
  | counted
  | broken (d : Defect)
  deriving DecidableEq, Repr

inductive Node
  | null
  | flag (b : Bool)
  | number (n : Number)
  | text (s : String)
  | list (items : List Node) (ending : Ending)
  | object (members : List (String × Node)) (ending : Ending)
  | broken (d : Defect)

/-- An open list or object whose next item or member value is being read.  Earlier parts are listed
latest first. -/
inductive Frame
  | list (items : List Node)
  | object (members : List (String × Node)) (key : String)

/-- The place reading has come to, with the containers that are open around it. -/
inductive Place
  | value (outer : List Frame)
  | listStart (outer : List Frame)
  | item (items : List Node) (outer : List Frame)
  | itemComma (items : List Node) (outer : List Frame)
  | objectStart (outer : List Frame)
  | key (members : List (String × Node)) (key : String) (outer : List Frame)
  | member (members : List (String × Node)) (outer : List Frame)
  | memberComma (members : List (String × Node)) (outer : List Frame)
  | complete (root : Node)
  | stopped (root : Node)
  | surplus (root : Node)

def settle (n : Node) : List Frame → Place
  | [] => .complete n
  | .list items :: outer => .item (n :: items) outer
  | .object members k :: outer => .member ((k, n) :: members) outer

def wrap (n : Node) : List Frame → Node
  | [] => n
  | .list items :: outer => wrap (.list (n :: items).reverse .closed) outer
  | .object members k :: outer => wrap (.object ((k, n) :: members).reverse .closed) outer

def stop (n : Node) (outer : List Frame) : Place := .stopped (wrap n outer)

def startValue (outer : List Frame) : Token → Place
  | .null => settle .null outer
  | .flag b => settle (.flag b) outer
  | .number n => settle (.number n) outer
  | .text s => settle (.text s) outer
  | .openList => .listStart outer
  | .openObject => .objectStart outer
  | .broken _ d => stop (.broken d) outer
  | _ => stop (.broken .noValue) outer

def startKey (members : List (String × Node)) (outer : List Frame) : Token → Place
  | .text k => .key members k outer
  | .broken true d => stop (.object members.reverse (.broken d)) outer
  | _ => stop (.object members.reverse (.broken .keyNotText)) outer

def step : Place → Token → Place
  | .value outer, t => startValue outer t
  | .listStart outer, .closeList => settle (.list [] .closed) outer
  | .listStart outer, t => startValue (.list [] :: outer) t
  | .item items outer, .closeList => settle (.list items.reverse .closed) outer
  | .item items outer, .comma => .itemComma items outer
  | .item items outer, _ => stop (.list items.reverse (.broken .noItemSeparator)) outer
  | .itemComma items outer, .closeList =>
    stop (.list items.reverse (.broken .trailingComma)) outer
  | .itemComma items outer, t => startValue (.list items :: outer) t
  | .objectStart outer, .closeObject => settle (.object [] .closed) outer
  | .objectStart outer, t => startKey [] outer t
  | .key members k outer, .colon => .value (.object members k :: outer)
  | .key members k outer, _ => stop (.broken .noColon) (.object members k :: outer)
  | .member members outer, .closeObject => settle (.object members.reverse .closed) outer
  | .member members outer, .comma => .memberComma members outer
  | .member members outer, _ =>
    stop (.object members.reverse (.broken .noMemberSeparator)) outer
  | .memberComma members outer, .closeObject =>
    stop (.object members.reverse (.broken .trailingComma)) outer
  | .memberComma members outer, t => startKey members outer t
  | .complete root, _ => .surplus root
  | .stopped root, _ => .stopped root
  | .surplus root, _ => .surplus root

structure Reading where
  root : Node
  surplus : Bool

def finish : Place → Reading
  | .value outer => ⟨wrap (.broken .endInValue) outer, false⟩
  | .listStart outer => ⟨wrap (.list [] (.broken .endInList)) outer, false⟩
  | .item items outer => ⟨wrap (.list items.reverse (.broken .endInList)) outer, false⟩
  | .itemComma items outer => ⟨wrap (.list items.reverse (.broken .endInValue)) outer, false⟩
  | .objectStart outer => ⟨wrap (.object [] (.broken .endInObject)) outer, false⟩
  | .key members k outer => ⟨wrap (.broken .endInObject) (.object members k :: outer), false⟩
  | .member members outer => ⟨wrap (.object members.reverse (.broken .endInObject)) outer, false⟩
  | .memberComma members outer =>
    ⟨wrap (.object members.reverse (.broken .endInValue)) outer, false⟩
  | .complete root => ⟨root, false⟩
  | .stopped root => ⟨root, false⟩
  | .surplus root => ⟨root, true⟩

def run (p : Place) (ts : List Token) : Place := ts.foldl step p

@[simp] theorem run_cons (p : Place) (t : Token) (ts : List Token) :
    run p (t :: ts) = run (step p t) ts := rfl

def Reading.ofText (s : String) : Reading := finish (run (.value []) (scan s.toList))

end EventMachine.Json
