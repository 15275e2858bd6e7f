import EventMachine.Yaml.Block
import EventMachine.Yaml.Plain
import EventMachine.Yaml.Tag

/-!
# Tokens

Tokens are the scalars and marks of a text, together with the starts and ends of blocks, which are
told by indentation alone.  A key is recognized by the colon after it: wherever one may start, the
place is remembered, and a colon on the same line puts the token of the key there.
-/

namespace EventMachine.Yaml

inductive ScalarStyle
  | plain
  | single
  | double
  | literal
  | folded
  deriving DecidableEq, Repr

inductive Token
  | directive (d : Directive)
  | documentStart
  | documentEnd
  | blockListStart
  | blockMapStart
  | blockEnd
  | flowListStart
  | flowListEnd
  | flowMapStart
  | flowMapEnd
  | dash
  | comma
  | key
  | value
  | alias (name : String)
  | anchor (name : String)
  | tag (t : TagMark)
  | scalar (style : ScalarStyle) (text : String)
  deriving DecidableEq, Repr

/-- A place where a key may have started, and how many tokens precede it.  It is required to be one
if nothing else could stand there. -/
structure Candidate where
  line : Nat
  column : Nat
  offset : Nat
  number : Nat
  required : Bool
  deriving DecidableEq, Repr

/-- Whether a key cannot reach that far: it has to end on its line and within 1024 octets. -/
def Candidate.isStale (c : Candidate) (g : Glyph) : Bool :=
  c.line < g.line || c.offset + 1024 < g.offset

/-- What is known at some point of a text: the columns of the open blocks, the place where a key
may have started in the innermost collection and in each collection around it, whether one may
start next, and the tokens so far. -/
structure Layout where
  columns : List Nat := []
  candidate : Option Candidate := none
  outer : List (Option Candidate) := []
  mayStartKey : Bool := true
  tokens : Array Token := #[]

namespace Layout

def inFlow (s : Layout) : Bool := !s.outer.isEmpty

def margin (s : Layout) : Nat :=
  match s.columns with
  | [] => 0
  | c :: _ => c + 1

def push (s : Layout) (t : Token) : Layout := { s with tokens := s.tokens.push t }

/-! ## Blocks and keys -/

/-- Opens a block at a column, unless one is open there already.  Its token goes to the given
position. -/
def openBlock (s : Layout) (column number : Nat) (t : Token) : Layout :=
  if s.inFlow || column < s.margin then s
  else
    { s with
      columns := column :: s.columns
      tokens := s.tokens.insertIdxIfInBounds number t }

def endBlocks (s : Layout) (p : Nat → Bool) : Layout :=
  if s.inFlow then s
  else
    { s with
      columns := s.columns.dropWhile p
      tokens := s.tokens ++ (s.columns.takeWhile p).map fun _ ↦ Token.blockEnd }

def dropCandidate (s : Layout) : Option Layout :=
  if s.candidate.any (·.required) then none else some { s with candidate := none }

def dropStale (s : Layout) (g : Glyph) : Option Layout :=
  if (s.candidate :: s.outer).any fun c ↦ c.any fun c ↦ c.required && c.isStale g then none
  else
    some
      { s with
        candidate := s.candidate.filter (!·.isStale g)
        outer := s.outer.map fun c ↦ c.filter (!·.isStale g) }

def addCandidate (s : Layout) (g : Glyph) : Option Layout :=
  if s.mayStartKey then
    s.dropCandidate.map fun s ↦
      { s with
        candidate :=
          some
            { line := g.line
              column := g.column
              offset := g.offset
              number := s.tokens.size
              required := !s.inFlow && g.column + 1 = s.margin } }
  else some s

/-! ## Marks -/

def openFlow (s : Layout) (g : Glyph) (t : Token) : Option Layout :=
  (s.addCandidate g).map fun s ↦
    { s.push t with candidate := none, outer := s.candidate :: s.outer, mayStartKey := true }

def closeFlow (s : Layout) (t : Token) : Option Layout :=
  s.dropCandidate.map fun s ↦
    { s.push t with candidate := s.outer.headD none, outer := s.outer.tail, mayStartKey := false }

def comma (s : Layout) : Option Layout :=
  s.dropCandidate.map fun s ↦ { s.push .comma with mayStartKey := true }

/-- A dash, or the question mark before a key, opens a block of its kind. -/
def entry (s : Layout) (g : Glyph) (block t : Token) (mayStartKey : Bool) : Option Layout :=
  if !s.inFlow && !s.mayStartKey then none
  else
    (s.openBlock g.column s.tokens.size block).dropCandidate.map fun s ↦
      { s.push t with mayStartKey }

/-- A colon: if a key has started, its token is put where it did; otherwise the key was given by a
question mark or is missing. -/
def colon (s : Layout) (g : Glyph) : Option Layout :=
  match s.candidate with
  | some c =>
    let s := { s with tokens := s.tokens.insertIdxIfInBounds c.number .key }
    let s := s.openBlock c.column c.number .blockMapStart
    some { s.push .value with candidate := none, mayStartKey := false }
  | none =>
    if !s.inFlow && !s.mayStartKey then none
    else
      let s := s.openBlock g.column s.tokens.size .blockMapStart
      some { s.push .value with mayStartKey := !s.inFlow }

def boundary (s : Layout) (t : Token) : Option Layout :=
  (s.endBlocks fun _ ↦ true).dropCandidate.map fun s ↦ { s.push t with mayStartKey := false }

/-! ## Reading -/

def anchorName? (gs : List Glyph) : Option (String × List Glyph) :=
  let p := readName gs
  if p.1 ≠ "" && (Glyph.atGap p.2 ||
      p.2.head?.any (·.char ∈ ['?', ':', ',', ']', '}', '%', '@', '\x60'])) then some p
  else none

def content (s : Layout) (g : Glyph) (t : Token) : Option Layout :=
  (s.addCandidate g).map fun s ↦ { s.push t with mayStartKey := false }

def quotedScalar (s : Layout) (g : Glyph) (style : ScalarStyle)
    (p : Option (List Char × List Glyph)) : Option (Layout × List Glyph) := do
  let (cs, rest) ← p
  let s ← s.content g (.scalar style (String.ofList cs))
  return (s, rest)

def plainScalar (s : Layout) (g : Glyph) (gs : List Glyph) : Option (Layout × List Glyph) := do
  let (cs, ended, rest) ← plain s.inFlow s.margin (g :: gs)
  let s ← s.content g (.scalar .plain (String.ofList cs))
  return ({ s with mayStartKey := ended }, rest)

def blockScalar (s : Layout) (style : ScalarStyle) (gs : List Glyph) :
    Option (Layout × List Glyph) := do
  let s ← s.dropCandidate
  let (cs, rest) ← block (style = .folded) s.margin gs
  return ({ s.push (.scalar style (String.ofList cs)) with mayStartKey := true }, rest)

def tagToken (s : Layout) (g : Glyph) (gs : List Glyph) : Option (Layout × List Glyph) := do
  let (t, rest) ← TagMark.read? gs
  if Glyph.atGap rest || (s.inFlow && rest.head?.any (·.char = ',')) then
    let s ← s.content g (.tag t)
    return (s, rest)
  else none

def read (s : Layout) (g : Glyph) (gs : List Glyph) : Option (Layout × List Glyph) :=
  if g.column = 0 && g.char = '%' then do
    let (d, rest) ← Directive.read? gs
    return (← s.boundary (.directive d), rest)
  else if Glyph.atRule '-' (g :: gs) then (s.boundary .documentStart).map fun s ↦ (s, gs.drop 2)
  else if Glyph.atRule '.' (g :: gs) then (s.boundary .documentEnd).map fun s ↦ (s, gs.drop 2)
  else
    match g.char with
    | '[' => (s.openFlow g .flowListStart).map fun s ↦ (s, gs)
    | '{' => (s.openFlow g .flowMapStart).map fun s ↦ (s, gs)
    | ']' => (s.closeFlow .flowListEnd).map fun s ↦ (s, gs)
    | '}' => (s.closeFlow .flowMapEnd).map fun s ↦ (s, gs)
    | ',' => s.comma.map fun s ↦ (s, gs)
    | '-' =>
      if Glyph.atGap gs then (s.entry g .blockListStart .dash true).map fun s ↦ (s, gs)
      else s.plainScalar g gs
    | '?' =>
      if s.inFlow || Glyph.atGap gs then
        (s.entry g .blockMapStart .key (!s.inFlow)).map fun s ↦ (s, gs)
      else s.plainScalar g gs
    | ':' =>
      if s.inFlow || Glyph.atGap gs then (s.colon g).map fun s ↦ (s, gs)
      else s.plainScalar g gs
    | '*' =>
      (anchorName? gs).bind fun p ↦ (s.content g (.alias p.1)).map fun s ↦ (s, p.2)
    | '&' =>
      (anchorName? gs).bind fun p ↦ (s.content g (.anchor p.1)).map fun s ↦ (s, p.2)
    | '!' => s.tagToken g gs
    | '|' => if s.inFlow then none else s.blockScalar .literal gs
    | '>' => if s.inFlow then none else s.blockScalar .folded gs
    | '\'' => s.quotedScalar g .single (singleQuoted gs)
    | '"' => s.quotedScalar g .double (doubleQuoted gs)
    | c => if isBlank c || c ∈ ['#', '%', '@', '\x60'] then none else s.plainScalar g gs

/-- Skips white space and comments.  Outside flow collections no tab may stand where a key may
start, and one may start on each new line. -/
def skipGap (inFlow inComment mayStartKey : Bool) : List Glyph → Bool × List Glyph
  | [] => (mayStartKey, [])
  | g :: gs =>
    if g.isBreak then skipGap inFlow false (mayStartKey || !inFlow) gs
    else if inComment || g.char = ' ' || (g.char = '\t' && (inFlow || !mayStartKey)) ||
        (g.column = 0 && g.char = byteOrderMark) then
      skipGap inFlow inComment mayStartKey gs
    else if g.char = '#' then skipGap inFlow true mayStartKey gs
    else (mayStartKey, g :: gs)

/-- The tokens of a text.  Each takes one character at least, so that there is fuel enough. -/
def scan : Nat → Layout → List Glyph → Option (Array Token)
  | 0, _, _ => none
  | fuel + 1, s, gs =>
    let p := skipGap s.inFlow false s.mayStartKey gs
    let s := { s with mayStartKey := p.1 }
    match p.2 with
    | [] => ((s.endBlocks fun _ ↦ true).dropCandidate).map (·.tokens)
    | g :: gs => do
      let s ← s.dropStale g
      let (s, rest) ← (s.endBlocks (g.column < ·)).read g gs
      scan fuel s rest

end Layout

def Token.ofText? (s : String) : Option (List Token) :=
  (Glyph.ofText? s).bind fun gs ↦
    (Layout.scan (gs.length + 1) {} gs).map Array.toList

end EventMachine.Yaml
