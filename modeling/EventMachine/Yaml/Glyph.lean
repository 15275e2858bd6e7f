/-!
# Placed characters

A text is read as a list of characters that know where they stand, so that what is left of it also
tells the line, the column and the octets of the line so far.  Every line end counts as one
character: a line feed for most of them, and itself for the two separators U+2028 and U+2029, which
are kept in scalars.
-/

namespace EventMachine.Yaml

/-- A character, the line and column where it stands, and how many octets of its line precede it. -/
structure Glyph where
  char : Char
  line : Nat
  column : Nat
  offset : Nat
  deriving DecidableEq, Repr

def isBreak (c : Char) : Bool :=
  c = '\n' || c = '\r' || c = '\u0085' || c = '\u2028' || c = '\u2029'

def isBlank (c : Char) : Bool := c = ' ' || c = '\t'

def isReadable (c : Char) : Bool :=
  isBreak c || c = '\t' || (0x20 ≤ c.toNat && c.toNat ≤ 0x7E) ||
    (0xA0 ≤ c.toNat && c.toNat ∉ [0xFFFE, 0xFFFF])

/-- The mark that may stand at the start of a line without being a part of it. -/
def byteOrderMark : Char := '\ufeff'

namespace Glyph

def isBreak (g : Glyph) : Bool := Yaml.isBreak g.char

def isBlank (g : Glyph) : Bool := Yaml.isBlank g.char

def isWhite (g : Glyph) : Bool := g.isBlank || g.isBreak

/-- One line feed for each line end but the two separators. -/
def unifyBreaks : List Char → List Char
  | [] => []
  | '\r' :: '\n' :: cs => '\n' :: unifyBreaks cs
  | c :: cs => (if c = '\r' || c = '\u0085' then '\n' else c) :: unifyBreaks cs

def place (line column offset : Nat) : List Char → List Glyph
  | [] => []
  | c :: cs =>
    ⟨c, line, column, offset⟩ ::
      if Yaml.isBreak c then place (line + 1) 0 0 cs
      else place line (column + 1) (offset + c.utf8Size) cs

def ofText? (s : String) : Option (List Glyph) :=
  if s.toList.all isReadable then some (place 0 0 0 (unifyBreaks s.toList)) else none

/-! ## White space -/

def atGap (gs : List Glyph) : Bool := gs.head?.all isWhite

/-- Whether a line starts with three of a character and nothing more than white space follows. -/
def atRule (c : Char) (gs : List Glyph) : Bool :=
  gs.head?.any (·.column = 0) && (gs.take 3).map char = [c, c, c] && atGap (gs.drop 3)

def atBoundary (gs : List Glyph) : Bool := atRule '-' gs || atRule '.' gs

/-- What is left once blanks and a comment are skipped, if the line is at its end there. -/
def endOfLine? (gs : List Glyph) : Option (List Glyph) :=
  let gs := gs.dropWhile isBlank
  let gs := if gs.head?.any (·.char = '#') then gs.dropWhile (!·.isBreak) else gs
  match gs with
  | [] => some []
  | g :: gs => if g.isBreak then some gs else none

/-- White space inside a scalar.  A single line feed becomes a space, and of several line ends the
first is dropped if it is a line feed; blanks count only where no line ends. -/
def fold (gap : List Glyph) : List Char :=
  match (gap.filter isBreak).map char with
  | [] => gap.map char
  | ['\n'] => [' ']
  | '\n' :: cs => cs
  | cs => cs

end Glyph

end EventMachine.Yaml
