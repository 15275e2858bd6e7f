import EventMachine.Yaml.Quoted

/-!
# Block scalars

A bar or an angle bracket at the end of a line starts a block scalar, which is made of the deeper
lines below it.  After a bar every line end is kept; after an angle bracket the line ends between
lines that do not start with a blank are folded.  Marks on the first line may give the indentation
of the block and say what becomes of the line ends at its end.
-/

namespace EventMachine.Yaml

open EventMachine.Text

/-- What becomes of the line ends at the end of a block: one is left, none, or all. -/
inductive Chomping
  | clip
  | strip
  | keep
  deriving DecidableEq, Repr

def Chomping.mark : Chomping → String
  | clip => ""
  | strip => "-"
  | keep => "+"

def Chomping.read (gs : List Glyph) : Chomping × List Glyph :=
  match gs with
  | [] => (clip, [])
  | g :: gs =>
    if g.char = '-' then (strip, gs) else if g.char = '+' then (keep, gs) else (clip, g :: gs)

/-- The marks on the first line of a block: how much deeper it is, if that is said, and the
chomping. -/
structure BlockHead where
  depth : Option Nat
  chomping : Chomping
  deriving DecidableEq, Repr

namespace BlockHead

def readDepth (gs : List Glyph) : Option (Option Nat × List Glyph) :=
  match gs with
  | [] => some (none, [])
  | g :: gs =>
    match digitValue g.char with
    | none => some (none, g :: gs)
    | some 0 => none
    | some n => some (some n, gs)

/-- The two marks come in either order, and the line ends after them. -/
def read? (gs : List Glyph) : Option (BlockHead × List Glyph) := do
  let (before, gs) := Chomping.read gs
  let (depth, gs) ← readDepth gs
  let (chomping, gs) := if before = .clip then Chomping.read gs else (before, gs)
  let gs ← Glyph.endOfLine? gs
  return (⟨depth, chomping⟩, gs)

end BlockHead

/-- Skips indentation and the lines that hold nothing else: the farthest column reached, the line
ends, and what follows.  A block whose depth is unknown is indented as far as spaces go, and no tab
may stand in the indentation. -/
def skipIndent (depth : Option Nat) : List Glyph → Option (Nat × List Char × List Glyph)
  | [] => some (0, [], [])
  | g :: gs =>
    let inMargin := depth.all (g.column < ·)
    if inMargin && g.char = ' ' then skipIndent depth gs
    else if inMargin && g.char = '\t' then none
    else if g.isBreak then
      (skipIndent depth gs).map fun p ↦ (max g.column p.1, g.char :: p.2.1, p.2.2)
    else some (g.column, [], g :: gs)

theorem skipIndent_length {depth : Option Nat} {gs : List Glyph}
    {p : Nat × List Char × List Glyph} (h : skipIndent depth gs = some p) :
    p.2.2.length ≤ gs.length := by
  induction gs generalizing p with
  | nil =>
    cases h
    simp
  | cons g gs ih =>
    rw [skipIndent] at h
    split at h
    · exact Nat.le_succ_of_le (ih h)
    · split at h
      · cases h
      · split at h
        · obtain ⟨q, hq, rfl⟩ := Option.map_eq_some_iff.mp h
          have : q.2.2.length ≤ gs.length := ih hq
          exact Nat.le_succ_of_le this
        · cases h
          simp

structure BlockLine where
  content : List Char
  ending : List Char
  blanks : List Char
  deriving DecidableEq, Repr

def BlockLine.startsBlank (l : BlockLine) : Bool := l.content.head?.any isBlank

def blockLines (depth : Nat) (gs : List Glyph) : Option (List BlockLine × List Glyph) :=
  match gs with
  | [] => some ([], [])
  | g :: gs =>
    if g.column ≠ depth then some ([], g :: gs)
    else
      let content := (g :: gs).takeWhile (!·.isBreak)
      let rest := (g :: gs).dropWhile (!·.isBreak)
      match h : skipIndent depth (rest.drop 1) with
      | none => none
      | some (_, blanks, next) =>
        have := skipIndent_length h
        let line : BlockLine :=
          ⟨content.map Glyph.char, (rest.take 1).map Glyph.char, blanks⟩
        (blockLines depth next).map fun p ↦ (line :: p.1, p.2)
termination_by gs.length
decreasing_by
  have hl := length_dropWhile_le (fun g : Glyph ↦ !g.isBreak) (g :: gs)
  simp only [rest, List.length_drop, List.length_cons] at this hl ⊢
  omega

def between (folded : Bool) (l m : BlockLine) : List Char :=
  if folded && l.ending = ['\n'] && !l.startsBlank && !m.startsBlank then
    if l.blanks = [] then [' '] else l.blanks
  else l.ending ++ l.blanks

def joinLines (folded : Bool) (chomping : Chomping) : List BlockLine → List Char
  | [] => []
  | [l] =>
    l.content ++
      match chomping with
      | .clip => l.ending
      | .strip => []
      | .keep => l.ending ++ l.blanks
  | l :: m :: ls => l.content ++ (between folded l m ++ joinLines folded chomping (m :: ls))

/-- The text of a block scalar after its bar or angle bracket, and what follows it.  The block is
deeper than the margin allows at least. -/
def block (folded : Bool) (margin : Nat) (gs : List Glyph) :
    Option (List Char × List Glyph) := do
  let (head, gs) ← BlockHead.read? gs
  let depth := head.depth.map fun n ↦ margin - 1 + n
  let (farthest, blanks, gs) ← skipIndent depth gs
  let (ls, rest) ← blockLines (depth.getD (max farthest (max margin 1))) gs
  if ls = [] then return (if head.chomping = .keep then blanks else [], rest)
  else return (blanks ++ joinLines folded head.chomping ls, rest)

end EventMachine.Yaml
