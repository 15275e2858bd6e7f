import EventMachine.Yaml.Quoted

/-!
# Plain scalars

A plain scalar is made of words with white space between them.  It ends before a comment, before a
colon that ends a key, before a line that is not indented deeply enough, and inside a flow
collection before a mark of the collection.
-/

namespace EventMachine.Yaml

def isFlowMark (c : Char) : Bool := c ∈ ['{', '}', '[', ']', ',']

/-- A word of a plain scalar, and what follows it.  Inside a flow collection a colon may not stand
directly before a mark. -/
def word (inFlow : Bool) : List Glyph → Option (List Char × List Glyph)
  | [] => some ([], [])
  | g :: gs =>
    if g.isWhite then some ([], g :: gs)
    else if inFlow && g.char = ':' && gs.head?.any (fun h ↦ isFlowMark h.char || h.char = '?') then
      none
    else if (g.char = ':' && Glyph.atGap gs) || (inFlow && isFlowMark g.char) then
      some ([], g :: gs)
    else (word inFlow gs).map fun p ↦ (g.char :: p.1, p.2)

theorem word_length {inFlow : Bool} {gs : List Glyph} {p : List Char × List Glyph}
    (h : word inFlow gs = some p) : p.1.length + p.2.length = gs.length := by
  induction gs generalizing p with
  | nil =>
    simp only [word, Option.some.injEq] at h
    simp [← h]
  | cons g gs ih =>
    rw [word] at h
    split at h
    · cases h
      simp
    · split at h
      · cases h
      · split at h
        · cases h
          simp
        · obtain ⟨q, hq, rfl⟩ := Option.map_eq_some_iff.mp h
          have := ih hq
          simp only [List.length_cons]
          omega

/-- Whether a tab stands where a line is indented. -/
def hasStrayTab (margin : Nat) (gap : List Glyph) : Bool :=
  (gap.dropWhile (!·.isBreak)).any fun g ↦ g.char = '\t' && g.column < margin

/-- The text of a plain scalar, whether a line ends in the white space after it, and what follows
that white space.  Lines below the first one have to be indented by the margin. -/
def plain (inFlow : Bool) (margin : Nat) (gs : List Glyph) :
    Option (List Char × Bool × List Glyph) :=
  if Glyph.atBoundary gs || gs.head?.any (·.char = '#') then some ([], false, gs)
  else
    match h : word inFlow gs with
    | none => none
    | some ([], rest) => some ([], false, rest)
    | some (c :: cs, rest) =>
      have := word_length h
      let gap := rest.takeWhile Glyph.isWhite
      let next := rest.dropWhile Glyph.isWhite
      let ended := gap.any Glyph.isBreak
      if gap = [] then some (c :: cs, false, rest)
      else if hasStrayTab margin gap then none
      else if !inFlow && next.head?.any (·.column < margin) then some (c :: cs, ended, next)
      else
        (plain inFlow margin next).map fun p ↦
          if p.1 = [] then (c :: cs, ended, p.2.2)
          else ((c :: cs) ++ (Glyph.fold gap ++ p.1), p.2)
termination_by gs.length
decreasing_by
  have hl := length_dropWhile_le Glyph.isWhite rest
  simp only [List.length_cons] at this
  omega

end EventMachine.Yaml
