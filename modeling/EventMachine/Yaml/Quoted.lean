import EventMachine.Json.Token
import EventMachine.Text.Decimal
import EventMachine.Yaml.Glyph

/-!
# Quoted scalars

Between single quotes a quote is written twice and nothing else is special.  Between double quotes
a backslash starts an escape: a letter that stands for a character, or a letter that says how many
hexadecimal digits of a code point follow.  Line ends are folded, and one after a backslash is
dropped.
-/

namespace EventMachine.Yaml

open EventMachine.Text

def escapeLetters : List (Char × Char) :=
  [('"', '"'), ('\\', '\\'), ('/', '/'), (' ', ' '), ('0', '\x00'), ('a', '\x07'), ('b', '\x08'),
    ('t', '\t'), ('\t', '\t'), ('n', '\n'), ('v', '\x0b'), ('f', '\x0c'), ('r', '\r'),
    ('e', '\x1b'), ('N', '\u0085'), ('_', '\u00a0'), ('L', '\u2028'), ('P', '\u2029')]

/-- How many hexadecimal digits follow a letter after a backslash. -/
def hexWidth (c : Char) : Option Nat := [('x', 2), ('u', 4), ('U', 8)].lookup c

def hexNumber (cs : List Char) : Option Nat :=
  cs.foldl (fun n c ↦ n.bind fun n ↦ (Json.hexValue c).map (16 * n + ·)) (some 0)

def hexChar? (cs : List Char) : Option Char :=
  (hexNumber cs).bind fun n ↦ if n.isValidChar then some (Char.ofNat n) else none

theorem length_dropWhile_le {α : Type} (p : α → Bool) (as : List α) :
    (as.dropWhile p).length ≤ as.length := (List.dropWhile_sublist p).length_le

def singleQuoted (gs : List Glyph) : Option (List Char × List Glyph) :=
  match gs with
  | [] => none
  | g :: gs =>
    if Glyph.atBoundary (g :: gs) then none
    else if g.isWhite then
      (singleQuoted (gs.dropWhile Glyph.isWhite)).map fun p ↦
        (Glyph.fold (g :: gs.takeWhile Glyph.isWhite) ++ p.1, p.2)
    else if g.char = '\'' then
      match gs with
      | [] => some ([], [])
      | h :: hs =>
        if h.char = '\'' then (singleQuoted hs).map fun p ↦ ('\'' :: p.1, p.2)
        else some ([], h :: hs)
    else (singleQuoted gs).map fun p ↦ (g.char :: p.1, p.2)
termination_by gs.length
decreasing_by
  · exact Nat.lt_succ_of_le (length_dropWhile_le _ _)
  · simp only [List.length_cons]
    omega
  · simp

def doubleQuoted (gs : List Glyph) : Option (List Char × List Glyph) :=
  match gs with
  | [] => none
  | g :: gs =>
    if Glyph.atBoundary (g :: gs) then none
    else if g.isWhite then
      (doubleQuoted (gs.dropWhile Glyph.isWhite)).map fun p ↦
        (Glyph.fold (g :: gs.takeWhile Glyph.isWhite) ++ p.1, p.2)
    else if g.char = '"' then some ([], gs)
    else if g.char = '\\' then
      match gs with
      | [] => none
      | h :: hs =>
        if h.isBreak then
          (doubleQuoted (hs.dropWhile Glyph.isWhite)).map fun p ↦
            (((hs.takeWhile Glyph.isWhite).filter Glyph.isBreak).map Glyph.char ++ p.1, p.2)
        else
          match escapeLetters.lookup h.char, hexWidth h.char with
          | some c, _ => (doubleQuoted hs).map fun p ↦ (c :: p.1, p.2)
          | none, some n =>
            if hs.length < n then none
            else
              (hexChar? ((hs.take n).map Glyph.char)).bind fun c ↦
                (doubleQuoted (hs.drop n)).map fun p ↦ (c :: p.1, p.2)
          | none, none => none
    else (doubleQuoted gs).map fun p ↦ (g.char :: p.1, p.2)
termination_by gs.length
decreasing_by
  · exact Nat.lt_succ_of_le (length_dropWhile_le _ _)
  · exact Nat.lt_succ_of_le (Nat.le_succ_of_le (length_dropWhile_le _ _))
  all_goals (simp only [List.length_cons, List.length_drop]; omega)

/-! ## Writing -/

def isVisible (c : Char) : Bool :=
  c = '\n' || (0x20 ≤ c.toNat && c.toNat ≤ 0x7E) ||
    (0xA0 ≤ c.toNat && c.toNat ∉ [0xFEFF, 0xFFFE, 0xFFFF])

def hexEscape (c : Char) : List Char :=
  let digits (width : Nat) : List Char :=
    (hexadecimalPadded width c.toNat).toList.map Char.toUpper
  if c.toNat ≤ 0xFF then 'x' :: digits 2
  else if c.toNat ≤ 0xFFFF then 'u' :: digits 4
  else 'U' :: digits 8

def escapeChar (c : Char) : List Char :=
  if c = '"' || c = '\\' || isBreak c || !isVisible c then
    match escapeLetters.find? (·.2 = c) with
    | some p => ['\\', p.1]
    | none => '\\' :: hexEscape c
  else [c]

def writeDoubleQuoted (s : String) : String :=
  String.ofList ('"' :: s.toList.flatMap escapeChar ++ ['"'])

def spaces (n : Nat) : List Char := List.replicate n ' '

/-- Text between single quotes; what follows a line end is indented. -/
def singleQuotedTail (indent : Nat) (afterBreak : Bool) : List Char → List Char
  | [] => (if afterBreak then spaces indent else []) ++ ['\'']
  | c :: cs =>
    if isBreak c then c :: singleQuotedTail indent true cs
    else
      (if afterBreak then spaces indent else []) ++
        ((if c = '\'' then ['\'', '\''] else [c]) ++ singleQuotedTail indent false cs)

/-- Text that holds no line feed, between single quotes. -/
def writeSingleQuoted (indent : Nat) (s : String) : String :=
  String.ofList ('\'' :: singleQuotedTail indent false s.toList)

end EventMachine.Yaml
