import EventMachine.Json.Token
import EventMachine.Text.Decimal
import EventMachine.Yaml.Glyph

/-!
# Tags and directives

A tag is written as a handle and a suffix, and a directive may say what the handle stands for.
Characters of a suffix can be written as octets, a percent sign and two hexadecimal digits each,
which together have the form of UTF-8.
-/

namespace EventMachine.Yaml

open EventMachine.Text

def isNameChar (c : Char) : Bool := c.isAlphanum || c = '_' || c = '-'

def readName (gs : List Glyph) : String × List Glyph :=
  (String.ofList ((gs.takeWhile fun g ↦ isNameChar g.char).map Glyph.char),
    gs.dropWhile fun g ↦ isNameChar g.char)

structure Tag where
  octets : List UInt8
  deriving DecidableEq, Repr

namespace Tag

def text? (t : Tag) : Option String := String.fromUTF8? ⟨t.octets.toArray⟩

def localName? (t : Tag) : Option String :=
  t.text?.bind fun s ↦
    match s.toList with
    | ['!'] => some s
    | '!' :: cs => some (String.ofList cs)
    | _ => none

def standard : String := "tag:yaml.org,2002:"

def isStandard (t : Tag) (name : String) : Bool := t.text? = some (standard ++ name)

end Tag

/-! ## Suffixes -/

/-- The characters of a suffix.  Between angle brackets some marks of flow collections are among
them. -/
def isSuffixChar (bracketed : Bool) (c : Char) : Bool :=
  isNameChar c || c ∈ [';', '/', '?', ':', '@', '&', '=', '+', '$', '.', '!', '~', '*', '\'', '(',
    ')'] || (bracketed && c ∈ [',', '[', ']'])

def trailing? (n : Nat) : Option Nat :=
  if n < 0x80 then some 0
  else if n < 0xC0 then none
  else if n < 0xE0 then some 1
  else if n < 0xF0 then some 2
  else if n < 0xF8 then some 3
  else none

/-- The octets of a suffix, of which the first `pending` have to be trailing ones. -/
def readSuffix (bracketed : Bool) (pending : Nat) (gs : List Glyph) :
    Option (List UInt8 × List Glyph) :=
  match gs with
  | [] => if pending = 0 then some ([], []) else none
  | g :: gs =>
    if g.char = '%' then
      match gs with
      | a :: b :: gs =>
        match Json.hexValue a.char, Json.hexValue b.char with
        | some x, some y =>
          let n := 16 * x + y
          let next : Option Nat :=
            if pending = 0 then trailing? n
            else if 0x80 ≤ n && n < 0xC0 then some (pending - 1)
            else none
          match next with
          | none => none
          | some k =>
            (readSuffix bracketed k gs).map fun p ↦ (UInt8.ofNat n :: p.1, p.2)
        | _, _ => none
      | _ => none
    else if pending ≠ 0 then none
    else if isSuffixChar bracketed g.char then
      (readSuffix bracketed 0 gs).map fun p ↦ (UInt8.ofNat g.char.toNat :: p.1, p.2)
    else some ([], g :: gs)

/-- A suffix that is not empty.  An octet zero ends what counts of it. -/
def suffix? (bracketed : Bool) (gs : List Glyph) : Option (List UInt8 × List Glyph) :=
  (readSuffix bracketed 0 gs).bind fun p ↦
    if p.1 = [] then none else some (p.1.takeWhile (· ≠ 0), p.2)

/-! ## Tags as they are written -/

/-- A handle, which is empty where the suffix is the whole tag, and a suffix. -/
structure TagMark where
  handle : String
  suffix : List UInt8
  deriving DecidableEq, Repr

namespace TagMark

/-- The tag after its exclamation mark, and what follows it: a suffix between angle brackets, a
suffix after a handle between exclamation marks, or a local suffix, which may be empty. -/
def read? (gs : List Glyph) : Option (TagMark × List Glyph) :=
  if gs.head?.any (·.char = '<') then do
    let (suffix, rest) ← suffix? true (gs.drop 1)
    if rest.head?.any (·.char = '>') then return (⟨"", suffix⟩, rest.drop 1) else none
  else
    let (name, rest) := readName gs
    if rest.head?.any (·.char = '!') then do
      let (suffix, rest) ← suffix? false (rest.drop 1)
      return (⟨"!" ++ name ++ "!", suffix⟩, rest)
    else do
      let (octets, rest) ← readSuffix false 0 gs
      let suffix := octets.takeWhile (· ≠ 0)
      return (if suffix = [] then ⟨"", "!".toUTF8.toList⟩ else ⟨"!", suffix⟩, rest)

/-- The tag that a written one means where handles stand for the given octets. -/
def resolve? (handles : List (String × List UInt8)) (t : TagMark) : Option Tag :=
  if t.handle = "" then some ⟨t.suffix⟩
  else (handles.lookup t.handle).map fun lead ↦ ⟨lead ++ t.suffix⟩

end TagMark

def standardHandles : List (String × List UInt8) :=
  [("!", "!".toUTF8.toList), ("!!", Tag.standard.toUTF8.toList)]

/-! ## Directives -/

inductive Directive
  | version (major minor : Nat)
  | handle (name : String) (lead : List UInt8)
  deriving DecidableEq, Repr

namespace Directive

def number? (gs : List Glyph) : Option (Nat × List Glyph) :=
  let digits := gs.takeWhile fun g ↦ isDigit g.char
  if 9 < digits.length then none
  else
    (readNat (digits.map Glyph.char)).map fun n ↦ (n, gs.dropWhile fun g ↦ isDigit g.char)

def version? (gs : List Glyph) : Option (Directive × List Glyph) := do
  let (major, gs) ← number? gs
  if gs.head?.any (·.char = '.') then
    let (minor, gs) ← number? (gs.drop 1)
    return (version major minor, gs)
  else none

def handle? (gs : List Glyph) : Option (Directive × List Glyph) :=
  if gs.head?.any (·.char = '!') then
    let (name, rest) := readName (gs.drop 1)
    let closed := rest.head?.any (·.char = '!')
    let rest := if closed then rest.drop 1 else rest
    if (closed || name = "") && rest.head?.any Glyph.isBlank then do
      let (lead, rest) ← suffix? true (rest.dropWhile Glyph.isBlank)
      if Glyph.atGap rest then
        return (handle (if closed then "!" ++ name ++ "!" else "!") lead, rest)
      else none
    else none
  else none

/-- The directive after its percent sign, and the lines below it. -/
def read? (gs : List Glyph) : Option (Directive × List Glyph) := do
  let (name, rest) := readName gs
  if Glyph.atGap rest then
    let rest := rest.dropWhile Glyph.isBlank
    let (d, rest) ←
      if name = "YAML" then version? rest else if name = "TAG" then handle? rest else none
    let rest ← Glyph.endOfLine? rest
    return (d, rest)
  else none

end Directive

end EventMachine.Yaml
