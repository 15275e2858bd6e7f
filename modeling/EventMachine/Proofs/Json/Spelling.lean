import EventMachine.Json.Document
import Mathlib.Data.List.Nodup

/-!
# The texts of a document

A document has many texts.  White space may stand around every token, the members of an object may
come in any order, and a character may be written as it is, as a letter after a backslash, or by its
UTF-16 code units.  A number literal denotes the number that its digits are read as.
-/

namespace EventMachine.Json

def Gap (cs : List Char) : Prop := ∀ c ∈ cs, c = ' ' ∨ c = '\n' ∨ c = '\t' ∨ c = '\r'

/-! ## Texts in quotes -/

def HexDigit (d : Nat) (c : Char) : Prop := c = Nat.digitChar d ∨ c = (Nat.digitChar d).toUpper

/-- The four digits of a UTF-16 code unit. -/
inductive CodeUnit (n : Nat) : List Char → Prop
  | mk {a b c d : Char} : HexDigit (n / 0x1000) a → HexDigit (n / 0x100 % 0x10) b →
      HexDigit (n / 0x10 % 0x10) c → HexDigit (n % 0x10) d → CodeUnit n [a, b, c, d]

/-- The characters that can be written as a letter after a backslash. -/
def letterEscapes : List (Char × Char) :=
  [('"', '"'), ('\\', '\\'), ('/', '/'), ('\x08', 'b'), ('\x0c', 'f'), ('\n', 'n'), ('\r', 'r'),
    ('\t', 't')]

inductive SpellsChar (c : Char) : List Char → Prop
  | plain : c ≠ '"' → c ≠ '\\' → 0x20 ≤ c.toNat → SpellsChar c [c]
  | letter {e : Char} : (c, e) ∈ letterEscapes → SpellsChar c ['\\', e]
  | unit {cs : List Char} : c.toNat < 0x10000 → CodeUnit c.toNat cs →
      SpellsChar c ('\\' :: 'u' :: cs)
  | pair {cs ds : List Char} : 0x10000 ≤ c.toNat →
      CodeUnit (0xD800 + (c.toNat - 0x10000) / 0x400) cs →
      CodeUnit (0xDC00 + (c.toNat - 0x10000) % 0x400) ds →
      SpellsChar c ('\\' :: 'u' :: (cs ++ '\\' :: 'u' :: ds))

inductive SpellsChars : List Char → List Char → Prop
  | nil : SpellsChars [] []
  | cons {c : Char} {r cs rs : List Char} : SpellsChar c cs → SpellsChars r rs →
      SpellsChars (c :: r) (cs ++ rs)

inductive SpellsText (s : String) : List Char → Prop
  | mk {cs : List Char} : SpellsChars s.toList cs → SpellsText s ('"' :: (cs ++ ['"']))

/-! ## Numbers -/

def Digits (ds : List Nat) : Prop := ds ≠ [] ∧ ∀ d ∈ ds, d < 10

def digitText (ds : List Nat) : List Char := ds.map Nat.digitChar

inductive SpellsFraction : List Nat → List Char → Prop
  | absent : SpellsFraction [] []
  | present {ds : List Nat} : Digits ds → SpellsFraction ds ('.' :: digitText ds)

inductive SpellsSign : Bool → List Char → Prop
  | absent : SpellsSign false []
  | plus : SpellsSign false ['+']
  | minus : SpellsSign true ['-']

inductive SpellsExponent : Option (Bool × List Nat) → List Char → Prop
  | absent : SpellsExponent none []
  | present {e : Char} {negative : Bool} {sign : List Char} {ds : List Nat} :
      e = 'e' ∨ e = 'E' → SpellsSign negative sign → Digits ds →
      SpellsExponent (some (negative, ds)) (e :: (sign ++ digitText ds))

/-- The literals of a number.  A leading zero stands alone before the point. -/
inductive SpellsNumber (n : Number) : List Char → Prop
  | mk {l : Numeral} {fs es : List Char} : Digits l.whole →
      (l.whole.head? = some 0 → l.whole = [0]) → SpellsFraction l.fraction fs →
      SpellsExponent l.exponent es → l.value = some n →
      SpellsNumber n ((if l.negative then ['-'] else []) ++ (digitText l.whole ++ (fs ++ es)))

/-! ## Documents -/

mutual

/-- The texts of a document, without white space before and after them. -/
inductive Spells : Document → List Char → Prop
  | null : Spells .null ['n', 'u', 'l', 'l']
  | yes : Spells (.flag true) ['t', 'r', 'u', 'e']
  | no : Spells (.flag false) ['f', 'a', 'l', 's', 'e']
  | number {n : Number} {cs : List Char} : SpellsNumber n cs → Spells (.number n) cs
  | text {s : String} {cs : List Char} : SpellsText s cs → Spells (.text s) cs
  | emptyList {g : List Char} : Gap g → Spells (.list []) ('[' :: (g ++ [']']))
  | list {ds : List Document} {cs : List Char} : SpellsItems ds cs →
      Spells (.list ds) ('[' :: (cs ++ [']']))
  | emptyObject {g : List Char} : Gap g → Spells (.object []) ('{' :: (g ++ ['}']))
  | object {ms ms' : List (String × Document)} {cs : List Char} : SpellsMembers ms cs →
      (ms.map (·.1)).Nodup → ms.Perm ms' → Spells (.object ms') ('{' :: (cs ++ ['}']))

inductive SpellsItems : List Document → List Char → Prop
  | last {d : Document} {g cs h : List Char} : Gap g → Spells d cs → Gap h →
      SpellsItems [d] (g ++ (cs ++ h))
  | more {d : Document} {ds : List Document} {g cs h rs : List Char} : Gap g → Spells d cs →
      Gap h → SpellsItems ds rs → SpellsItems (d :: ds) (g ++ (cs ++ (h ++ ',' :: rs)))

/-- The members of an object with the commas between them, in the order in which they are
written. -/
inductive SpellsMembers : List (String × Document) → List Char → Prop
  | last {k : String} {d : Document} {g ks h i cs j : List Char} : Gap g → SpellsText k ks →
      Gap h → Gap i → Spells d cs → Gap j →
      SpellsMembers [(k, d)] (g ++ (ks ++ (h ++ ':' :: (i ++ (cs ++ j)))))
  | more {k : String} {d : Document} {ms : List (String × Document)}
      {g ks h i cs j rs : List Char} : Gap g → SpellsText k ks → Gap h → Gap i → Spells d cs →
      Gap j → SpellsMembers ms rs →
      SpellsMembers ((k, d) :: ms) (g ++ (ks ++ (h ++ ':' :: (i ++ (cs ++ (j ++ ',' :: rs))))))

end

/-- A text denotes a document if it is one of its texts, with white space around it. -/
inductive Denotes (t : String) (v : Document) : Prop
  | mk {g cs h : List Char} : t.toList = g ++ (cs ++ h) → Gap g → Spells v cs → Gap h →
      Denotes t v

end EventMachine.Json
