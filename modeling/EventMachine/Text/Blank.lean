/-!
# White space

The characters with the White_Space property, and the three ways a text is cut by them: at both
ends, at its end only, and at the first one of them.  A text is blank when it holds nothing else.
-/

namespace EventMachine.Text

/-- The characters with the White_Space property.  Zero-width and format characters such as
U+200B and U+FEFF are not among them. -/
def isBlank (c : Char) : Bool :=
  let n := c.toNat
  (9 ≤ n && n ≤ 13) || n == 0x20 || n == 0x85 || n == 0xA0 || n == 0x1680 ||
    (0x2000 ≤ n && n ≤ 0x200A) || n == 0x2028 || n == 0x2029 || n == 0x202F ||
    n == 0x205F || n == 0x3000

def blank (s : String) : Bool := s.toList.all isBlank

def trimStart (cs : List Char) : List Char := cs.dropWhile isBlank

def trimEnd (cs : List Char) : List Char := (cs.reverse.dropWhile isBlank).reverse

def trim (cs : List Char) : List Char := trimEnd (trimStart cs)

@[simp] theorem trim_nil : trim [] = [] := rfl

theorem dropWhile_eq_nil_iff_all {p : Char → Bool} {cs : List Char} :
    cs.dropWhile p = [] ↔ cs.all p := by
  induction cs with
  | nil => simp
  | cons c cs ih => by_cases h : p c <;> simp_all

theorem trimEnd_eq_nil_iff {cs : List Char} : trimEnd cs = [] ↔ cs.all isBlank := by
  rw [trimEnd, List.reverse_eq_nil_iff, dropWhile_eq_nil_iff_all, List.all_reverse]

theorem trim_eq_nil_iff {cs : List Char} : trim cs = [] ↔ cs.all isBlank := by
  rw [trim, trimEnd_eq_nil_iff]
  induction cs with
  | nil => simp [trimStart]
  | cons c cs ih =>
      by_cases h : isBlank c <;> simp_all [trimStart]

/-- A text cut at its first white-space character, which belongs to neither part. -/
def cutAtBlank : List Char → Option (List Char × List Char)
  | [] => none
  | c :: cs =>
      if isBlank c then some ([], cs)
      else (cutAtBlank cs).map fun p ↦ (c :: p.1, p.2)

@[simp] theorem cutAtBlank_nil : cutAtBlank [] = none := rfl

/-- The cut is at the first blank, and takes that blank away. -/
theorem cutAtBlank_append {w : List Char} (hw : ∀ c ∈ w, isBlank c = false)
    {b : Char} (hb : isBlank b) (r : List Char) :
    cutAtBlank (w ++ b :: r) = some (w, r) := by
  induction w with
  | nil => simp [cutAtBlank, hb]
  | cons c w ih => simp_all [cutAtBlank]

theorem cutAtBlank_eq_none_iff {cs : List Char} :
    cutAtBlank cs = none ↔ ∀ c ∈ cs, isBlank c = false := by
  induction cs with
  | nil => simp
  | cons c cs ih => by_cases h : isBlank c <;> simp_all [cutAtBlank]

end EventMachine.Text
