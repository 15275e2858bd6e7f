import EventMachine.Binary64.Basic
import EventMachine.Json.Defect
import EventMachine.Text.Decimal

/-!
# JSON numbers

A number literal denotes an integer when it has neither a fraction nor an exponent and fits 64
bits, unsigned without a minus sign and signed with one.  Every other literal, `-0` among them,
denotes a binary floating-point number.  Of a long literal only the leading digits that fit an
unsigned 64-bit significand count; the remaining integer digits shift the power of ten.
-/

namespace EventMachine.Json

open EventMachine.Text

inductive Number
  | integer (i : Int)
  | real (x : Binary64)
  deriving DecidableEq, Repr

structure Numeral where
  negative : Bool
  whole : List Nat
  fraction : List Nat
  exponent : Option (Bool × List Nat)
  deriving DecidableEq, Repr

/-- The significand that leading digits make up, as far as it stays below `bound`, and the digits
that are left. -/
def absorb (bound : Nat) (n : Nat) : List Nat → Nat × List Nat
  | [] => (n, [])
  | d :: ds => if 10 * n + d < bound then absorb bound (10 * n + d) ds else (n, d :: ds)

def significandBound : Nat := UInt64.size

def exponentBound : Nat := 0x80000000

def ofInteger (negative : Bool) (n : Nat) : Number :=
  if negative then
    if n = 0 ∨ -(n : Int) < Int64.minValue.toInt then
      .real (((Binary64.ofRatio n 1).getD .zero).withSign true)
    else .integer (-(n : Int))
  else .integer n

/-- The number a literal denotes; nothing if it is beyond the largest floating-point number. -/
def Numeral.value (l : Numeral) : Option Number :=
  let w := absorb significandBound 0 l.whole
  if w.2 = [] ∧ l.fraction = [] ∧ l.exponent = none then some (ofInteger l.negative w.1)
  else
    let f := absorb significandBound w.1 l.fraction
    let shift : Int := w.2.length - (l.fraction.length - f.2.length : Nat)
    let magnitude : Option Binary64 :=
      match l.exponent with
      | none => Binary64.ofDecimal f.1 shift
      | some (negative, ds) =>
        let e := absorb exponentBound 0 ds
        if e.2 = [] then Binary64.ofDecimal f.1 (if negative then shift - e.1 else shift + e.1)
        else if f.1 ≠ 0 ∧ negative = false then none
        else some Binary64.zero
    magnitude.map fun x ↦ .real (x.withSign l.negative)

def digits : List Char → List Nat × List Char
  | [] => ([], [])
  | c :: cs =>
    match digitValue c with
    | some d =>
      let p := digits cs
      (d :: p.1, p.2)
    | none => ([], c :: cs)

theorem digits_length (cs : List Char) : (digits cs).2.length ≤ cs.length := by
  induction cs with
  | nil => simp [digits]
  | cons c cs ih =>
      rw [digits]
      split
      · exact Nat.le_succ_of_le ih
      · exact Nat.le_refl _

def digits₁ (cs : List Char) : Except Defect (List Nat × List Char) :=
  match digits cs with
  | ([], []) => .error .endInValue
  | ([], _ :: _) => .error .badNumber
  | (d :: ds, rest) => .ok (d :: ds, rest)

theorem digits₁_length {cs : List Char} {p : List Nat × List Char} (h : digits₁ cs = .ok p) :
    p.2.length < cs.length := by
  rw [digits₁] at h
  split at h
  · cases h
  · cases h
  · rename_i hd
    cases h
    cases cs with
    | nil => simp [digits] at hd
    | cons c cs =>
        have hl := digits_length cs
        rw [digits] at hd
        split at hd
        · simp only [Prod.mk.injEq] at hd
          rw [← hd.2]
          exact Nat.lt_succ_of_le hl
        · simp at hd

/-- The integer part: a zero stands alone. -/
def wholePart : List Char → Except Defect (List Nat × List Char)
  | '0' :: cs =>
    match digits cs with
    | ([], rest) => .ok ([0], rest)
    | (_ :: _, _) => .error .badNumber
  | cs => digits₁ cs

theorem wholePart_length {cs : List Char} {p : List Nat × List Char} (h : wholePart cs = .ok p) :
    p.2.length < cs.length := by
  rw [wholePart.eq_def] at h
  split at h
  · rename_i ds
    have hl := digits_length ds
    split at h
    · rename_i hd
      cases h
      rw [hd] at hl
      exact Nat.lt_succ_of_le hl
    · cases h
  · exact digits₁_length h

def fractionPart : List Char → Except Defect (List Nat × List Char)
  | '.' :: cs => digits₁ cs
  | cs => .ok ([], cs)

theorem fractionPart_length {cs : List Char} {p : List Nat × List Char}
    (h : fractionPart cs = .ok p) : p.2.length ≤ cs.length := by
  rw [fractionPart.eq_def] at h
  split at h
  · exact Nat.le_of_lt (Nat.lt_succ_of_lt (digits₁_length h))
  · cases h
    exact Nat.le_refl _

def exponentSign : List Char → Bool × List Char
  | '+' :: cs => (false, cs)
  | '-' :: cs => (true, cs)
  | cs => (false, cs)

theorem exponentSign_length (cs : List Char) : (exponentSign cs).2.length ≤ cs.length := by
  rw [exponentSign.eq_def]
  split <;> simp

def exponentPart : List Char → Except Defect (Option (Bool × List Nat) × List Char)
  | [] => .ok (none, [])
  | c :: cs =>
    if c = 'e' ∨ c = 'E' then
      (digits₁ (exponentSign cs).2).map fun p ↦ (some ((exponentSign cs).1, p.1), p.2)
    else .ok (none, c :: cs)

theorem exponentPart_length {cs : List Char} {p : Option (Bool × List Nat) × List Char}
    (h : exponentPart cs = .ok p) : p.2.length ≤ cs.length := by
  cases cs with
  | nil => cases h; exact Nat.le_refl _
  | cons c cs =>
      rw [exponentPart] at h
      split at h
      · cases hd : digits₁ (exponentSign cs).2 with
        | error e => simp [hd, Except.map] at h
        | ok q =>
            simp only [hd, Except.map, Except.ok.injEq] at h
            subst h
            have h₁ := digits₁_length hd
            have h₂ := exponentSign_length cs
            simp only [List.length_cons]
            omega
      · cases h
        exact Nat.le_refl _

/-- A number literal, of which a minus sign has been read already. -/
def numeral (negative : Bool) (cs : List Char) : Except Defect (Number × List Char) :=
  match wholePart cs with
  | .error d => .error d
  | .ok w =>
    match fractionPart w.2 with
    | .error d => .error d
    | .ok f =>
      match exponentPart f.2 with
      | .error d => .error d
      | .ok e =>
        match Numeral.value ⟨negative, w.1, f.1, e.1⟩ with
        | none => .error .hugeNumber
        | some n => .ok (n, e.2)

theorem numeral_length {negative : Bool} {cs : List Char} {p : Number × List Char}
    (h : numeral negative cs = .ok p) : p.2.length < cs.length := by
  rw [numeral] at h
  split at h
  · cases h
  · rename_i w hw
    split at h
    · cases h
    · rename_i f hf
      split at h
      · cases h
      · rename_i e he
        have h₁ := wholePart_length hw
        have h₂ := fractionPart_length hf
        have h₃ := exponentPart_length he
        split at h
        · cases h
        · cases h
          simp only
          omega

end EventMachine.Json
