/-!
# Binary floating point

A finite 64-bit number is a sign and `significand * 2 ^ exponent`.  Products and quotients are
exact rationals rounded once, to the nearest number and on a tie to the one with the even
significand.  Nothing here is approximate: every step is arithmetic on natural numbers.
-/

namespace EventMachine

/-- A finite number of the 64-bit binary format.  The significand has at most 53 bits, and fewer
only where the exponent is the least one. -/
structure Binary64 where
  negative : Bool
  significand : Nat
  exponent : Int
  deriving DecidableEq, Repr

namespace Binary64

def minExponent : Int := -1074

def maxExponent : Int := 971

def leadingBit : Nat := 1 <<< 52

def zero : Binary64 := ⟨false, 0, minExponent⟩

/-- The natural number nearest to `num / den`; a tie goes to the even one. -/
def roundHalfEven (num den : Nat) : Nat :=
  let q := num / den
  let r := num % den
  if 2 * r < den then q else if den < 2 * r then q + 1 else q + q % 2

/-- Numerator and denominator of `num / den / 2 ^ e`. -/
def scaleDown (num den : Nat) (e : Int) : Nat × Nat :=
  if 0 ≤ e then (num, den <<< e.toNat) else (num <<< (-e).toNat, den)

/-- The number nearest to `num / den`, or nothing if that is beyond the largest one. -/
def ofRatio (num den : Nat) : Option Binary64 :=
  if num = 0 then some zero
  else
    let guess : Int := (num.log2 : Int) - den.log2 - 52
    let p := scaleDown num den guess
    let e := max (if p.1 < leadingBit * p.2 then guess - 1 else guess) minExponent
    let q := scaleDown num den e
    let m := roundHalfEven q.1 q.2
    let x : Binary64 := if m = 2 * leadingBit then ⟨false, leadingBit, e + 1⟩ else ⟨false, m, e⟩
    if x.exponent ≤ maxExponent then some x else none

def ratio (x : Binary64) : Nat × Nat := scaleDown x.significand 1 (-x.exponent)

def mul (x y : Binary64) : Option Binary64 :=
  ofRatio (x.ratio.1 * y.ratio.1) (x.ratio.2 * y.ratio.2)

/-- The rounded quotient of two magnitudes, the second of them not zero. -/
def div (x y : Binary64) : Option Binary64 :=
  ofRatio (x.ratio.1 * y.ratio.2) (x.ratio.2 * y.ratio.1)

def tenTo (k : Nat) : Binary64 := (ofRatio (Nat.pow 10 k) 1).getD zero

def largestPower : Nat := 308

/-- Multiplies a magnitude by a power of ten in as few rounded steps as the largest finite power
of ten allows: one, unless the power is a tiny fraction. -/
def scaleByTen (x : Binary64) (e : Int) : Option Binary64 :=
  if x.significand = 0 then some x
  else if 0 ≤ e then
    if e ≤ largestPower then x.mul (tenTo e.toNat) else none
  else if -e ≤ largestPower then x.div (tenTo (-e).toNat)
  else (x.div (tenTo largestPower)).bind fun y ↦ scaleByTen y (e + largestPower)
termination_by (-e).toNat
decreasing_by simp only [largestPower] at *; omega

/-- The number that `n * 10 ^ e` is read as: `n` is rounded first and the power of ten applied to
the result. -/
def ofDecimal (n : Nat) (e : Int) : Option Binary64 :=
  (ofRatio n 1).bind fun x ↦ x.scaleByTen e

def withSign (negative : Bool) (x : Binary64) : Binary64 := { x with negative }

end Binary64

end EventMachine
