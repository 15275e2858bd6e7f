import EventMachine.Binary64.Basic
import EventMachine.Text.Decimal

/-!
# Shortest decimal text

A number is written with the fewest digits that still denote it, and among those with the ones
nearest to it.  The search walks down the powers of ten and stops at the first one that has a
multiple in the interval of reals which round to the number.
-/

namespace EventMachine.Binary64

open EventMachine.Text

/-- Four times the magnitude and the two ends of its rounding interval, in units of
`2 ^ (exponent - 2)`. -/
structure Interval where
  low : Nat
  mid : Nat
  high : Nat
  closed : Bool

/-- The reals that round to a number: half a unit to each side, and a quarter downward from a power
of two.  The ends belong to it when the significand is even. -/
def interval (x : Binary64) : Interval :=
  let m := x.significand
  let below := if m = leadingBit ∧ minExponent < x.exponent then 1 else 2
  ⟨4 * m - below, 4 * m, 4 * m + 2, m % 2 = 0⟩

/-- `d * 10 ^ p` and `n * 2 ^ e`, brought to a common denominator. -/
def common (d : Nat) (p : Int) (n : Nat) (e : Int) : Nat × Nat :=
  ((d * Nat.pow 10 p.toNat) <<< (-e).toNat, (n * Nat.pow 10 (-p).toNat) <<< e.toNat)

def Interval.holds (i : Interval) (e : Int) (d : Nat) (p : Int) : Bool :=
  let l := common d p i.low e
  let h := common d p i.high e
  if i.closed then l.2 ≤ l.1 && h.1 ≤ h.2 else l.2 < l.1 && h.1 < h.2

/-- The multiple of `10 ^ p` in the interval that is nearest to the middle, if there is one. -/
def Interval.multiple? (i : Interval) (e : Int) (p : Int) : Option Nat :=
  let c := common 1 p i.mid e
  let d := c.2 / c.1
  let r := c.2 % c.1
  match 0 < d && i.holds e d p, i.holds e (d + 1) p with
  | false, false => none
  | true, false => some d
  | false, true => some (d + 1)
  | true, true => some (if 2 * r < c.1 then d else if c.1 < 2 * r then d + 1 else d + d % 2)

def Interval.search (i : Interval) (e : Int) : Nat → Int → Nat × Int
  | 0, p => (0, p)
  | fuel + 1, p =>
    match i.multiple? e p with
    | some d => (d, p)
    | none => i.search e fuel (p - 1)

/-- Digits and power of ten of a magnitude other than zero. -/
def shortest (x : Binary64) : Nat × Int :=
  let bits : Int := x.significand.log2 + 1
  x.interval.search (x.exponent - 2) 24 ((bits + x.exponent) * 30103 / 100000 + 1)

/-- How numbers are laid out: positional while the leading digit stands for a power of ten between
`minPositional` and `maxPositional`, and always with a fraction digit there. -/
structure Layout where
  minPositional : Int
  maxPositional : Int
  positiveExponent : String

def layout : Layout := ⟨-5, 15, "+"⟩

def zeros (n : Nat) : List Char := List.replicate n '0'

def Layout.write (l : Layout) (d : Nat) (p : Int) : String :=
  let ds := Nat.toDigits 10 d
  let lead : Int := p + ds.length - 1
  if l.minPositional ≤ lead ∧ lead ≤ l.maxPositional then
    if 0 ≤ p then String.ofList (ds ++ zeros p.toNat) ++ ".0"
    else if 0 ≤ lead then
      String.ofList (ds.take (lead + 1).toNat) ++ "." ++ String.ofList (ds.drop (lead + 1).toNat)
    else "0." ++ String.ofList (zeros (-lead - 1).toNat ++ ds)
  else
    let fraction := if ds.length ≤ 1 then "" else "." ++ String.ofList (ds.drop 1)
    String.ofList (ds.take 1) ++ fraction ++ "e" ++ (if 0 ≤ lead then l.positiveExponent else "") ++
      decimalInt lead

def text (x : Binary64) : String :=
  let magnitude :=
    if x.significand = 0 then "0.0" else layout.write x.shortest.1 x.shortest.2
  if x.negative then "-" ++ magnitude else magnitude

end EventMachine.Binary64
