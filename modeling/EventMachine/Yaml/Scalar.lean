import EventMachine.Binary64.Basic
import EventMachine.Json.Token
import EventMachine.Text.Decimal

/-!
# Words for null, flags and numbers

What a plain scalar can stand for besides text.  Numbers are written in decimal, or with a letter
after a leading zero that names another base; digits after a leading zero are no number at all.
-/

namespace EventMachine.Yaml

open EventMachine.Text

def isNullWord (s : String) : Bool := s ∈ ["null", "Null", "NULL", "~"]

def flagWord? (s : String) : Option Bool :=
  if s ∈ ["true", "True", "TRUE"] then some true
  else if s ∈ ["false", "False", "FALSE"] then some false
  else none

/-! ## Whole numbers -/

def bases : List (Char × Nat) := [('x', 16), ('o', 8), ('b', 2)]

def digitsIn (base acc : Nat) : List Char → Option Nat
  | [] => some acc
  | c :: cs =>
    (Json.hexValue c).bind fun d ↦ if d < base then digitsIn base (base * acc + d) cs else none

/-- Digits without leading zeros, or those of a named base. -/
def unsigned? (cs : List Char) : Option Nat :=
  match cs with
  | ['0'] => some 0
  | '0' :: c :: ds =>
    (bases.lookup c).bind fun base ↦ if ds = [] then none else digitsIn base 0 ds
  | cs => readNat cs

def natural? : List Char → Option Nat
  | '+' :: cs => unsigned? cs
  | cs => unsigned? cs

/-- Whether a whole number is within 128 bits. -/
def isInteger (cs : List Char) : Bool :=
  (natural? cs).any (· < 1 <<< 128) ||
    match cs with
    | '-' :: ds => (unsigned? ds).any (· ≤ 1 <<< 127)
    | _ => false

/-! ## Other numbers -/

def dropSign : List Char → List Char
  | '+' :: cs => cs
  | '-' :: cs => cs
  | cs => cs

def isZeroLed (cs : List Char) : Bool :=
  match dropSign cs with
  | '0' :: c :: cs => (c :: cs).all isDigit
  | _ => false

def readExponent (cs : List Char) : Option Int :=
  match cs with
  | [] => some 0
  | c :: cs =>
    if c = 'e' || c = 'E' then
      match cs with
      | '-' :: ds => (readNat ds).map fun n ↦ -(n : Int)
      | '+' :: ds => (readNat ds).map fun n ↦ (n : Int)
      | ds => (readNat ds).map fun n ↦ (n : Int)
    else none

/-- The digits of an unsigned decimal number and the power of ten they are multiplied by. -/
def readDecimal (cs : List Char) : Option (Nat × Int) :=
  let whole := cs.takeWhile isDigit
  let rest := cs.dropWhile isDigit
  let hasPoint := rest.head? = some '.'
  let fraction := if hasPoint then (rest.drop 1).takeWhile isDigit else []
  let rest := if hasPoint then (rest.drop 1).dropWhile isDigit else rest
  (readNat (whole ++ fraction)).bind fun n ↦
    (readExponent rest).map fun e ↦ (n, e - fraction.length)

/-- Whether `n * 10 ^ e` rounds to a finite number.  Far from the bound the number of digits
decides. -/
def isFinite (n : Nat) (e : Int) : Bool :=
  let top : Int := (Nat.toDigits 10 n).length + e
  n = 0 || top ≤ 308 ||
    (top ≤ 310 &&
      (Binary64.ofRatio (n * Nat.pow 10 e.toNat) (Nat.pow 10 (-e).toNat)).isSome)

/-- Whether a text is a number with a sign, a fraction or an exponent, or no finite number. -/
def isReal (s : String) : Bool :=
  let body := dropSign s.toList
  (readDecimal body).any (fun p ↦ isFinite p.1 p.2) ||
    String.ofList body ∈ [".inf", ".Inf", ".INF"] || s ∈ [".nan", ".NaN", ".NAN"]

/-- Whether a plain scalar would be taken for something else than text. -/
def looksOtherwise (s : String) : Bool :=
  s = "" || isNullWord s || (flagWord? s).isSome || isInteger s.toList || isZeroLed s.toList ||
    isReal s

end EventMachine.Yaml
