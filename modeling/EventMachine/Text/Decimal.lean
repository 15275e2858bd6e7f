/-!
# Decimal numbers in text

Natural numbers are written without leading zeros.  A device or event source id is read from an
optional plus sign and ASCII digits, and leading zeros are allowed; it has to fit 32 bits.
-/

namespace EventMachine.Text

def digitValue (c : Char) : Option Nat :=
  if '0' ≤ c ∧ c ≤ '9' then some (c.toNat - '0'.toNat) else none

def isDigit (c : Char) : Bool := (digitValue c).isSome

/-- The number that digits denote after `acc` has been read. -/
def readDigits (acc : Nat) : List Char → Option Nat
  | [] => some acc
  | c :: cs => (digitValue c).bind fun d ↦ readDigits (10 * acc + d) cs

@[simp] theorem readDigits_nil (acc : Nat) : readDigits acc [] = some acc := rfl

def readNat : List Char → Option Nat
  | [] => none
  | c :: cs => readDigits 0 (c :: cs)

/-- Reads an id; it is never reduced modulo 2 ^ 32. -/
def readId (cs : List Char) : Option UInt32 :=
  let digits := match cs with
    | '+' :: ds => ds
    | ds => ds
  (readNat digits).bind fun n ↦ if n < UInt32.size then some (UInt32.ofNat n) else none

def decimal (n : Nat) : String := String.ofList (Nat.toDigits 10 n)

def decimalInt : Int → String
  | .ofNat n => decimal n
  | .negSucc n => "-" ++ decimal (n + 1)

/-- The digits of `n` in lower-case hexadecimal, at least `width` of them. -/
def hexadecimalPadded (width n : Nat) : String :=
  let ds := Nat.toDigits 16 n
  String.ofList (List.replicate (width - ds.length) '0' ++ ds)

end EventMachine.Text
