import EventMachine.Proofs.Text.Words
import EventMachine.Text.Decimal

/-!
# Digits

The decimal digits of a number are digits, of which none is white space, and an id is read back from
them.
-/

namespace EventMachine.Text

theorem digitValue_of_isDigit {c : Char} (hc : c.isDigit = true) :
    digitValue c = some (c.toNat - '0'.toNat) := by
  obtain ⟨hlower, hupper⟩ : '0' ≤ c ∧ c ≤ '9' := by
    simpa [Char.isDigit, Char.le_def] using hc
  rw [digitValue, if_pos ⟨hlower, hupper⟩]

theorem readDigits_of_isDigit {cs : List Char} (hcs : ∀ c ∈ cs, c.isDigit = true) (acc : Nat) :
    readDigits acc cs = some (Nat.ofDigitChars 10 cs acc) := by
  induction cs generalizing acc with
  | nil => rfl
  | cons c cs ih =>
      rw [List.forall_mem_cons] at hcs
      rw [readDigits, digitValue_of_isDigit hcs.1, Option.bind_some, ih hcs.2]
      rfl

theorem isDigit_of_mem_decimal {n : Nat} {c : Char} (hc : c ∈ (decimal n).toList) :
    c.isDigit = true := by
  rw [decimal, String.toList_ofList] at hc
  exact Nat.isDigit_of_mem_toDigits (by decide) (by decide) hc

theorem isBlank_eq_false_of_isDigit {c : Char} (hc : c.isDigit = true) : isBlank c = false := by
  by_contra hblank
  rw [Bool.not_eq_false] at hblank
  have hnone : ∀ n ∈ blankCodes, (Char.ofNat n).isDigit = false := by decide
  have hdigit := hnone c.toNat (toNat_mem_blankCodes hblank)
  rw [Char.ofNat_toNat, hc] at hdigit
  cases hdigit

theorem decimal_toList_ne_nil (n : Nat) : (decimal n).toList ≠ [] := by
  rw [decimal, String.toList_ofList]
  exact Nat.toDigits_ne_nil

/-- An id is read back from its decimal digits. -/
theorem readId_decimal (a : UInt32) : readId (decimal a.toNat).toList = some a := by
  obtain ⟨c, cs, hcs⟩ := List.exists_cons_of_ne_nil (decimal_toList_ne_nil a.toNat)
  have hdigits : ∀ d ∈ c :: cs, d.isDigit = true := fun d hd ↦
    isDigit_of_mem_decimal (hcs ▸ hd)
  have hvalue : Nat.ofDigitChars 10 (c :: cs) 0 = a.toNat := by
    rw [← hcs, decimal, String.toList_ofList, Nat.ofDigitChars_ten_toDigits]
  have hread : readNat (c :: cs) = some a.toNat := by
    rw [readNat, readDigits_of_isDigit hdigits, hvalue]
  have hplus : c ≠ '+' := by
    rintro rfl
    exact absurd (hdigits '+' List.mem_cons_self) (by decide)
  rw [hcs, readId, hread, Option.bind_some, if_pos a.toNat_lt_size, UInt32.ofNat_toNat]
  rintro ds h
  exact hplus (List.head_eq_of_cons_eq h)

theorem readId_hash (cs : List Char) : readId ('#' :: cs) = none := rfl

end EventMachine.Text
