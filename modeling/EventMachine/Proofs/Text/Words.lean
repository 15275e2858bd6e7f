import EventMachine.Text.Blank
import EventMachine.Text.LowerCase
import Mathlib.Data.List.TakeWhile

/-!
# The first word of a line

A line is a word and what is behind it.  Blanks at the ends of the line make no difference to
either, and case makes none to where a word ends.
-/

namespace EventMachine.Text

/-! ## Trimming -/

/-- What is cut from the end reaches into the first part only where the second is blank
throughout. -/
theorem trimEnd_append (cs ds : List Char) :
    trimEnd (cs ++ ds) = if (trimEnd ds).isEmpty then trimEnd cs else cs ++ trimEnd ds := by
  rw [trimEnd, List.reverse_append, List.dropWhile_append]
  simp only [trimEnd, List.isEmpty_reverse]
  split <;> simp

theorem trimEnd_append_of_blank (cs : List Char) {bs : List Char}
    (hbs : ∀ b ∈ bs, isBlank b = true) : trimEnd (cs ++ bs) = trimEnd cs := by
  have hnil : trimEnd bs = [] := trimEnd_eq_nil_iff.mpr (List.all_eq_true.mpr hbs)
  rw [trimEnd_append, hnil]
  rfl

theorem trimEnd_cons {c : Char} (hc : isBlank c = false) (cs : List Char) :
    trimEnd (c :: cs) = c :: trimEnd cs := by
  have hsingle : trimEnd [c] = [c] := by simp [trimEnd, hc]
  have happend := trimEnd_append [c] cs
  rw [hsingle] at happend
  rw [← List.singleton_append, happend]
  split
  · rename_i hnil
    rw [List.isEmpty_iff.mp hnil]
  · rfl

theorem trimEnd_eq_self_iff {cs : List Char} :
    trimEnd cs = cs ↔ ∀ c ∈ cs.getLast?, isBlank c = false := by
  rw [trimEnd, List.reverse_eq_iff, ← List.head?_reverse, List.dropWhile_eq_self_iff]
  cases cs.reverse <;> simp

theorem trimStart_cons {c : Char} (hc : isBlank c = false) (cs : List Char) :
    trimStart (c :: cs) = c :: cs :=
  List.dropWhile_cons_of_neg (by simp [hc])

theorem trim_cons {c : Char} (hc : isBlank c = false) (cs : List Char) :
    trim (c :: cs) = c :: trimEnd cs := by
  rw [trim, trimStart_cons hc, trimEnd_cons hc]

theorem exists_eq_trimEnd_append (cs : List Char) :
    ∃ bs, (∀ b ∈ bs, isBlank b = true) ∧ cs = trimEnd cs ++ bs := by
  refine ⟨(cs.reverse.takeWhile isBlank).reverse, fun b hb ↦ ?_, ?_⟩
  · exact List.mem_takeWhile_imp (List.mem_reverse.mp hb)
  · rw [trimEnd, ← List.reverse_append, List.takeWhile_append_dropWhile, List.reverse_reverse]

theorem trim_append_of_blank (cs : List Char) {bs : List Char}
    (hbs : ∀ b ∈ bs, isBlank b = true) : trim (cs ++ bs) = trim cs := by
  have hnil : trimStart bs = [] := dropWhile_eq_nil_iff_all.mpr (List.all_eq_true.mpr hbs)
  rw [trim, trim, trimStart, List.dropWhile_append]
  split
  · rename_i hstart
    rw [show trimStart cs = [] from List.isEmpty_iff.mp hstart]
    exact congrArg trimEnd hnil
  · exact trimEnd_append_of_blank _ hbs

theorem trim_append_left_of_blank {bs : List Char} (hbs : ∀ b ∈ bs, isBlank b = true)
    (cs : List Char) : trim (bs ++ cs) = trim cs := by
  have hnil : trimStart bs = [] := dropWhile_eq_nil_iff_all.mpr (List.all_eq_true.mpr hbs)
  have hstart : trimStart (bs ++ cs) = trimStart cs := by
    rw [trimStart, List.dropWhile_append, show bs.dropWhile isBlank = [] from hnil]
    rfl
  rw [trim, trim, hstart]

/-- Trimming takes blanks from both ends and nothing else. -/
theorem exists_eq_append_trim (cs : List Char) :
    ∃ bs bs', (∀ b ∈ bs, isBlank b = true) ∧ (∀ b ∈ bs', isBlank b = true) ∧
      cs = bs ++ (trim cs ++ bs') := by
  obtain ⟨bs', hbs', hcs⟩ := exists_eq_trimEnd_append (trimStart cs)
  refine ⟨cs.takeWhile isBlank, bs', fun b hb ↦ List.mem_takeWhile_imp hb, hbs', ?_⟩
  rw [trim, ← hcs, trimStart, List.takeWhile_append_dropWhile]

theorem isBlank_eq_false_of_trimStart {c : Char} {cs ds : List Char}
    (h : trimStart cs = c :: ds) : isBlank c = false := by
  have hhead := List.head?_dropWhile_not isBlank cs
  rw [show cs.dropWhile isBlank = c :: ds from h] at hhead
  simpa using hhead

theorem isBlank_eq_false_of_trim {c : Char} {cs : List Char} (h : (trim cs).head? = some c) :
    isBlank c = false := by
  cases hstart : trimStart cs with
  | nil =>
      rw [trim, hstart] at h
      cases h
  | cons d ds =>
      have hd := isBlank_eq_false_of_trimStart hstart
      rw [trim, hstart, trimEnd_cons hd] at h
      rw [← Option.some.inj h]
      exact hd

theorem trimEnd_trimEnd (cs : List Char) : trimEnd (trimEnd cs) = trimEnd cs := by
  obtain ⟨bs, hbs, hcs⟩ := exists_eq_trimEnd_append cs
  have htrim := trimEnd_append_of_blank (trimEnd cs) hbs
  rw [← hcs] at htrim
  exact htrim.symm

theorem trim_trim (cs : List Char) : trim (trim cs) = trim cs := by
  cases h : trimStart cs with
  | nil =>
      have hnil : trim cs = [] := by rw [trim, h]; rfl
      rw [hnil, trim_nil]
  | cons c ds =>
      have hc := isBlank_eq_false_of_trimStart h
      have hcons : trim cs = c :: trimEnd ds := by rw [trim, h, trimEnd_cons hc]
      rw [hcons, trim_cons hc, trimEnd_trimEnd]

/-! ## Cutting -/

/-- The first word of a text and what is behind the blank that ends it. -/
def cutWord (cs : List Char) : List Char × List Char := (cutAtBlank cs).getD (cs, [])

theorem cutWord_append {w : List Char} (hw : ∀ c ∈ w, isBlank c = false) {b : Char}
    (hb : isBlank b = true) (r : List Char) : cutWord (w ++ b :: r) = (w, r) := by
  rw [cutWord, cutAtBlank_append hw hb]
  rfl

theorem cutWord_of_forall {w : List Char} (hw : ∀ c ∈ w, isBlank c = false) :
    cutWord w = (w, []) := by
  rw [cutWord, cutAtBlank_eq_none_iff.mpr hw]
  rfl

/-- Every text is one word, or a word, a blank and a rest. -/
theorem exists_cut (cs : List Char) : ∃ w r, (∀ c ∈ w, isBlank c = false) ∧
    (cs = w ∧ r = [] ∨ ∃ b, isBlank b = true ∧ cs = w ++ b :: r) ∧ cutWord cs = (w, r) := by
  induction cs with
  | nil => exact ⟨[], [], by simp, .inl ⟨rfl, rfl⟩, rfl⟩
  | cons c cs ih =>
      cases hc : isBlank c with
      | true =>
          exact ⟨[], cs, by simp, .inr ⟨c, hc, rfl⟩, cutWord_append (w := []) (by simp) hc cs⟩
      | false =>
          obtain ⟨w, r, hw, hcut, -⟩ := ih
          have hw' : ∀ d ∈ c :: w, isBlank d = false := by simpa [hc] using hw
          rcases hcut with ⟨rfl, rfl⟩ | ⟨b, hb, rfl⟩
          · exact ⟨c :: cs, [], hw', .inl ⟨rfl, rfl⟩, cutWord_of_forall hw'⟩
          · exact ⟨c :: w, r, hw', .inr ⟨b, hb, rfl⟩, cutWord_append hw' hb r⟩

/-- Blanks behind a text are not part of its first word, and are trimmed from the rest. -/
theorem cutWord_append_of_blank (cs : List Char) {bs : List Char}
    (hbs : ∀ b ∈ bs, isBlank b = true) :
    (cutWord (cs ++ bs)).1 = (cutWord cs).1 ∧
      trim (cutWord (cs ++ bs)).2 = trim (cutWord cs).2 := by
  obtain ⟨w, r, hw, hcut, hword⟩ := exists_cut cs
  rcases hcut with ⟨rfl, rfl⟩ | ⟨b, hb, rfl⟩
  · cases bs with
    | nil => simp
    | cons b bs =>
        rw [List.forall_mem_cons] at hbs
        rw [cutWord_append hw hbs.1, hword]
        exact ⟨rfl, trim_eq_nil_iff.mpr (List.all_eq_true.mpr hbs.2)⟩
  · rw [List.append_assoc, List.cons_append, cutWord_append hw hb, hword]
    exact ⟨rfl, trim_append_of_blank r hbs⟩

/-- A line that starts with a word is cut alike before and after it has been trimmed. -/
theorem cutWord_trim {c : Char} (hc : isBlank c = false) (cs : List Char) :
    (cutWord (trim (c :: cs))).1 = (cutWord (c :: cs)).1 ∧
      trim (cutWord (trim (c :: cs))).2 = trim (cutWord (c :: cs)).2 := by
  obtain ⟨bs, hbs, hcs⟩ := exists_eq_trimEnd_append (c :: cs)
  obtain ⟨hword, hrest⟩ := cutWord_append_of_blank (trimEnd (c :: cs)) hbs
  rw [← hcs] at hword hrest
  rw [trim, trimStart_cons hc]
  exact ⟨hword.symm, hrest.symm⟩

/-- The first word and the trimmed rest of a line do not depend on the blanks around them. -/
theorem cutWord_trim_append {w : List Char} (hne : w ≠ []) (hw : ∀ c ∈ w, isBlank c = false)
    {b : Char} (hb : isBlank b = true) (r : List Char) :
    (cutWord (trim (w ++ b :: r))).1 = w ∧ trim (cutWord (trim (w ++ b :: r))).2 = trim r := by
  obtain ⟨c, w', rfl⟩ := List.exists_cons_of_ne_nil hne
  obtain ⟨hword, hrest⟩ := cutWord_trim (hw c List.mem_cons_self) (w' ++ b :: r)
  rw [← List.cons_append, cutWord_append hw hb] at hword hrest
  exact ⟨hword, hrest⟩

/-! ## Blanks and case -/

def blankCodes : List Nat := [
  0x9, 0xA, 0xB, 0xC, 0xD, 0x20, 0x85, 0xA0, 0x1680, 0x2000, 0x2001, 0x2002, 0x2003, 0x2004,
  0x2005, 0x2006, 0x2007, 0x2008, 0x2009, 0x200A, 0x2028, 0x2029, 0x202F, 0x205F, 0x3000]

theorem toNat_mem_blankCodes {c : Char} (hc : isBlank c = true) : c.toNat ∈ blankCodes := by
  simp only [isBlank, Bool.or_eq_true, Bool.and_eq_true, decide_eq_true_eq, beq_iff_eq] at hc
  simp only [blankCodes, List.mem_cons, List.not_mem_nil, or_false]
  omega

/-- No blank has another lower case, so lowering a text removes none. -/
theorem blankCodes_uncased : ∀ n ∈ blankCodes, (Char.ofNat n).toLower = Char.ofNat n ∧
    caseRuns.find? (·.covers n) = none ∧ n ≠ 'Σ'.toNat ∧ n ≠ 'İ'.toNat := by decide

theorem mem_lowerFrom_of_isBlank {c : Char} (hc : isBlank c = true) {cs : List Char}
    (hmem : c ∈ cs) (before : List Char) : c ∈ lowerFrom before cs := by
  induction cs generalizing before with
  | nil => cases hmem
  | cons d cs ih =>
      rw [lowerFrom, List.mem_append]
      rcases List.mem_cons.mp hmem with rfl | hmem
      · obtain ⟨hlower, hrun, hsigma, hdotted⟩ :=
          blankCodes_uncased c.toNat (toNat_mem_blankCodes hc)
        rw [Char.ofNat_toNat] at hlower
        have hsigma' : c ≠ 'Σ' := fun h ↦ hsigma (congrArg Char.toNat h)
        have hdotted' : c ≠ 'İ' := fun h ↦ hdotted (congrArg Char.toNat h)
        left
        simp [hlower, hsigma', hdotted', lowerChar, hrun]
      · exact .inr (ih hmem _)

theorem mem_lower_of_isBlank {c : Char} (hc : isBlank c = true) {s : String}
    (hmem : c ∈ s.toList) : c ∈ (lower s).toList := by
  rw [lower, String.toList_ofList]
  exact mem_lowerFrom_of_isBlank hc hmem []

end EventMachine.Text
