import EventMachine.Validation
import Mathlib.Data.List.Nodup

/-!
# The first repetition in a list

The search for a repeated key remembers the keys it has passed.  As long as it goes on, they are
distinct and each is remembered with its only index, so the search ends at the first key that
occurred before, and with the only earlier index of that key.
-/

namespace EventMachine

variable {κ : Type}

/-! ## Repetitions -/

/-- The key at `i` has an earlier occurrence at `j`. -/
def Repeats (keys : List κ) (i j : Nat) : Prop :=
  j < i ∧ ∃ k, keys[i]? = some k ∧ keys[j]? = some k

theorem Repeats.lt_length {keys : List κ} {i j : Nat} (h : Repeats keys i j) : i < keys.length := by
  obtain ⟨-, k, hi, -⟩ := h
  exact (List.getElem?_eq_some_iff.mp hi).1

theorem repeats_iff {keys : List κ} {i j : Nat} (hi : i < keys.length) :
    Repeats keys i j ↔ j < i ∧ keys[j]? = keys[i]? := by
  rw [Repeats, List.getElem?_eq_getElem hi]
  simp

/-- A list without duplicates is one in which no place repeats an earlier one. -/
theorem nodup_iff_not_repeats {keys : List κ} : keys.Nodup ↔ ∀ i j, ¬Repeats keys i j := by
  rw [List.nodup_iff_getElem?_ne_getElem?]
  constructor
  · intro hn i j h
    obtain ⟨hji, heq⟩ := (repeats_iff h.lt_length).mp h
    exact hn j i hji h.lt_length heq
  · intro h j i hji hi heq
    exact h i j ((repeats_iff hi).mpr ⟨hji, heq⟩)

theorem repeats_take_iff {keys : List κ} {n i j : Nat} :
    Repeats (keys.take n) i j ↔ i < n ∧ Repeats keys i j := by
  by_cases hi : i < n
  · simp only [Repeats, hi, true_and]
    refine and_congr_right fun hji ↦ ?_
    rw [List.getElem?_take_of_lt hi, List.getElem?_take_of_lt (Nat.lt_trans hji hi)]
  · have hnone : (keys.take n)[i]? = none := by rw [List.getElem?_take, if_neg hi]
    simp only [hi, false_and, iff_false]
    rintro ⟨-, k, hk, -⟩
    cases hnone.symm.trans hk

/-- Up to the first key that occurred before, all keys are distinct. -/
theorem nodup_take_iff {keys : List κ} {n : Nat} :
    (keys.take n).Nodup ↔ ∀ i j, Repeats keys i j → n ≤ i := by
  rw [nodup_iff_not_repeats]
  refine forall₂_congr fun i j ↦ ?_
  rw [repeats_take_iff, not_and', Nat.not_lt]

/-- Where the keys before `i` are distinct, the one at `i` occurs among them only once. -/
theorem Repeats.eq_of_nodup_take {keys : List κ} {i j j' : Nat} (hn : (keys.take i).Nodup)
    (h : Repeats keys i j) (h' : Repeats keys i j') : j' = j := by
  obtain ⟨hji, k, hi, hj⟩ := h
  obtain ⟨hji', k', hi', hj'⟩ := h'
  obtain rfl : k = k' := Option.some.inj (hi.symm.trans hi')
  have hmin := nodup_take_iff.mp hn
  rcases Nat.lt_trichotomy j' j with hlt | heq | hgt
  · exact absurd (hmin j j' ⟨hlt, k, hj, hj'⟩) (Nat.not_le_of_lt hji)
  · exact heq
  · exact absurd (hmin j' j ⟨hgt, k, hj', hj⟩) (Nat.not_le_of_lt hji')

/-! ## The search -/

variable [DecidableEq κ]

/-- What is remembered of `passed` is the index of each of its keys, and nothing else. -/
def Remembers (seen : List (κ × Nat)) (passed : List κ) : Prop :=
  ∀ k j, seen.lookup k = some j ↔ passed[j]? = some k

theorem Remembers.nil : Remembers ([] : List (κ × Nat)) [] := by
  intro k j
  simp

theorem Remembers.lookup_eq_none_iff {seen : List (κ × Nat)} {passed : List κ}
    (h : Remembers seen passed) (k : κ) : seen.lookup k = none ↔ k ∉ passed := by
  rw [List.mem_iff_getElem?, Option.eq_none_iff_forall_ne_some]
  simp only [ne_eq, h k, not_exists]

/-- A key that is new is remembered with the index after all the others. -/
theorem Remembers.snoc {seen : List (κ × Nat)} {passed : List κ} (h : Remembers seen passed)
    {k : κ} (hk : k ∉ passed) : Remembers ((k, passed.length) :: seen) (passed ++ [k]) := by
  intro k' j
  by_cases hkk : k' = k
  · subst hkk
    have hpassed : passed[j]? ≠ some k' := fun hj ↦ hk (List.mem_of_getElem? hj)
    rw [List.lookup_cons_self, List.getElem?_append]
    split
    · rename_i hj
      simp only [hpassed, iff_false, Option.some.injEq]
      omega
    · rename_i hj
      rw [List.getElem?_singleton]
      split <;> simp <;> omega
  · have hne : (k' == k) = false := by simpa using hkk
    rw [List.lookup_cons, hne, h k' j, List.getElem?_append]
    split
    · rfl
    · rename_i hj
      rw [List.getElem?_eq_none (by omega), List.getElem?_singleton]
      split <;> simp [Ne.symm hkk]

/-- The search goes on over distinct keys, and ends at the first one that has passed. -/
theorem firstDuplicateFrom_spec {seen : List (κ × Nat)} {passed : List κ}
    (h : Remembers seen passed) (hp : passed.Nodup) (keys : List κ) :
    (firstDuplicateFrom seen passed.length keys = none → (passed ++ keys).Nodup) ∧
      ∀ i j, firstDuplicateFrom seen passed.length keys = some (i, j) →
        ((passed ++ keys).take i).Nodup ∧ Repeats (passed ++ keys) i j := by
  induction keys generalizing seen passed with
  | nil => simpa [firstDuplicateFrom] using hp
  | cons k keys ih =>
      rw [firstDuplicateFrom]
      cases hk : seen.lookup k with
      | some j =>
          refine ⟨by simp, fun i j' heq ↦ ?_⟩
          obtain ⟨rfl, rfl⟩ : passed.length = i ∧ j = j' := by simpa using heq
          have hj : passed[j]? = some k := (h k j).mp hk
          have hlt : j < passed.length := (List.getElem?_eq_some_iff.mp hj).1
          refine ⟨by simpa using hp, hlt, k, by simp, ?_⟩
          rw [List.getElem?_append_left hlt, hj]
      | none =>
          have hnew : k ∉ passed := (h.lookup_eq_none_iff k).mp hk
          have hp' : (passed ++ [k]).Nodup := by
            rw [List.nodup_append]
            refine ⟨hp, by simp, fun a ha b hb ↦ ?_⟩
            rw [List.mem_singleton.mp hb]
            exact fun hak ↦ hnew (hak ▸ ha)
          simpa using ih (h.snoc hnew) hp'

/-- The first repetition: the keys before it are distinct, and it repeats one of them. -/
theorem firstDuplicate_eq_some {keys : List κ} {i j : Nat} (h : firstDuplicate keys = some (i, j)) :
    (keys.take i).Nodup ∧ Repeats keys i j := by
  simpa using (firstDuplicateFrom_spec .nil List.nodup_nil keys).2 i j h

/-- Nothing is reported exactly when all keys are distinct. -/
theorem firstDuplicate_eq_none_iff {keys : List κ} : firstDuplicate keys = none ↔ keys.Nodup := by
  refine ⟨fun h ↦ ?_, fun hn ↦ ?_⟩
  · simpa using (firstDuplicateFrom_spec .nil List.nodup_nil keys).1 h
  · rw [Option.eq_none_iff_forall_ne_some]
    rintro ⟨i, j⟩ h
    exact nodup_iff_not_repeats.mp hn i j (firstDuplicate_eq_some h).2

/-- The search finds nothing exactly if the keys are distinct.  What it finds otherwise is the
smallest index whose key occurs before, with the only index at which it does. -/
theorem firstDuplicate_finds_earliest (keys : List κ) :
    (firstDuplicate keys = none ↔ keys.Nodup) ∧
    ∀ i j, firstDuplicate keys = some (i, j) ↔
      Repeats keys i j ∧ (∀ i' j', Repeats keys i' j' → i ≤ i') ∧
        ∀ j', Repeats keys i j' → j' = j := by
  refine ⟨firstDuplicate_eq_none_iff, fun i j ↦ ⟨fun h ↦ ?_, ?_⟩⟩
  · obtain ⟨hn, hr⟩ := firstDuplicate_eq_some h
    exact ⟨hr, nodup_take_iff.mp hn, fun j' hr' ↦ hr.eq_of_nodup_take hn hr'⟩
  · rintro ⟨hr, hmin, honly⟩
    cases hfound : firstDuplicate keys with
    | none =>
        exact absurd hr (nodup_iff_not_repeats.mp (firstDuplicate_eq_none_iff.mp hfound) i j)
    | some found =>
        obtain ⟨hn, hr'⟩ := firstDuplicate_eq_some hfound
        have hi : found.1 = i :=
          Nat.le_antisymm (nodup_take_iff.mp hn i j hr) (hmin _ _ hr')
        have hj : found.2 = j := honly _ (hi ▸ hr')
        rw [← hi, ← hj]

/-- Of two repetitions the one that is complete first is found. -/
example : firstDuplicate ["b", "a", "c", "a", "b"] = some (3, 1) := by decide

end EventMachine
