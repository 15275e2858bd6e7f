/-!
# Ascending ids

A finite set of device or event source ids, kept as a strictly ascending list.
-/

namespace EventMachine.IdList

/-- Adds an id at its place; an id that is there already stays single. -/
def insert (a : UInt32) : List UInt32 → List UInt32
  | [] => [a]
  | b :: bs => if a < b then a :: b :: bs else if a = b then b :: bs else b :: insert a bs

theorem mem_insert {a b : UInt32} {bs : List UInt32} : b ∈ insert a bs ↔ b = a ∨ b ∈ bs := by
  induction bs with
  | nil => simp [insert]
  | cons c cs ih =>
      rw [insert]
      split
      · simp
      · split
        · simp_all
        · rw [List.mem_cons, ih, List.mem_cons, or_left_comm]

/-- The ids of a list in ascending order, each of them once. -/
def ascending (ids : List UInt32) : List UInt32 := ids.foldr insert []

/-- Sorting and dropping repetitions keeps exactly the numbers of the list. -/
theorem mem_ascending {a : UInt32} {ids : List UInt32} : a ∈ ascending ids ↔ a ∈ ids := by
  induction ids with
  | nil => simp [ascending]
  | cons b bs ih =>
      rw [ascending, List.foldr_cons, mem_insert, List.mem_cons, ← ih, ascending]

theorem insert_pairwise {a : UInt32} {bs : List UInt32} (h : bs.Pairwise (· < ·)) :
    (insert a bs).Pairwise (· < ·) := by
  induction bs with
  | nil => simp [insert]
  | cons b bs ih =>
      have hb := List.pairwise_cons.mp h
      rw [insert]
      split
      · rename_i hab
        refine List.pairwise_cons.mpr ⟨fun c hc ↦ ?_, h⟩
        rcases List.mem_cons.mp hc with rfl | hc
        · exact hab
        · exact UInt32.lt_trans hab (hb.1 c hc)
      · split
        · exact h
        · rename_i hab hne
          refine List.pairwise_cons.mpr ⟨fun c hc ↦ ?_, ih hb.2⟩
          rcases mem_insert.mp hc with rfl | hc
          · rw [UInt32.lt_iff_toNat_lt] at hab ⊢
            have : b.toNat ≠ c.toNat := fun h ↦ hne (UInt32.toNat_inj.mp h).symm
            omega
          · exact hb.1 c hc

/-- The numbers come out strictly ascending, so each stands there once. -/
theorem ascending_pairwise (ids : List UInt32) : (ascending ids).Pairwise (· < ·) := by
  induction ids with
  | nil => simp [ascending]
  | cons a ids ih => exact insert_pairwise ih

end EventMachine.IdList
