import EventMachine.Proofs.Json.Alike
import Mathlib.Data.List.Pairwise

/-!
# The members of an object

In a tree the members of an object are in ascending order of their keys.  So no key is repeated
there, and a member is there exactly if it is the last one with its key.
-/

namespace EventMachine.Json.Document

section Sorting

variable {α : Type} {ms : List (String × α)}

def Ascending (ms : List (String × α)) : Prop := ms.Pairwise fun m n ↦ m.1 < n.1

theorem Ascending.nodup (h : Ascending ms) : (ms.map (·.1)).Nodup := by
  rw [List.Nodup, List.pairwise_map]
  refine h.imp ?_
  intro m n hlt heq
  rw [heq] at hlt
  exact String.lt_irrefl _ hlt

theorem lookup_cons_eq_ite (m : String × α) (ms : List (String × α)) (k : String) :
    (m :: ms).lookup k = if k = m.1 then some m.2 else ms.lookup k := by
  obtain ⟨l, a⟩ := m
  by_cases hk : k = l
  · rw [if_pos hk, hk, List.lookup_cons_self]
  · rw [if_neg hk, List.lookup_cons, beq_false_of_ne hk]

theorem lookup_eq_none_of_lt {k : String} (h : ∀ n ∈ ms, k < n.1) : ms.lookup k = none := by
  rw [List.lookup_eq_none_iff]
  intro n hn
  rw [bne_iff_ne]
  rintro rfl
  exact String.lt_irrefl _ (h n hn)

theorem mem_of_mem_insertMember {m n : String × α} (h : n ∈ insertMember m ms) :
    n = m ∨ n ∈ ms := by
  induction ms with
  | nil => exact Or.inl (List.mem_singleton.mp h)
  | cons m' ms ih =>
      rw [insertMember] at h
      split at h
      · exact List.mem_cons.mp h
      · split at h
        · exact Or.inr h
        · rcases List.mem_cons.mp h with rfl | h
          · exact Or.inr List.mem_cons_self
          · rcases ih h with heq | hmem
            · exact Or.inl heq
            · exact Or.inr (List.mem_cons_of_mem _ hmem)

theorem Ascending.insertMember (h : Ascending ms) (m : String × α) :
    Ascending (insertMember m ms) := by
  induction ms with
  | nil => exact List.pairwise_singleton _ m
  | cons n ms ih =>
      obtain ⟨hn, hms⟩ := List.pairwise_cons.mp h
      rw [Document.insertMember]
      split
      · rename_i hlt
        refine List.pairwise_cons.mpr ⟨?_, h⟩
        intro m' hm'
        rcases List.mem_cons.mp hm' with rfl | hm'
        · exact hlt
        · exact String.lt_trans hlt (hn m' hm')
      · rename_i hge
        split
        · exact h
        · rename_i hne
          have hlt : n.1 < m.1 := Std.lt_of_le_of_ne (String.not_lt.mp hge) (Ne.symm hne)
          refine List.pairwise_cons.mpr ⟨?_, ih hms⟩
          intro m' hm'
          rcases mem_of_mem_insertMember hm' with rfl | hm'
          · exact hlt
          · exact hn m' hm'

/-- A member does not replace one with its key. -/
theorem Ascending.lookup_insertMember (h : Ascending ms) (m : String × α) (k : String) :
    (Document.insertMember m ms).lookup k = (ms ++ [m]).lookup k := by
  induction ms with
  | nil => rfl
  | cons n ms ih =>
      obtain ⟨hn, hms⟩ := List.pairwise_cons.mp h
      rw [Document.insertMember]
      split
      · rename_i hlt
        rw [List.lookup_append]
        by_cases hk : k = m.1
        · -- a key below the first one is not there yet
          have hfirst : ∀ m' ∈ n :: ms, m.1 < m'.1 := by
            intro m' hm'
            rcases List.mem_cons.mp hm' with rfl | hm'
            · exact hlt
            · exact String.lt_trans hlt (hn m' hm')
          have hnone := lookup_eq_none_of_lt hfirst
          simp [lookup_cons_eq_ite m, hk, hnone]
        · simp [lookup_cons_eq_ite m, hk]
      · split
        · rename_i heq
          rw [List.lookup_append]
          by_cases hk : k = n.1
          · simp [lookup_cons_eq_ite, hk]
          · simp [lookup_cons_eq_ite, heq, hk]
        · rw [List.cons_append, lookup_cons_eq_ite, lookup_cons_eq_ite, ih hms]

theorem ascending_sortMembers (ms : List (String × α)) : Ascending (sortMembers ms) := by
  induction ms with
  | nil => exact .nil
  | cons m ms ih => exact ih.insertMember m

/-- Of several members with one key, sorting keeps the last. -/
theorem lookup_sortMembers (ms : List (String × α)) (k : String) :
    (sortMembers ms).lookup k = ms.reverse.lookup k := by
  induction ms with
  | nil => rfl
  | cons m ms ih =>
      calc (insertMember m (sortMembers ms)).lookup k
        _ = (sortMembers ms ++ [m]).lookup k :=
          (ascending_sortMembers ms).lookup_insertMember m k
        _ = (ms.reverse ++ [m]).lookup k := by rw [List.lookup_append, List.lookup_append, ih]
        _ = (m :: ms).reverse.lookup k := by rw [List.reverse_cons]

theorem exists_lookup_of_mem {m : String × α} (hm : m ∈ ms) : ∃ a, ms.lookup m.1 = some a := by
  rw [← Option.ne_none_iff_exists']
  intro h
  have hne := List.lookup_eq_none_iff.mp h m hm
  exact bne_iff_ne.mp hne rfl

theorem mem_of_lookup_eq_some {k : String} {a : α} (h : ms.lookup k = some a) : (k, a) ∈ ms := by
  obtain ⟨ms₁, ms₂, rfl, -⟩ := List.lookup_eq_some_iff.mp h
  exact List.mem_append_right _ List.mem_cons_self

theorem mem_iff_lookup_eq (h : (ms.map (·.1)).Nodup) {m : String × α} :
    m ∈ ms ↔ ms.lookup m.1 = some m.2 := by
  constructor
  · intro hm
    induction ms with
    | nil => cases hm
    | cons n ms ih =>
        rw [List.map_cons, List.nodup_cons] at h
        rcases List.mem_cons.mp hm with rfl | hm
        · rw [lookup_cons_eq_ite, if_pos rfl]
        · have hne : m.1 ≠ n.1 := by
            intro heq
            exact h.1 (heq ▸ List.mem_map_of_mem hm)
          rw [lookup_cons_eq_ite, if_neg hne]
          exact ih h.2 hm
  · exact mem_of_lookup_eq_some

/-- Of the members with one key the tree has the last. -/
theorem mem_sortMembers_iff {m : String × α} :
    m ∈ sortMembers ms ↔ ms.reverse.lookup m.1 = some m.2 := by
  rw [mem_iff_lookup_eq (ascending_sortMembers ms).nodup, lookup_sortMembers]

end Sorting

theorem lookup_map_node (ms : List (String × Document)) (k : String) :
    (ms.map fun m ↦ (m.1, m.2.node)).lookup k = (ms.lookup k).map node := by
  induction ms with
  | nil => rfl
  | cons m ms ih =>
      rw [List.map_cons, lookup_cons_eq_ite, lookup_cons_eq_ite, ih, apply_ite (Option.map node)]
      rfl

/-- The tree of an object has the last member with a key, if there is one. -/
theorem mem_sortMembers_memberNodes_iff {ms : List (String × Document)} {m : String × Node} :
    m ∈ sortMembers (memberNodes ms) ↔ ∃ d, ms.reverse.lookup m.1 = some d ∧ d.node = m.2 := by
  rw [mem_sortMembers_iff, memberNodes_eq_map, ← List.map_reverse, lookup_map_node,
    Option.map_eq_some_iff]

end EventMachine.Json.Document
