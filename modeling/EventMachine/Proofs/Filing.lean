import EventMachine.Filing
import Mathlib.Data.Finset.Card

/-!
# What is filed under a key

Of several entries with one key the last one stays, and no key is there twice.  Entries with
distinct keys are filed as they are, so that nothing is replaced and the order stays.
-/

namespace EventMachine

variable {α κ ν : Type} [DecidableEq κ]

/-- A new key goes to the end. -/
theorem fileUnder_of_notMem {k : κ} {es : List (κ × ν)} (hk : k ∉ es.map (·.1)) (v : ν) :
    fileUnder k v es = es ++ [(k, v)] := by
  induction es with
  | nil => rfl
  | cons e es ih =>
      rw [List.map_cons, List.mem_cons, not_or] at hk
      obtain ⟨hne, hk⟩ := hk
      rw [fileUnder, if_neg (Ne.symm hne), ih hk, List.cons_append]

theorem fileAll_of_nodup {entries es : List (κ × ν)}
    (hnodup : ((es ++ entries).map (·.1)).Nodup) : fileAll entries es = es ++ entries := by
  induction entries generalizing es with
  | nil => exact (List.append_nil es).symm
  | cons e entries ih =>
      have hsplit : es ++ e :: entries = (es ++ [e]) ++ entries := by simp
      have hfresh : e.1 ∉ es.map (·.1) := by
        intro hmem
        rw [List.map_append, List.nodup_append] at hnodup
        exact hnodup.2.2 _ hmem e.1 (by simp) rfl
      rw [hsplit] at hnodup ⊢
      rw [← ih hnodup, ← fileUnder_of_notMem hfresh]
      rfl

/-! ## Entries whose keys repeat -/

/-- The last entry filed under a key is the one that is found. -/
theorem lookup_fileAll (entries es : List (κ × ν)) (k : κ) :
    (fileAll entries es).lookup k = (entries.reverse.lookup k).or (es.lookup k) := by
  induction entries generalizing es with
  | nil => rfl
  | cons e entries ih =>
      have hfile : fileAll (e :: entries) es = fileAll entries (fileUnder e.1 e.2 es) := rfl
      rw [hfile, ih, List.reverse_cons, List.lookup_append, Option.or_assoc]
      congr 1
      by_cases hk : k = e.1
      · subst hk
        rw [lookup_fileUnder_self, List.lookup_cons, beq_self_eq_true]
        rfl
      · rw [lookup_fileUnder_ne hk, List.lookup_cons, beq_eq_false_iff_ne.mpr hk]
        rfl

theorem keys_fileUnder (k : κ) (v : ν) (es : List (κ × ν)) : (fileUnder k v es).map (·.1) =
    if k ∈ es.map (·.1) then es.map (·.1) else es.map (·.1) ++ [k] := by
  induction es with
  | nil => rfl
  | cons e es ih =>
      rw [fileUnder]
      by_cases he : e.1 = k
      · simp [he]
      · rw [if_neg he, List.map_cons, ih]
        by_cases hk : k ∈ es.map (·.1)
        · simp [hk]
        · simp [hk, Ne.symm he]

theorem nodup_keys_fileUnder {es : List (κ × ν)} (hes : (es.map (·.1)).Nodup) (k : κ) (v : ν) :
    ((fileUnder k v es).map (·.1)).Nodup := by
  rw [keys_fileUnder]
  split
  · exact hes
  · rename_i hk
    refine List.nodup_append.mpr ⟨hes, List.nodup_singleton k, fun a ha b hb ↦ ?_⟩
    rintro rfl
    exact hk (List.mem_singleton.mp hb ▸ ha)

theorem nodup_keys_fileAll {es : List (κ × ν)} (hes : (es.map (·.1)).Nodup)
    (entries : List (κ × ν)) : ((fileAll entries es).map (·.1)).Nodup := by
  induction entries generalizing es with
  | nil => exact hes
  | cons e entries ih => exact ih (nodup_keys_fileUnder hes e.1 e.2)

theorem mem_keys_fileAll {entries es : List (κ × ν)} {k : κ} :
    k ∈ (fileAll entries es).map (·.1) ↔ k ∈ es.map (·.1) ∨ k ∈ entries.map (·.1) := by
  induction entries generalizing es with
  | nil => simp [fileAll]
  | cons e entries ih =>
      have hfile : fileAll (e :: entries) es = fileAll entries (fileUnder e.1 e.2 es) := rfl
      rw [hfile, ih, keys_fileUnder, List.map_cons, List.mem_cons]
      split
      · rename_i he
        constructor
        · exact Or.imp_right .inr
        · rintro (hk | rfl | hk)
          · exact .inl hk
          · exact .inl he
          · exact .inr hk
      · rw [List.mem_append, List.mem_singleton, or_assoc]

/-- There are as many entries as there were different keys. -/
theorem length_fileAll (entries : List (κ × ν)) :
    (fileAll entries []).length = (entries.map (·.1)).toFinset.card := by
  have hnodup : ((fileAll entries []).map (·.1)).Nodup :=
    nodup_keys_fileAll (by simp) entries
  have hkeys : ((fileAll entries []).map (·.1)).toFinset = (entries.map (·.1)).toFinset := by
    ext k
    rw [List.mem_toFinset, List.mem_toFinset, mem_keys_fileAll]
    simp
  rw [← hkeys, List.toFinset_card_of_nodup hnodup, List.length_map]

/-! ## Searching for a key -/

section

variable {f : α → κ} {as bs : List α}

theorem find?_eq_some_of_nodup (hnodup : (as.map f).Nodup) {a : α} (ha : a ∈ as) :
    (as.find? fun b ↦ decide (f b = f a)) = some a := by
  have hsome : (as.find? fun b ↦ decide (f b = f a)).isSome :=
    List.find?_isSome.mpr ⟨a, ha, decide_eq_true rfl⟩
  obtain ⟨b, hb⟩ := Option.isSome_iff_exists.mp hsome
  have hkey : f b = f a := by simpa using List.find?_some hb
  rw [hb, List.inj_on_of_nodup_map hnodup (List.mem_of_find?_eq_some hb) ha hkey]

/-- Searching for a key does not depend on the order if no key occurs twice. -/
theorem find?_eq_of_perm (h : as.Perm bs) (hnodup : (as.map f).Nodup) (k : κ) :
    (as.find? fun a ↦ decide (f a = k)) = bs.find? fun a ↦ decide (f a = k) := by
  cases hb : bs.find? fun a ↦ decide (f a = k) with
  | none =>
      rw [List.find?_eq_none] at hb ⊢
      exact fun a ha ↦ hb a (h.mem_iff.mp ha)
  | some b =>
      obtain rfl : f b = k := by simpa using List.find?_some hb
      exact find?_eq_some_of_nodup hnodup (h.mem_iff.mpr (List.mem_of_find?_eq_some hb))

end

/-! ## Look-up in a list of pairs -/

theorem lookup_map (f : α → κ) (g : α → ν) (as : List α) (k : κ) :
    (as.map fun a ↦ (f a, g a)).lookup k = (as.find? fun a ↦ decide (f a = k)).map g := by
  induction as with
  | nil => rfl
  | cons a as ih =>
      rw [List.map_cons, List.lookup_cons, List.find?_cons]
      by_cases h : f a = k
      · simp [h]
      · have hk : (k == f a) = false := beq_eq_false_iff_ne.mpr (Ne.symm h)
        simp only [hk, h, decide_false, ih]

/-- Numbering a list and looking a key up is asking for its first place. -/
theorem lookup_zipIdx (ks : List κ) (n : Nat) (k : κ) :
    (ks.zipIdx n).lookup k = (ks.idxOf? k).map (n + ·) := by
  induction ks generalizing n with
  | nil => rfl
  | cons a ks ih =>
      rw [List.zipIdx_cons, List.lookup_cons, List.idxOf?_cons]
      by_cases h : k = a
      · simp [h]
      · have hk : (k == a) = false := beq_eq_false_iff_ne.mpr h
        have ha : (a == k) = false := beq_eq_false_iff_ne.mpr (Ne.symm h)
        rw [hk, ha]
        simp only [ih, Option.map_map, Bool.false_eq_true, if_false]
        congr 1
        funext i
        simp only [Function.comp_apply]
        omega

theorem lookup_zipIdx_of_mem {ks : List κ} {k : κ} (hk : k ∈ ks) :
    ks.zipIdx.lookup k = some (ks.idxOf k) := by
  obtain ⟨i, hi⟩ := Option.isSome_iff_exists.mp (List.isSome_idxOf?.mpr hk)
  rw [lookup_zipIdx, List.idxOf_eq_getD_idxOf?, hi]
  simp

end EventMachine
