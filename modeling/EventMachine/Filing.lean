/-!
# Filing

Values filed under keys, in the order in which the keys first came.
-/

namespace EventMachine

variable {κ ν : Type} [DecidableEq κ]

/-- Files `v` under `k`, replacing what was there. -/
def fileUnder (k : κ) (v : ν) : List (κ × ν) → List (κ × ν)
  | [] => [(k, v)]
  | e :: es => if e.1 = k then (k, v) :: es else e :: fileUnder k v es

def fileAll (entries es : List (κ × ν)) : List (κ × ν) :=
  entries.foldl (fun es e ↦ fileUnder e.1 e.2 es) es

theorem lookup_fileUnder_self (k : κ) (v : ν) (es : List (κ × ν)) :
    (fileUnder k v es).lookup k = some v := by
  induction es with
  | nil => simp [fileUnder]
  | cons e es ih =>
      rw [fileUnder]
      split
      · simp
      · rename_i h
        have hk : (k == e.1) = false := by simpa using fun h' ↦ h h'.symm
        rw [List.lookup_cons, hk]
        exact ih

theorem lookup_fileUnder_ne {k k' : κ} (h : k' ≠ k) (v : ν) (es : List (κ × ν)) :
    (fileUnder k v es).lookup k' = es.lookup k' := by
  induction es with
  | nil => simp [fileUnder, h]
  | cons e es ih =>
      rw [fileUnder]
      split
      · rename_i he
        have hk : (k' == k) = false := by simpa using h
        rw [List.lookup_cons, List.lookup_cons, he, hk]
      · rw [List.lookup_cons, List.lookup_cons, ih]

end EventMachine
