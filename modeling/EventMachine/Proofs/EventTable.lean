import EventMachine.EventTable
import EventMachine.Proofs.Filing

/-!
# Event tables as lists of triggers

Events are filed under texts, but two events share a text only if they are the same event.  So a
table is a map on pairs: of the triggers entered for an event the last one counts.
-/

namespace EventMachine

/-- The first separator of a list determines what is before it and what is behind it. -/
theorem append_cons_inj_of_notMem {α : Type} {a : α} {xs ys ps qs : List α} (hxs : a ∉ xs)
    (hys : a ∉ ys) (h : xs ++ a :: ps = ys ++ a :: qs) : xs = ys ∧ ps = qs := by
  induction xs generalizing ys with
  | nil =>
      cases ys with
      | nil => exact ⟨rfl, List.tail_eq_of_cons_eq h⟩
      | cons y ys =>
          have hy : a = y := List.head_eq_of_cons_eq h
          exact absurd (hy ▸ List.mem_cons_self) hys
  | cons x xs ih =>
      cases ys with
      | nil =>
          have hx : x = a := List.head_eq_of_cons_eq h
          exact absurd (hx ▸ List.mem_cons_self) hxs
      | cons y ys =>
          rw [List.cons_append, List.cons_append, List.cons_eq_cons] at h
          obtain ⟨rfl, h⟩ := h
          obtain ⟨rfl, rfl⟩ := ih (fun hmem ↦ hxs (List.mem_cons_of_mem _ hmem))
            (fun hmem ↦ hys (List.mem_cons_of_mem _ hmem)) h
          exact ⟨rfl, rfl⟩

namespace EventTable

open EventMachine.Text

/-- The first underscore of a key ends the source. -/
theorem key_inj {s s' : UInt32} {p p' : String} (h : key s p = key s' p') : s = s' ∧ p = p' := by
  have hchars : Nat.toDigits 10 s.toNat ++ '_' :: p.toList =
      Nat.toDigits 10 s'.toNat ++ '_' :: p'.toList := by
    simpa [key, decimal] using congrArg String.toList h
  obtain ⟨hdigits, hpayload⟩ := append_cons_inj_of_notMem Nat.underscore_not_in_toDigits
    Nat.underscore_not_in_toDigits hchars
  have hsource : s.toNat = s'.toNat := by
    simpa only [Nat.ofDigitChars_ten_toDigits] using
      congrArg (fun cs ↦ Nat.ofDigitChars 10 cs 0) hdigits
  exact ⟨UInt32.toNat_inj.mp hsource, String.toList_inj.mp hpayload⟩

/-- A decimal number has no separator in it, so the first separator of a key ends the source. -/
theorem key_eq_iff {s s' : UInt32} {p p' : String} : key s p = key s' p' ↔ s = s' ∧ p = p' := by
  constructor
  · exact key_inj
  · rintro ⟨rfl, rfl⟩
    rfl

theorem entries_ofTriggers (ts : List Trigger) : (ofTriggers ts).entries =
    fileAll (ts.map fun t ↦ (key t.source t.payload, t.name)) [] := by
  have hfold (t : EventTable) : (ts.foldl (fun t x ↦ t.add x.source x.payload x.name) t).entries =
      fileAll (ts.map fun t ↦ (key t.source t.payload, t.name)) t.entries := by
    induction ts generalizing t with
    | nil => rfl
    | cons x ts ih => exact ih (t.add x.source x.payload x.name)
  exact hfold {}

/-- Looking an event up is looking for the last trigger that was entered for it. -/
theorem lookup_ofTriggers_eq_find? (ts : List Trigger) (source : UInt32) (payload : String) :
    (ofTriggers ts).lookup source payload =
      (ts.reverse.find? fun t ↦ t.source = source ∧ t.payload = payload).map (·.name) := by
  rw [lookup, entries_ofTriggers, lookup_fileAll, List.lookup_nil, Option.or_none,
    ← List.map_reverse, lookup_map]
  simp only [key_eq_iff]

/-- The table has one entry for each distinct pair of source and payload. -/
theorem size_ofTriggers (ts : List Trigger) : (ofTriggers ts).size =
    (ts.map fun t ↦ (t.source, t.payload)).toFinset.card := by
  have hkeys : (ts.map fun t ↦ (key t.source t.payload, t.name)).map (·.1) =
      (ts.map fun t ↦ (t.source, t.payload)).map fun e ↦ key e.1 e.2 := by
    simp [Function.comp_def]
  have hinjective : Function.Injective fun e : UInt32 × String ↦ key e.1 e.2 := fun _ _ h ↦
    Prod.ext (key_inj h).1 (key_inj h).2
  rw [size, entries_ofTriggers, length_fileAll, hkeys, List.card_toFinset,
    List.dedup_map_of_injective hinjective, List.length_map, ← List.card_toFinset]

/-- As long as no two triggers stand for one event, looking an event up in their table is looking
for the trigger that stands for it. -/
theorem lookup_ofTriggers {ts : List Trigger}
    (hevents : (ts.map fun t ↦ (t.source, t.payload)).Nodup) (source : UInt32) (payload : String) :
    (ofTriggers ts).lookup source payload =
      (ts.find? fun t ↦ t.source = source ∧ t.payload = payload).map (·.name) := by
  have hkeys : ((ts.map fun t ↦ (key t.source t.payload, t.name)).map (·.1)).Nodup := by
    have hmap := hevents.map_on (f := fun e ↦ key e.1 e.2) fun e _ e' _ h ↦ by
      exact Prod.ext (key_inj h).1 (key_inj h).2
    simpa [Function.comp_def] using hmap
  rw [lookup, entries_ofTriggers, fileAll_of_nodup (by simpa using hkeys), List.nil_append,
    lookup_map]
  simp only [key_eq_iff]

/-- However many triggers are entered in a table, whatever their sources and payloads: an event is
looked up as the last trigger entered for exactly this event, and is unknown if there is none; there
are as many entries as there are different events, and none only if nothing was entered; and no two
events are filed under one text. -/
theorem ofTriggers_maps_events (ts : List Trigger) :
    (∀ source payload name, (ofTriggers ts).lookup source payload = some name ↔
      ∃ before t after, ts = before ++ t :: after ∧
        t.source = source ∧ t.payload = payload ∧ t.name = name ∧
        ∀ u ∈ after, ¬(u.source = source ∧ u.payload = payload)) ∧
    (∀ source payload, (ofTriggers ts).lookup source payload = none ↔
      ∀ t ∈ ts, ¬(t.source = source ∧ t.payload = payload)) ∧
    (ofTriggers ts).size = (ts.map fun t ↦ (t.source, t.payload)).toFinset.card ∧
    ((ofTriggers ts).isEmpty = true ↔ ts = []) ∧
    ∀ s p s' p', key s p = key s' p' ↔ s = s' ∧ p = p' := by
  have hsize := size_ofTriggers ts
  refine ⟨fun source payload name ↦ ?_, fun source payload ↦ ?_, hsize, ?_, fun _ _ _ _ ↦
    key_eq_iff⟩
  · rw [lookup_ofTriggers_eq_find?, Option.map_eq_some_iff]
    simp only [List.find?_eq_some_iff_append]
    constructor
    · rintro ⟨t, ⟨ht, after, before, heq, hafter⟩, rfl⟩
      obtain ⟨hs, hp⟩ := of_decide_eq_true ht
      refine ⟨before.reverse, t, after.reverse, ?_, hs, hp, rfl, ?_⟩
      · rw [← List.reverse_reverse ts, heq]
        simp
      · simpa only [List.mem_reverse, Bool.not_eq_true', decide_eq_false_iff_not] using hafter
    · rintro ⟨before, t, after, rfl, hs, hp, rfl, hafter⟩
      refine ⟨t, ⟨by simp [hs, hp], after.reverse, before.reverse, by simp, ?_⟩, rfl⟩
      simpa only [List.mem_reverse, Bool.not_eq_true', decide_eq_false_iff_not] using hafter
  · rw [lookup_ofTriggers_eq_find?, Option.map_eq_none_iff, List.find?_eq_none]
    simp
  · rw [isEmpty, List.isEmpty_iff, ← List.length_eq_zero_iff]
    change (ofTriggers ts).size = 0 ↔ ts = []
    rw [hsize, Finset.card_eq_zero, List.toFinset_eq_empty_iff, List.map_eq_nil_iff]

/-- A trigger entered again, and two events whose digits and underscores read alike. -/
example : (ofTriggers [⟨"a", 1, "1_x"⟩, ⟨"b", 11, "x"⟩, ⟨"c", 1, "1_x"⟩]).lookup 1 "1_x" =
    some "c" := by decide

end EventTable

end EventMachine
