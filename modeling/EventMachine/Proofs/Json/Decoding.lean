import EventMachine.Json.Decoder
import EventMachine.Proofs.Json.Alike
import Mathlib.Data.List.Pairwise

/-!
# Decoding does not depend on the order of members

The two trees of one value are decoded to the same result, or both are refused, though not for the
same reason.  For a record this rests on its fields: each takes its value to a place of its own, so
fields can be read in any order.
-/

namespace EventMachine.Json

section Outcome

variable {ε α β : Type}

theorem toOption_bind (x : Except ε α) (f : α → Except ε β) :
    (x >>= f).toOption = x.toOption.bind fun a ↦ (f a).toOption := by
  cases x <;> rfl

theorem toOption_map (x : Except ε α) (f : α → β) : (x.map f).toOption = x.toOption.map f := by
  cases x <;> rfl

theorem toOption_eq_some_iff {x : Except ε α} {a : α} : x.toOption = some a ↔ x = .ok a := by
  cases x <;> simp [Except.toOption]

end Outcome

/-! ## Single values and lists -/

namespace Decoder

variable {α : Type}

/-- What a decoder accepts does not depend on which tree of a value it is given. -/
def Stable (d : Decoder α) : Prop := ∀ n n', Alike n n' → (d n).toOption = (d n').toOption

theorem stable_text : text.Stable := by
  intro n n' h
  cases h <;> rfl

theorem stable_flag : flag.Stable := by
  intro n n' h
  cases h <;> rfl

theorem stable_integer64 : integer64.Stable := by
  intro n n' h
  cases h <;> rfl

variable {d : Decoder α}

theorem optional_of_ne_null {n : Node} (h : n ≠ .null) : optional d n = (d n).map some := by
  cases n with
  | null => exact absurd rfl h
  | _ => rfl

theorem Stable.optional (hd : d.Stable) : (optional d).Stable := by
  intro n n' h
  by_cases hn : n = .null
  · subst hn
    cases h
    rfl
  · have hn' : n' ≠ .null := by
      rintro rfl
      cases h
      exact hn rfl
    rw [optional_of_ne_null hn, optional_of_ne_null hn', toOption_map, toOption_map, hd n n' h]

theorem Stable.items (hd : d.Stable) {ns ns' : List Node} (h : AlikeItems ns ns') :
    (items d ns .closed).toOption = (items d ns' .counted).toOption := by
  induction ns generalizing ns' with
  | nil => cases h; rfl
  | cons n ns ih =>
      cases h with
      | @cons _ n' _ ns' hn hns =>
          have htail := ih hns
          simp only [Decoder.items, toOption_bind, hd n n' hn, htail]

theorem Stable.list (hd : d.Stable) : (list d).Stable := by
  intro n n' h
  cases h with
  | list hns => exact hd.items hns
  | _ => rfl

end Decoder

/-! ## Records -/

variable {ρ : Type}

namespace RecordField

def Stable (f : RecordField ρ) : Prop :=
  ∀ x n n', Alike n n' → (f.put n x).toOption = (f.put n' x).toOption

def Commute (f g : RecordField ρ) : Prop :=
  ∀ n m x, ((f.put n x).toOption.bind fun y ↦ (g.put m y).toOption) =
    (g.put m x).toOption.bind fun y ↦ (f.put n y).toOption

instance : Std.Symm (Commute (ρ := ρ)) := ⟨fun _ _ h n m x ↦ (h m n x).symm⟩

end RecordField

namespace Record

/-- The fields of a record have keys of their own and do not depend on each other. -/
structure Lawful (r : Record ρ) : Prop where
  keys : r.keys.Nodup
  stable : ∀ f ∈ r.fields, f.Stable
  commute : r.fields.Pairwise RecordField.Commute

variable (r : Record ρ)

/-- One member of an object whose key has not been read before. -/
def place (x : ρ) (m : String × Node) : Option ρ :=
  (r.fields.find? (·.key == m.1)).bind fun f ↦ (f.put m.2 x).toOption

def placeAll (ms : List (String × Node)) (o : Option ρ) : Option ρ :=
  ms.foldl (fun o m ↦ o.bind fun x ↦ r.place x m) o

theorem placeAll_none (ms : List (String × Node)) : r.placeAll ms none = none := by
  induction ms with
  | nil => rfl
  | cons m ms ih => exact ih

theorem placeAll_cons (m : String × Node) (ms : List (String × Node)) (x : ρ) :
    r.placeAll (m :: ms) (some x) = r.placeAll ms (r.place x m) := rfl

theorem putMember_eq {seen : List String} {k : String} (h : k ∉ seen) (n : Node) (x : ρ) :
    (r.putMember seen k n x).toOption = r.place x (k, n) := by
  rw [putMember, place]
  cases r.fields.find? (·.key == k) with
  | none => rfl
  | some f =>
      simp only [if_neg h]
      rfl

/-- With distinct keys, decoding an object is placing its members one after the other. -/
theorem members_eq_placeAll {ms : List (String × Node)} (hms : (ms.map (·.1)).Nodup)
    {seen : List String} (hseen : ∀ m ∈ ms, m.1 ∉ seen) (x : ρ) :
    (r.members seen x ms .closed).toOption = r.placeAll ms (some x) := by
  -- generalised over the keys that have been read, none of which comes again
  induction ms generalizing seen x with
  | nil => rfl
  | cons m ms ih =>
      obtain ⟨k, n⟩ := m
      rw [List.map_cons, List.nodup_cons] at hms
      rw [List.forall_mem_cons] at hseen
      have htail : ∀ m ∈ ms, m.1 ∉ k :: seen := by
        intro m hm hmem
        rcases List.mem_cons.mp hmem with heq | hmem
        · exact hms.1 (List.mem_map.mpr ⟨m, hm, heq⟩)
        · exact hseen.2 m hm hmem
      rw [members, toOption_bind, putMember_eq r hseen.1, placeAll_cons]
      cases r.place x (k, n) with
      | none => exact (r.placeAll_none ms).symm
      | some y => exact ih hms.2 htail y

theorem decode_object {ms : List (String × Node)} (hms : (ms.map (·.1)).Nodup) :
    (r.decode (.object ms .closed)).toOption = r.placeAll ms (some r.blank) :=
  r.members_eq_placeAll hms (by simp) r.blank

variable {r}

theorem Lawful.place_alike (hr : r.Lawful) {n n' : Node} (h : Alike n n') (k : String) (x : ρ) :
    r.place x (k, n) = r.place x (k, n') := by
  rw [place, place]
  cases hfind : r.fields.find? (·.key == k) with
  | none => rfl
  | some f => exact hr.stable f (List.mem_of_find?_eq_some hfind) x n n' h

theorem Lawful.placeAll_alike (hr : r.Lawful) {ms ms' : List (String × Node)}
    (h : AlikeMembers ms ms') (o : Option ρ) : r.placeAll ms o = r.placeAll ms' o := by
  induction ms generalizing ms' o with
  | nil => cases h; rfl
  | cons m ms ih =>
      cases h with
      | @cons k n n' _ ms' hn hms =>
          cases o with
          | none => rw [placeAll_none, placeAll_none]
          | some x => rw [placeAll_cons, placeAll_cons, hr.place_alike hn, ih hms]

/-- Members with different keys can be placed in any order. -/
theorem Lawful.place_comm (hr : r.Lawful) {m m' : String × Node} (h : m.1 ≠ m'.1)
    (o : Option ρ) :
    ((o.bind fun x ↦ r.place x m).bind fun x ↦ r.place x m') =
      (o.bind fun x ↦ r.place x m').bind fun x ↦ r.place x m := by
  cases o with
  | none => rfl
  | some x =>
      simp only [Option.bind_some, place]
      cases hf : r.fields.find? (·.key == m.1) with
      | none => simp
      | some f =>
          cases hg : r.fields.find? (·.key == m'.1) with
          | none => simp
          | some g =>
              have hkey : f.key = m.1 := by simpa using List.find?_some hf
              have hkey' : g.key = m'.1 := by simpa using List.find?_some hg
              -- fields with different keys are different fields
              have hne : f ≠ g := by
                rintro rfl
                exact h (hkey.symm.trans hkey')
              exact hr.commute.forall (List.mem_of_find?_eq_some hf)
                (List.mem_of_find?_eq_some hg) hne m.2 m'.2 x

theorem Lawful.placeAll_perm (hr : r.Lawful) {ms ms' : List (String × Node)} (h : ms.Perm ms')
    (hms : (ms.map (·.1)).Nodup) (o : Option ρ) : r.placeAll ms o = r.placeAll ms' o := by
  have hinjective := List.inj_on_of_nodup_map hms
  -- it is enough that any two members can be placed in either order
  refine h.foldl_eq' ?_ o
  intro m hm m' hm' o
  by_cases heq : m = m'
  · rw [heq]
  · exact hr.place_comm (fun hkey ↦ heq (hinjective hm hm' hkey)) o

theorem positional_alike {fs : List (RecordField ρ)} (hfs : ∀ f ∈ fs, f.Stable)
    {ns ns' : List Node} (h : AlikeItems ns ns') (length : Nat) (x : ρ) :
    (positional length fs x ns .closed).toOption =
      (positional length fs x ns' .counted).toOption := by
  induction fs generalizing ns ns' x with
  | nil => cases h <;> rfl
  | cons f fs ih =>
      rw [List.forall_mem_cons] at hfs
      cases h with
      | nil => rfl
      | @cons n n' ns ns' hn hns =>
          have htail := ih hfs.2 hns
          simp only [positional, toOption_bind, hfs.1 x n n' hn, htail]

/-- A lawful record decodes all trees of a value alike, whatever the order of their members. -/
theorem Lawful.stable_decode (hr : r.Lawful) : Decoder.Stable r.decode := by
  intro n n' h
  cases h with
  | list hns =>
      rw [decode, decode, hns.length_eq]
      exact positional_alike hr.stable hns _ r.blank
  | @object ms ms' sorted hms hnodup hperm =>
      have hnodup' : (ms'.map (·.1)).Nodup := hms.keys_eq ▸ hnodup
      have hsorted : (sorted.map (·.1)).Nodup := (hperm.map (·.1)).nodup_iff.mp hnodup'
      rw [r.decode_object hnodup, r.decode_object hsorted, hr.placeAll_alike hms,
        hr.placeAll_perm hperm hnodup']
  | _ => rfl

end Record

end EventMachine.Json
