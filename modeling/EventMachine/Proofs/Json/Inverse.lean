import EventMachine.Proofs.Json.Decoding

/-!
# Decoding what has been written

A record is written as the object of its fields that have a value.  Decoding an object starts from
the blank record and takes what there is for each field; the object of a record is copied in this
way field after field, so decoding gives the record back if copying all fields does.
-/

namespace EventMachine.Json

namespace Decoder

variable {α : Type}

def Inverts (d : Decoder α) (write : α → Document) : Prop := ∀ a, d (write a).node = .ok a

theorem inverts_text : text.Inverts .text := fun _ ↦ rfl

theorem inverts_flag : flag.Inverts .flag := fun _ ↦ rfl

theorem inverts_integer64 : integer64.Inverts fun i ↦ .integer i.toInt := by
  intro i
  have hrange : Int64.minValue.toInt ≤ i.toInt ∧ i.toInt ≤ Int64.maxValue.toInt :=
    ⟨i.minValue_le_toInt, i.toInt_le⟩
  change (if _ then _ else _) = _
  rw [if_pos hrange, Int64.ofInt_toInt]

variable {d : Decoder α} {write : α → Document}

theorem Inverts.list (hd : d.Inverts write) : (list d).Inverts fun as ↦ .list (as.map write) := by
  intro as
  change items d (Document.nodes (as.map write)) .counted = .ok as
  induction as with
  | nil => rfl
  | cons a as ih =>
      rw [List.map_cons, Document.nodes, items, hd a, ih]
      rfl

/-- A value that is there is not taken for an absent one. -/
theorem Inverts.optional (hd : d.Inverts write) (hnull : (d .null).toOption = none) (a : α) :
    optional d (write a).node = .ok (some a) := by
  have hne : (write a).node ≠ .null := by
    intro h
    have hread := hd a
    rw [h] at hread
    rw [hread] at hnull
    cases hnull
  rw [optional_of_ne_null hne, hd a]
  rfl

end Decoder

variable {ρ : Type}

/-- Takes into a record what there is for a field, if there is anything. -/
def RecordField.take (f : RecordField ρ) (y : ρ) : Option Document → Option ρ
  | none => some y
  | some d => (f.put d.node y).toOption

/-- Writes the field of the record `x`, and reads it into the record `y`. -/
def RecordField.copy (f : RecordField ρ) (x y : ρ) : Option ρ :=
  match f.get x with
  | none => some y
  | some d => (f.put d.node y).toOption

namespace Record

section Slots

variable (slot : RecordField ρ → Option Document)

/-- The members of an object that has the given documents for its fields. -/
def slots (fs : List (RecordField ρ)) : List (String × Document) :=
  fs.filterMap fun f ↦ (slot f).map fun d ↦ (f.key, d)

theorem slots_cons (f : RecordField ρ) (fs : List (RecordField ρ)) :
    slots slot (f :: fs) = ((slot f).map fun d ↦ (f.key, d)).toList ++ slots slot fs := by
  rw [slots, List.filterMap_cons]
  cases slot f <;> rfl

theorem keys_slots_sublist (fs : List (RecordField ρ)) :
    ((slots slot fs).map (·.1)).Sublist (fs.map (·.key)) := by
  induction fs with
  | nil => exact .refl _
  | cons f fs ih =>
      rw [slots_cons]
      cases slot f with
      | none => exact ih.cons f.key
      | some d => exact ih.cons_cons f.key

/-- Takes what there is for each of some fields into a record, in their order. -/
def takeAll (fs : List (RecordField ρ)) (o : Option ρ) : Option ρ :=
  fs.foldl (fun o f ↦ o.bind fun y ↦ f.take y (slot f)) o

variable {slot}

theorem takeAll_none (fs : List (RecordField ρ)) : takeAll slot fs none = none := by
  induction fs with
  | nil => rfl
  | cons f fs ih => exact ih

theorem takeAll_nil (o : Option ρ) : takeAll slot [] o = o := rfl

theorem takeAll_cons (f : RecordField ρ) (fs : List (RecordField ρ)) (x : ρ) :
    takeAll slot (f :: fs) (some x) = takeAll slot fs (f.take x (slot f)) := rfl

end Slots

def written (fs : List (RecordField ρ)) (x : ρ) : List (String × Document) :=
  fs.filterMap fun f ↦ (f.get x).map fun d ↦ (f.key, d)

/-- A record that is copied field by field is the same record. -/
def Faithful (r : Record ρ) : Prop :=
  ∀ x, r.fields.foldl (fun o f ↦ o.bind (f.copy x)) (some r.blank) = some x

variable {r : Record ρ}

theorem Lawful.keys_slots (hr : r.Lawful) (slot : RecordField ρ → Option Document) :
    ((slots slot r.fields).map (·.1)).Nodup :=
  hr.keys.sublist (keys_slots_sublist slot r.fields)

theorem Lawful.keys_encode (hr : r.Lawful) (x : ρ) :
    ((written r.fields x).map (·.1)).Nodup :=
  hr.keys_slots (·.get x)

theorem Lawful.find?_key (hr : r.Lawful) {f : RecordField ρ} (hf : f ∈ r.fields) :
    r.fields.find? (·.key == f.key) = some f := by
  have hinjective := List.inj_on_of_nodup_map hr.keys
  cases hfind : r.fields.find? (·.key == f.key) with
  | none => simpa using List.find?_eq_none.mp hfind f hf
  | some g =>
      -- the first field with this key is the only one
      have hkey : g.key = f.key := by simpa using List.find?_some hfind
      rw [hinjective (List.mem_of_find?_eq_some hfind) hf hkey]

theorem Lawful.placeAll_slots (hr : r.Lawful) (slot : RecordField ρ → Option Document)
    {fs : List (RecordField ρ)} (hfs : ∀ f ∈ fs, f ∈ r.fields) (o : Option ρ) :
    r.placeAll (Document.memberNodes (slots slot fs)) o = takeAll slot fs o := by
  induction fs generalizing o with
  | nil => rfl
  | cons f fs ih =>
      rw [List.forall_mem_cons] at hfs
      cases o with
      | none => rw [placeAll_none, takeAll_none]
      | some y =>
          rw [takeAll_cons, ← ih hfs.2, slots_cons]
          cases slot f with
          | none => rfl
          | some d =>
              have hplace : r.place y (f.key, d.node) = f.take y (some d) := by
                rw [place, hr.find?_key hfs.1]
                rfl
              change r.placeAll (Document.memberNodes ((f.key, d) :: slots slot fs)) (some y) = _
              rw [Document.memberNodes, placeAll_cons, hplace]

/-- A lawful record whose fields are copied faithfully reads back what it writes. -/
theorem Lawful.inverts_decode (hr : r.Lawful) (hfaithful : r.Faithful) :
    Decoder.Inverts r.decode r.encode := by
  intro x
  have hkeys : ((Document.memberNodes (written r.fields x)).map (·.1)).Nodup := by
    rw [Document.keys_memberNodes]
    exact hr.keys_encode x
  have hperm := Document.sortMembers_perm hkeys
  have hsorted := (hperm.map (·.1)).nodup_iff.mpr hkeys
  rw [← toOption_eq_some_iff]
  change (r.decode (.object (Document.sortMembers _) .closed)).toOption = some x
  calc (r.decode (.object (Document.sortMembers _) .closed)).toOption
    _ = r.placeAll (Document.sortMembers _) (some r.blank) := r.decode_object hsorted
    _ = r.placeAll (Document.memberNodes (written r.fields x)) (some r.blank) :=
      hr.placeAll_perm hperm hsorted _
    _ = takeAll (·.get x) r.fields (some r.blank) := hr.placeAll_slots _ (fun _ h ↦ h) _
    _ = some x := hfaithful x

end Record

end EventMachine.Json
