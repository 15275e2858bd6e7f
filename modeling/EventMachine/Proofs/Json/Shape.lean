import EventMachine.Proofs.Json.Inverse
import EventMachine.Proofs.Json.Members
import Mathlib.Data.List.Forall2

/-!
# What documents give

Which value a document gives, as text, number, list or record, is said here without walking a tree.
Decoding accepts exactly the documents that give a value, and yields this value.
-/

namespace EventMachine.Json

namespace Document

variable {α : Type}

def GivesText (v : Document) (s : String) : Prop := v = .text s

def GivesFlag (v : Document) (b : Bool) : Prop := v = .flag b

/-- A floating-point number gives no integer, whatever its value. -/
def GivesInteger64 (v : Document) (i : Int64) : Prop := v = .integer i.toInt

def GivesList (G : Document → α → Prop) (v : Document) (as : List α) : Prop :=
  ∃ ds, v = .list ds ∧ List.Forall₂ G ds as

/-- A value, or a null for an absent one. -/
inductive GivesOptional (G : Document → α → Prop) : Document → Option α → Prop
  | null : GivesOptional G .null none
  | value {v : Document} {a : α} : G v a → GivesOptional G v (some a)

/-- A value, or an absent one, for which there may be nothing at all. -/
inductive GivesField (G : Document → α → Prop) : Option Document → Option α → Prop
  | missing : GivesField G none none
  | present {v : Document} {o : Option α} : GivesOptional G v o → GivesField G (some v) o

/-- An object that has no other keys, or a list that has no more items than there are keys. -/
def IsRecord (keys : List String) : Document → Prop
  | .object ms => ∀ m ∈ ms, m.1 ∈ keys
  | .list ds => ds.length ≤ keys.length
  | _ => False

/-- What a record has for a key: in an object the member, in a list the item at the place that the
key has among the keys. -/
def slot? (keys : List String) (k : String) : Document → Option Document
  | .list ds => ds[keys.idxOf k]?
  | v => v.get? k

theorem node_eq_null_iff {v : Document} : v.node = .null ↔ v = .null := by
  cases v <;> simp [node]

end Document

/-! ## Single values and lists -/

namespace Decoder

variable {α : Type} {d : Decoder α} {G : Document → α → Prop}

/-- A decoder accepts the documents that give a value, and no other. -/
def Reads (d : Decoder α) (G : Document → α → Prop) : Prop :=
  ∀ v a, d v.node = .ok a ↔ G v a

theorem reads_text : text.Reads Document.GivesText := by
  intro v s
  cases v <;> simp [text, Document.node, Document.GivesText]

theorem reads_flag : flag.Reads Document.GivesFlag := by
  intro v b
  cases v <;> simp [flag, Document.node, Document.GivesFlag]

theorem reads_integer64 : integer64.Reads Document.GivesInteger64 := by
  intro v i
  constructor
  · intro h
    cases v with
    | number n =>
        cases n with
        | integer j =>
            rw [Document.node, integer64] at h
            split at h
            · rename_i hrange
              rw [Int64.toInt_minValue, Int64.toInt_maxValue] at hrange
              have hj : (Int64.ofInt j).toInt = j :=
                Int64.toInt_ofInt_of_le hrange.1 (by omega)
              rw [← Except.ok.inj h, Document.GivesInteger64, hj]
              rfl
            · cases h
        | real x => cases h
    | _ => cases h
  · rintro rfl
    exact inverts_integer64 i

theorem Reads.optional (hd : d.Reads G) (hnull : (d .null).toOption = none) :
    (optional d).Reads (Document.GivesOptional G) := by
  intro v o
  by_cases hv : v = .null
  · subst hv
    constructor
    · intro h
      rw [← Except.ok.inj h]
      exact .null
    · intro h
      cases h with
      | null => rfl
      | value ha =>
          have hread : d .null = .ok _ := (hd .null _).mpr ha
          rw [hread] at hnull
          cases hnull
  · have hnode : v.node ≠ .null := fun h ↦ hv (Document.node_eq_null_iff.mp h)
    rw [optional_of_ne_null hnode, ← toOption_eq_some_iff, toOption_map, Option.map_eq_some_iff]
    simp only [toOption_eq_some_iff, hd v]
    constructor
    · rintro ⟨a, ha, rfl⟩
      exact .value ha
    · intro h
      cases h with
      | null => exact absurd rfl hv
      | value ha => exact ⟨_, ha, rfl⟩

theorem Reads.items (hd : d.Reads G) (ds : List Document) (as : List α) :
    items d (Document.nodes ds) .counted = .ok as ↔ List.Forall₂ G ds as := by
  induction ds generalizing as with
  | nil =>
      rw [List.forall₂_nil_left_iff]
      constructor
      · intro h
        exact (Except.ok.inj h).symm
      · rintro rfl
        rfl
  | cons v ds ih =>
      rw [List.forall₂_cons_left_iff, ← toOption_eq_some_iff]
      simp only [Document.nodes, Decoder.items, toOption_bind, Option.bind_eq_some_iff,
        toOption_eq_some_iff, hd v, ih]
      constructor
      · rintro ⟨a, ha, as', has, hcons⟩
        exact ⟨a, as', ha, has, (Except.ok.inj hcons).symm⟩
      · rintro ⟨a, as', ha, has, rfl⟩
        exact ⟨a, ha, as', has, rfl⟩

theorem Reads.list (hd : d.Reads G) : (list d).Reads (Document.GivesList G) := by
  intro v as
  cases v with
  | list ds =>
      change Decoder.items d (Document.nodes ds) .counted = .ok as ↔ _
      simp [hd.items, Document.GivesList]
  | _ => simp [Decoder.list, Document.node, Document.GivesList]

end Decoder

/-! ## Records -/

namespace Record

open Document

variable {ρ : Type} {r : Record ρ} {slot slot' : RecordField ρ → Option Document}

theorem takeAll_congr {fs : List (RecordField ρ)} (h : ∀ f ∈ fs, slot f = slot' f)
    (o : Option ρ) : takeAll slot fs o = takeAll slot' fs o := by
  induction fs generalizing o with
  | nil => rfl
  | cons f fs ih =>
      rw [List.forall_mem_cons] at h
      cases o with
      | none => rw [takeAll_none, takeAll_none]
      | some x => rw [takeAll_cons, takeAll_cons, h.1, ih h.2]

theorem takeAll_missing (fs : List (RecordField ρ)) (o : Option ρ) :
    takeAll (fun _ ↦ none) fs o = o := by
  induction fs generalizing o with
  | nil => rfl
  | cons f fs ih =>
      cases o with
      | none => exact takeAll_none _
      | some x => exact ih (some x)

/-! ### Objects -/

theorem place_of_unknown {m : String × Node} (hkey : m.1 ∉ r.keys) (x : ρ) :
    r.place x m = none := by
  have hfind : r.fields.find? (·.key == m.1) = none := by
    rw [List.find?_eq_none]
    intro f hf hsame
    exact hkey (List.mem_map.mpr ⟨f, hf, eq_of_beq hsame⟩)
  rw [place, hfind]
  rfl

theorem placeAll_of_unknown {ms : List (String × Node)} {m : String × Node} (hm : m ∈ ms)
    (hkey : m.1 ∉ r.keys) (o : Option ρ) : r.placeAll ms o = none := by
  induction ms generalizing o with
  | nil => cases hm
  | cons n ms ih =>
      cases o with
      | none => exact r.placeAll_none _
      | some x =>
          rw [placeAll_cons]
          rcases List.mem_cons.mp hm with rfl | hm
          · rw [place_of_unknown hkey, placeAll_none]
          · exact ih hm _

theorem Lawful.sortMembers_perm_slots (hr : r.Lawful) {ms : List (String × Document)}
    (hms : ∀ m ∈ ms, m.1 ∈ r.keys) :
    (sortMembers (memberNodes ms)).Perm
      (memberNodes (slots (fun f ↦ ms.reverse.lookup f.key) r.fields)) := by
  have hslots : ((memberNodes (slots (fun f ↦ ms.reverse.lookup f.key) r.fields)).map
      (·.1)).Nodup := by
    rw [keys_memberNodes]
    exact hr.keys_slots _
  have hsorted := (ascending_sortMembers (memberNodes ms)).nodup
  -- neither list repeats a key, so it is enough that they have the same members
  apply (List.perm_ext_iff_of_nodup hsorted.of_map hslots.of_map).mpr
  intro m
  rw [mem_sortMembers_memberNodes_iff, memberNodes_eq_map, List.mem_map]
  constructor
  · rintro ⟨d, hlookup, hnode⟩
    have hmem : (m.1, d) ∈ ms := List.mem_reverse.mp (mem_of_lookup_eq_some hlookup)
    obtain ⟨f, hf, hkey⟩ := List.mem_map.mp (hms _ hmem)
    refine ⟨(m.1, d), List.mem_filterMap.mpr ⟨f, hf, ?_⟩, by rw [hnode]⟩
    simp only [hkey, hlookup, Option.map_some]
  · rintro ⟨p, hp, rfl⟩
    obtain ⟨f, -, hslot⟩ := List.mem_filterMap.mp hp
    obtain ⟨d, hlookup, rfl⟩ := Option.map_eq_some_iff.mp hslot
    exact ⟨d, hlookup, rfl⟩

/-- An object is decoded by letting every field take the last member under its key. -/
theorem Lawful.decode_object_eq (hr : r.Lawful) {ms : List (String × Document)}
    (hms : ∀ m ∈ ms, m.1 ∈ r.keys) :
    (r.decode (node (.object ms))).toOption =
      takeAll (fun f ↦ ms.reverse.lookup f.key) r.fields (some r.blank) := by
  have hsorted := (ascending_sortMembers (memberNodes ms)).nodup
  calc (r.decode (node (.object ms))).toOption
    _ = r.placeAll (sortMembers (memberNodes ms)) (some r.blank) := by
      rw [node, r.decode_object hsorted]
    _ = r.placeAll (memberNodes (slots (fun f ↦ ms.reverse.lookup f.key) r.fields))
          (some r.blank) :=
      hr.placeAll_perm (hr.sortMembers_perm_slots hms) hsorted _
    _ = takeAll (fun f ↦ ms.reverse.lookup f.key) r.fields (some r.blank) :=
      hr.placeAll_slots _ (fun _ h ↦ h) _

/-- A member that no field asks for makes the object malformed. -/
theorem decode_object_of_unknown {ms : List (String × Document)} {m : String × Document}
    (hm : m ∈ ms) (hkey : m.1 ∉ r.keys) : (r.decode (node (.object ms))).toOption = none := by
  have hsorted := (ascending_sortMembers (memberNodes ms)).nodup
  obtain ⟨d, hd⟩ := exists_lookup_of_mem (List.mem_reverse.mpr hm)
  have hmem : (m.1, d.node) ∈ sortMembers (memberNodes ms) :=
    mem_sortMembers_memberNodes_iff.mpr ⟨d, hd, rfl⟩
  rw [node, r.decode_object hsorted]
  exact placeAll_of_unknown hmem hkey _

/-! ### Lists -/

/-- A list is decoded by letting every field take the item at its place. -/
theorem positional_eq {fs : List (RecordField ρ)} (hkeys : (fs.map (·.key)).Nodup)
    (ds : List Document) (length : Nat) (x : ρ) :
    (positional length fs x (nodes ds) .counted).toOption =
      if ds.length ≤ fs.length then
        takeAll (fun f ↦ ds[(fs.map (·.key)).idxOf f.key]?) fs (some x)
      else none := by
  induction fs generalizing ds x with
  | nil =>
      cases ds with
      | nil => rfl
      | cons d ds => rfl
  | cons f fs ih =>
      rw [List.map_cons, List.nodup_cons] at hkeys
      cases ds with
      | nil =>
          simp only [List.getElem?_nil, takeAll_missing, List.length_nil, Nat.zero_le, if_true]
          rfl
      | cons d ds =>
          -- no other field has the key of the first, so their items are those behind the first
          have hnext : ∀ g ∈ fs, (d :: ds)[(f.key :: fs.map (·.key)).idxOf g.key]? =
              ds[(fs.map (·.key)).idxOf g.key]? := by
            intro g hg
            have hne : f.key ≠ g.key := by
              intro heq
              exact hkeys.1 (heq ▸ List.mem_map_of_mem hg)
            rw [List.idxOf_cons_ne _ hne, List.getElem?_cons_succ]
          rw [nodes, positional, toOption_bind, List.map_cons, takeAll_cons,
            takeAll_congr hnext, List.idxOf_cons_self, List.getElem?_cons_zero, RecordField.take]
          cases hput : (f.put d.node x).toOption with
          | none => simp [takeAll_none]
          | some y =>
              have htail := ih hkeys.2 ds y
              simpa using htail

/-- A record is decoded from a document that has the form of a record, taking for each field what
the document has for it. -/
theorem Lawful.decode_eq_ok_iff (hr : r.Lawful) {v : Document} {x : ρ} :
    r.decode v.node = .ok x ↔
      v.IsRecord r.keys ∧
        takeAll (fun f ↦ v.slot? r.keys f.key) r.fields (some r.blank) = some x := by
  rw [← toOption_eq_some_iff]
  cases v with
  | object ms =>
      by_cases hms : ∀ m ∈ ms, m.1 ∈ r.keys
      · rw [hr.decode_object_eq hms]
        exact (and_iff_right hms).symm
      · have hnot := hms
        push Not at hnot
        obtain ⟨m, hm, hkey⟩ := hnot
        rw [decode_object_of_unknown hm hkey]
        constructor
        · intro h
          cases h
        · exact fun h ↦ absurd h.1 hms
  | list ds =>
      have hlength : ds.length ≤ r.fields.length ↔ IsRecord r.keys (.list ds) := by
        rw [IsRecord, Record.keys, List.length_map]
      rw [node, decode, positional_eq hr.keys, ← hlength, Option.ite_none_right_eq_some]
      rfl
  | _ =>
      constructor
      · intro h
        cases h
      · exact fun h ↦ h.1.elim

end Record

end EventMachine.Json
