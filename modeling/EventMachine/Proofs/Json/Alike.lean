import EventMachine.Json.Document
import Mathlib.Data.List.Nodup

/-!
# Trees of one value

The tree read from a text has its members in the order of the text, and that of a document has them
in ascending order.  Otherwise the two trees of one value are the same, up to the way in which lists
end.
-/

namespace EventMachine.Json

mutual

/-- The first tree comes from a text, and the second from a document of the same value. -/
inductive Alike : Node → Node → Prop
  | null : Alike .null .null
  | flag (b : Bool) : Alike (.flag b) (.flag b)
  | number (n : Number) : Alike (.number n) (.number n)
  | text (s : String) : Alike (.text s) (.text s)
  | list {ns ns' : List Node} : AlikeItems ns ns' → Alike (.list ns .closed) (.list ns' .counted)
  | object {ms ms' sorted : List (String × Node)} : AlikeMembers ms ms' →
      (ms.map (·.1)).Nodup → ms'.Perm sorted → Alike (.object ms .closed) (.object sorted .closed)

inductive AlikeItems : List Node → List Node → Prop
  | nil : AlikeItems [] []
  | cons {n n' : Node} {ns ns' : List Node} : Alike n n' → AlikeItems ns ns' →
      AlikeItems (n :: ns) (n' :: ns')

inductive AlikeMembers : List (String × Node) → List (String × Node) → Prop
  | nil : AlikeMembers [] []
  | cons {k : String} {n n' : Node} {ms ms' : List (String × Node)} : Alike n n' →
      AlikeMembers ms ms' → AlikeMembers ((k, n) :: ms) ((k, n') :: ms')

end

theorem AlikeItems.length_eq {ns ns' : List Node} (h : AlikeItems ns ns') :
    ns.length = ns'.length := by
  induction ns generalizing ns' with
  | nil => cases h; rfl
  | cons n ns ih =>
      cases h with
      | cons _ hns => rw [List.length_cons, List.length_cons, ih hns]

theorem AlikeMembers.keys_eq {ms ms' : List (String × Node)} (h : AlikeMembers ms ms') :
    ms.map (·.1) = ms'.map (·.1) := by
  induction ms generalizing ms' with
  | nil => cases h; rfl
  | cons m ms ih =>
      cases h with
      | cons _ hms => rw [List.map_cons, List.map_cons, ih hms]

namespace Document

variable {α : Type}

theorem insertMember_perm {m : String × α} {ms : List (String × α)} (h : m.1 ∉ ms.map (·.1)) :
    (insertMember m ms).Perm (m :: ms) := by
  induction ms with
  | nil => exact .refl _
  | cons n ms ih =>
      rw [List.map_cons, List.mem_cons, not_or] at h
      rw [insertMember, if_neg h.1]
      split
      · exact .refl _
      · exact ((ih h.2).cons n).trans (List.Perm.swap m n ms)

/-- Sorting keeps all members if no key is repeated. -/
theorem sortMembers_perm {ms : List (String × α)} (h : (ms.map (·.1)).Nodup) :
    (sortMembers ms).Perm ms := by
  induction ms with
  | nil => exact .refl _
  | cons m ms ih =>
      rw [List.map_cons, List.nodup_cons] at h
      have htail : (sortMembers ms).Perm ms := ih h.2
      have hm : m.1 ∉ (sortMembers ms).map (·.1) := by
        rw [(htail.map (·.1)).mem_iff]
        exact h.1
      exact (insertMember_perm hm).trans (htail.cons m)

theorem keys_memberNodes (ms : List (String × Document)) :
    (memberNodes ms).map (·.1) = ms.map (·.1) := by
  rw [memberNodes_eq_map, List.map_map]
  rfl

/-- The tree of an object whose members are written in another order. -/
theorem alike_object {ns : List (String × Node)} {ms ms' : List (String × Document)}
    (h : AlikeMembers ns (memberNodes ms)) (hnodup : (ms.map (·.1)).Nodup) (hperm : ms.Perm ms') :
    Alike (.object ns .closed) (node (.object ms')) := by
  have hkeys : (ns.map (·.1)).Nodup := by
    rw [h.keys_eq, keys_memberNodes]
    exact hnodup
  have hnodup' : ((memberNodes ms').map (·.1)).Nodup := by
    rw [keys_memberNodes]
    exact (hperm.map (·.1)).nodup_iff.mp hnodup
  have hnodes : (memberNodes ms).Perm (memberNodes ms') := by
    rw [memberNodes_eq_map, memberNodes_eq_map]
    exact hperm.map _
  exact .object h hkeys (hnodes.trans (sortMembers_perm hnodup').symm)

end Document

end EventMachine.Json
