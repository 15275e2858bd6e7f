import EventMachine.Proofs.Json.Canonical
import EventMachine.Proofs.Json.Reading
import EventMachine.Proofs.Text.Digits

/-!
# Reading the compact text

The compact text of a document is read as this very document, with the members of its objects in
their order.  It has no control character, so it stays within one line whatever the texts in the
document are.
-/

namespace EventMachine.Json

open EventMachine.Text

/-! ## What is read -/

/-- The text of a document is read, wherever a value may start, as a tree that holds this
document. -/
def Document.ReadsBack (d : Document) : Prop := ∃ n, ReadsAs d.write n ∧ ofNode? n = some d

/-- The leaves have only one tree. -/
theorem Document.readsBack_of_leaf {d : Document} (hspells : Spells d d.write)
    (hleaf : ∀ n, Alike n d.node → ofNode? n = some d) : d.ReadsBack := by
  obtain ⟨n, hreads, halike⟩ := hspells.exists_readsAs
  exact ⟨n, hreads, hleaf n halike⟩

theorem exists_readsAsItems {d : Document} {ds : List Document}
    (h : ∀ e ∈ d :: ds, e.ReadsBack) :
    ∃ ns, ReadsAsItems (d.itemsText ds) ns ∧ Document.ofNodes? ns = some (d :: ds) := by
  induction ds generalizing d with
  | nil =>
      obtain ⟨n, hreads, hn⟩ := h d List.mem_cons_self
      refine ⟨[n], ?_, ?_⟩
      · simpa [Document.itemsText] using hreads.last_item gap_nil gap_nil
      · simp [Document.ofNodes?, hn]
  | cons e ds ih =>
      rw [List.forall_mem_cons] at h
      obtain ⟨n, hreads, hn⟩ := h.1
      obtain ⟨ns, hreadsItems, hns⟩ := ih h.2
      refine ⟨n :: ns, ?_, ?_⟩
      · simpa [Document.itemsText] using hreads.more_items gap_nil gap_nil hreadsItems
      · simp [Document.ofNodes?, hn, hns]

theorem exists_readsAsMembers {k : String} {d : Document} {ms : List (String × Document)}
    (h : ∀ m ∈ (k, d) :: ms, m.2.ReadsBack) :
    ∃ ns, ReadsAsMembers (Document.membersText k d ms) ns ∧
      Document.ofMembers? ns = some ((k, d) :: ms) := by
  induction ms generalizing k d with
  | nil =>
      obtain ⟨n, hreads, hn⟩ := h (k, d) List.mem_cons_self
      refine ⟨[(k, n)], ?_, ?_⟩
      · simpa [Document.membersText] using
          hreads.last_member gap_nil (spellsText_quote k) gap_nil gap_nil gap_nil
      · simp [Document.ofMembers?, hn]
  | cons m ms ih =>
      rw [List.forall_mem_cons] at h
      obtain ⟨n, hreads, hn⟩ := h.1
      obtain ⟨ns, hreadsMembers, hns⟩ := ih h.2
      refine ⟨(k, n) :: ns, ?_, ?_⟩
      · simpa [Document.membersText] using
          hreads.more_members gap_nil (spellsText_quote k) gap_nil gap_nil gap_nil hreadsMembers
      · simp [Document.ofMembers?, hn, hns]

/-- A regular document is read back from what is written of it, member for member and in the
order written. -/
theorem Document.Regular.readsBack {d : Document} (h : d.Regular) : d.ReadsBack := by
  induction h with
  | null | flag | integer | text =>
      apply readsBack_of_leaf
      · apply Regular.spells_write
        constructor <;> assumption
      · rintro _ ⟨⟩
        rfl
  | @list ds _ ih =>
      cases ds with
      | nil => exact ⟨_, readsAs_emptyList gap_nil, rfl⟩
      | cons d ds =>
          obtain ⟨ns, hreads, hns⟩ := exists_readsAsItems ih
          refine ⟨.list ns .closed, ?_, ?_⟩
          · rw [write_list_cons]
            exact hreads.readsAs
          · rw [ofNode?, if_pos (.inl rfl), hns]
            rfl
  | @object ms _ _ ih =>
      cases ms with
      | nil => exact ⟨_, readsAs_emptyObject gap_nil, rfl⟩
      | cons m ms =>
          obtain ⟨ns, hreads, hns⟩ := exists_readsAsMembers ih
          refine ⟨.object ns .closed, ?_, ?_⟩
          · rw [write_object_cons]
            exact hreads.readsAs
          · rw [ofNode?, if_pos rfl, hns]
            rfl

/-- Nothing is lost in the compact text, not even the order of members. -/
theorem Document.Regular.ofText?_compact {d : Document} (h : d.Regular) :
    ofText? d.compact = some d := by
  obtain ⟨n, hreads, hn⟩ := h.readsBack
  have htext : d.compact.toList = [] ++ (d.write ++ []) := by
    rw [toList_compact, List.append_nil, List.nil_append]
  rw [ofText?, hreads.reading_eq htext gap_nil gap_nil]
  exact hn

/-! ## No control characters -/

/-- A text without control characters, as far as these are below the space. -/
def Controlless (cs : List Char) : Prop := ∀ c ∈ cs, 0x20 ≤ c.toNat

instance : DecidablePred Controlless := List.decidableBAll fun c : Char ↦ 0x20 ≤ c.toNat

theorem Controlless.append {cs ds : List Char} (hcs : Controlless cs) (hds : Controlless ds) :
    Controlless (cs ++ ds) := List.forall_mem_append.mpr ⟨hcs, hds⟩

theorem Controlless.cons {c : Char} {cs : List Char} (hc : 0x20 ≤ c.toNat)
    (hcs : Controlless cs) : Controlless (c :: cs) := List.forall_mem_cons.mpr ⟨hc, hcs⟩

theorem Controlless.notMem {cs : List Char} (hcs : Controlless cs) {c : Char}
    (hc : c.toNat < 0x20) : c ∉ cs := fun hmem ↦ absurd (hcs c hmem) (by omega)

/-- Control characters are always escaped. -/
theorem controlless_escapeChar (c : Char) : Controlless (Document.escapeChar c) := by
  have hdigits : ∀ n < 16, 0x20 ≤ (Nat.digitChar n).toNat := by decide
  rw [Document.escapeChar]
  split_ifs with hquote hslash hplain
  · decide
  · decide
  · exact List.forall_mem_singleton.mpr hplain
  iterate 5 decide
  · have hhigh : 0x20 ≤ (Nat.digitChar (c.toNat / 16)).toNat := hdigits _ (by omega)
    have hlow : 0x20 ≤ (Nat.digitChar (c.toNat % 16)).toNat := hdigits _ (by omega)
    simp [Controlless, hhigh, hlow]

theorem controlless_quote (s : String) : Controlless (Document.quote s) := by
  have hchars : Controlless (s.toList.flatMap Document.escapeChar) := by
    intro c hc
    obtain ⟨d, -, hd⟩ := List.mem_flatMap.mp hc
    exact controlless_escapeChar d c hd
  exact .cons (by decide) (hchars.append (.cons (by decide) (by simp [Controlless])))

theorem controlless_decimalInt (i : Int) : Controlless (decimalInt i).toList := by
  have hdecimal : ∀ n, Controlless (decimal n).toList := by
    intro n c hc
    have hdigit : '0' ≤ c ∧ c ≤ '9' := by
      simpa [Char.isDigit, Char.le_def] using isDigit_of_mem_decimal hc
    exact le_trans (by decide) hdigit.1
  cases i with
  | ofNat n => exact hdecimal n
  | negSucc n =>
      rw [decimalInt, String.toList_append]
      exact .append (by decide) (hdecimal (n + 1))

theorem controlless_writeMoreItems {ds : List Document} (h : ∀ d ∈ ds, Controlless d.write) :
    Controlless (Document.writeMoreItems ds) := by
  induction ds with
  | nil => decide
  | cons d ds ih =>
      rw [List.forall_mem_cons] at h
      exact .cons (by decide) (h.1.append (ih h.2))

theorem controlless_writeMoreMembers {ms : List (String × Document)}
    (h : ∀ m ∈ ms, Controlless m.2.write) : Controlless (Document.writeMoreMembers ms) := by
  induction ms with
  | nil => decide
  | cons m ms ih =>
      rw [List.forall_mem_cons] at h
      apply Controlless.cons (by decide)
      apply (controlless_quote m.1).append
      exact .cons (by decide) (h.1.append (ih h.2))

/-- A written document has no control character in it, in particular no line feed. -/
theorem Document.Regular.controlless_write {d : Document} (h : d.Regular) :
    Controlless d.write := by
  induction h with
  | null => decide
  | flag b => cases b <;> decide
  | @integer i _ _ => exact controlless_decimalInt i
  | text s => exact controlless_quote s
  | @list ds _ ih =>
      apply Controlless.cons (by decide)
      cases ds with
      | nil => decide
      | cons d ds =>
          rw [List.forall_mem_cons] at ih
          exact ih.1.append (controlless_writeMoreItems ih.2)
  | @object ms _ _ ih =>
      apply Controlless.cons (by decide)
      cases ms with
      | nil => decide
      | cons m ms =>
          rw [List.forall_mem_cons] at ih
          apply (controlless_quote m.1).append
          exact .cons (by decide) (ih.1.append (controlless_writeMoreMembers ih.2))

end EventMachine.Json
