import EventMachine.Proofs.Json.Spelling

/-!
# The compact text is one of the texts

The compact text of a document denotes this document, if no object in it repeats a key and its
numbers are integers of 64 bits.  Characters are written in one of the ways in which they can be
spelled, and integers by their digits, which stay below the bound of a significand.
-/

namespace EventMachine.Json

open EventMachine.Text

/-! ## Texts in quotes -/

theorem codeUnit_of_lt {n : Nat} (hn : n < 0x20) :
    CodeUnit n ['0', '0', Nat.digitChar (n / 16), Nat.digitChar (n % 16)] := by
  have hthousands : n / 0x1000 = 0 := by omega
  have hhundreds : n / 0x100 % 0x10 = 0 := by omega
  have htens : n / 0x10 % 0x10 = n / 16 := by omega
  refine .mk ?_ ?_ ?_ (Or.inl rfl)
  · rw [hthousands]
    exact Or.inl rfl
  · rw [hhundreds]
    exact Or.inl rfl
  · rw [htens]
    exact Or.inl rfl

/-- The writer escapes every character in a way the grammar allows. -/
theorem spellsChar_escapeChar (c : Char) : SpellsChar c (Document.escapeChar c) := by
  have hletter : ∀ p ∈ letterEscapes, SpellsChar p.1 ['\\', p.2] := fun _ hp ↦ .letter hp
  rw [Document.escapeChar]
  split_ifs with hquote hslash hplain hback hfeed hline hreturn htab
  · exact hquote ▸ hletter ('"', '"') (by decide)
  · exact hslash ▸ hletter ('\\', '\\') (by decide)
  · exact .plain hquote hslash hplain
  · exact hback ▸ hletter ('\x08', 'b') (by decide)
  · exact hfeed ▸ hletter ('\x0c', 'f') (by decide)
  · exact hline ▸ hletter ('\n', 'n') (by decide)
  · exact hreturn ▸ hletter ('\r', 'r') (by decide)
  · exact htab ▸ hletter ('\t', 't') (by decide)
  · exact .unit (by omega) (codeUnit_of_lt (by omega))

theorem spellsChars_escapeChar (cs : List Char) :
    SpellsChars cs (cs.flatMap Document.escapeChar) := by
  induction cs with
  | nil => exact .nil
  | cons c cs ih => exact .cons (spellsChar_escapeChar c) ih

theorem spellsText_quote (s : String) : SpellsText s (Document.quote s) :=
  .mk (spellsChars_escapeChar s.toList)

/-! ## Integers -/

theorem absorb_append_singleton {bound m k d : Nat} {ds : List Nat}
    (h : absorb bound m ds = (k, [])) (hlt : 10 * k + d < bound) :
    absorb bound m (ds ++ [d]) = (10 * k + d, []) := by
  induction ds generalizing m with
  | nil =>
      obtain rfl : m = k := by simpa [absorb] using h
      simp [absorb, hlt]
  | cons e ds ih =>
      rw [absorb] at h
      rw [List.cons_append, absorb]
      split at h
      · rename_i he
        rw [if_pos he]
        exact ih h
      · simp at h

/-- The digits of a number make up its text, and are read as this number if it is below the
bound. -/
theorem exists_digits {bound : Nat} (n : Nat) (hn : n < bound) : ∃ ds,
    Nat.toDigits 10 n = digitText ds ∧ Digits ds ∧ (ds.head? = some 0 → ds = [0]) ∧
      absorb bound 0 ds = (n, []) := by
  induction n using Nat.strongRecOn with
  | ind n ih =>
      rcases Nat.lt_or_ge n 10 with hsmall | hlarge
      · refine ⟨[n], Nat.toDigits_of_lt_base hsmall, ⟨by simp, by simpa using hsmall⟩, ?_, ?_⟩
        · intro hhead
          rw [Option.some.inj hhead]
        · simp [absorb, hn]
      · obtain ⟨ds, htext, ⟨hne, hdigits⟩, hzero, habsorb⟩ := ih (n / 10) (by omega) (by omega)
        have hvalue : 10 * (n / 10) + n % 10 = n := by omega
        refine ⟨ds ++ [n % 10], ?_, ⟨by simp, ?_⟩, ?_, ?_⟩
        · rw [Nat.toDigits_of_base_le (by decide) hlarge, htext, digitText, digitText,
            List.map_append]
          rfl
        · intro d hd
          rcases List.mem_append.mp hd with hd | hd
          · exact hdigits d hd
          · rw [List.mem_singleton.mp hd]
            omega
        · intro hhead
          rw [List.head?_append_of_ne_nil _ hne] at hhead
          -- a leading zero would make the number less than ten
          rw [hzero hhead] at habsorb
          have hten : n / 10 = 0 := by
            rw [absorb, if_pos (by omega)] at habsorb
            exact (congrArg Prod.fst habsorb).symm
          omega
        · have happend := absorb_append_singleton habsorb (d := n % 10) (by omega)
          rwa [hvalue] at happend

theorem spellsNumber_of_lt (negative : Bool) {n : Nat} (hn : n < significandBound) :
    SpellsNumber (ofInteger negative n)
      ((if negative then ['-'] else []) ++ Nat.toDigits 10 n) := by
  obtain ⟨ds, htext, hdigits, hzero, habsorb⟩ := exists_digits n hn
  have hvalue : Numeral.value ⟨negative, ds, [], none⟩ = some (ofInteger negative n) := by
    simp [Numeral.value, habsorb]
  have hspells := SpellsNumber.mk hdigits hzero .absent .absent hvalue
  rw [htext]
  simpa using hspells

theorem spellsNumber_integer {i : Int} (hlower : Int64.minValue.toInt ≤ i)
    (hupper : i < UInt64.size) : SpellsNumber (.integer i) (decimalInt i).toList := by
  cases i with
  | ofNat n =>
      have hn : n < significandBound := Int.ofNat_lt.mp hupper
      have hspells := spellsNumber_of_lt false hn
      rw [decimalInt, decimal, String.toList_ofList]
      exact hspells
  | negSucc n =>
      rw [Int64.toInt_minValue] at hlower
      have hn : n + 1 < significandBound := by
        rw [significandBound, UInt64.size]
        omega
      have hspells := spellsNumber_of_lt true hn
      have hvalue : ofInteger true (n + 1) = .integer (.negSucc n) := by
        have hrange : ¬ (n + 1 = 0 ∨ -((n + 1 : Nat) : Int) < Int64.minValue.toInt) := by
          rw [Int64.toInt_minValue]
          omega
        rw [ofInteger, if_pos rfl, if_neg hrange]
        rfl
      rw [hvalue] at hspells
      rw [decimalInt, decimal, String.toList_append, String.toList_ofList, String.toList_ofList]
      exact hspells

/-! ## Documents -/

/-- No object repeats a key, and all numbers are integers of 64 bits. -/
inductive Document.Regular : Document → Prop
  | null : Regular .null
  | flag (b : Bool) : Regular (.flag b)
  | integer {i : Int} : Int64.minValue.toInt ≤ i → i < UInt64.size → Regular (.integer i)
  | text (s : String) : Regular (.text s)
  | list {ds : List Document} : (∀ d ∈ ds, Regular d) → Regular (.list ds)
  | object {ms : List (String × Document)} : (ms.map (·.1)).Nodup → (∀ m ∈ ms, Regular m.2) →
      Regular (.object ms)

theorem gap_nil : Gap [] := by simp [Gap]

namespace Document

def itemsText (d : Document) : List Document → List Char
  | [] => d.write
  | e :: ds => d.write ++ ',' :: itemsText e ds

def membersText (k : String) (d : Document) : List (String × Document) → List Char
  | [] => quote k ++ ':' :: d.write
  | (k', d') :: ms => quote k ++ ':' :: (d.write ++ ',' :: membersText k' d' ms)

theorem write_append_writeMoreItems (d : Document) (ds : List Document) :
    d.write ++ writeMoreItems ds = itemsText d ds ++ [']'] := by
  induction ds generalizing d with
  | nil => rw [writeMoreItems, itemsText]
  | cons e ds ih => rw [writeMoreItems, ih, itemsText, List.append_assoc, List.cons_append]

theorem write_list_cons (d : Document) (ds : List Document) :
    (list (d :: ds)).write = '[' :: (itemsText d ds ++ [']']) := by
  rw [write, writeItems, write_append_writeMoreItems]

theorem quote_append_writeMoreMembers (k : String) (d : Document)
    (ms : List (String × Document)) :
    quote k ++ ':' :: (d.write ++ writeMoreMembers ms) = membersText k d ms ++ ['}'] := by
  induction ms generalizing k d with
  | nil => rw [writeMoreMembers, membersText, List.append_assoc, List.cons_append]
  | cons m ms ih =>
      rw [writeMoreMembers, ih, membersText, List.append_assoc, List.cons_append,
        List.append_assoc, List.cons_append]

theorem write_object_cons (k : String) (d : Document) (ms : List (String × Document)) :
    (object ((k, d) :: ms)).write = '{' :: (membersText k d ms ++ ['}']) := by
  rw [write, writeMembers, quote_append_writeMoreMembers]

end Document

theorem spellsItems_itemsText {d : Document} {ds : List Document}
    (h : ∀ e ∈ d :: ds, Spells e e.write) : SpellsItems (d :: ds) (d.itemsText ds) := by
  induction ds generalizing d with
  | nil => simpa [Document.itemsText] using SpellsItems.last gap_nil (h d (by simp)) gap_nil
  | cons e ds ih =>
      rw [List.forall_mem_cons] at h
      simpa [Document.itemsText] using SpellsItems.more gap_nil h.1 gap_nil (ih h.2)

theorem spellsMembers_membersText {k : String} {d : Document} {ms : List (String × Document)}
    (h : ∀ m ∈ (k, d) :: ms, Spells m.2 m.2.write) :
    SpellsMembers ((k, d) :: ms) (Document.membersText k d ms) := by
  induction ms generalizing k d with
  | nil =>
      have hd : Spells d d.write := h (k, d) List.mem_cons_self
      simpa [Document.membersText] using
        SpellsMembers.last gap_nil (spellsText_quote k) gap_nil gap_nil hd gap_nil
  | cons m ms ih =>
      rw [List.forall_mem_cons] at h
      simpa [Document.membersText] using
        SpellsMembers.more gap_nil (spellsText_quote k) gap_nil gap_nil h.1 gap_nil (ih h.2)

/-- What is written of a regular document is a spelling of it. -/
theorem Document.Regular.spells_write {d : Document} (h : d.Regular) : Spells d d.write := by
  induction h with
  | null => exact .null
  | flag b => cases b with
    | false => exact .no
    | true => exact .yes
  | integer hlower hupper => exact .number (spellsNumber_integer hlower hupper)
  | text s => exact .text (spellsText_quote s)
  | @list ds _ ih =>
      cases ds with
      | nil => exact .emptyList gap_nil
      | cons d ds =>
          rw [write_list_cons]
          exact .list (spellsItems_itemsText ih)
  | @object ms hkeys _ ih =>
      cases ms with
      | nil => exact .emptyObject gap_nil
      | cons m ms =>
          rw [write_object_cons]
          exact .object (spellsMembers_membersText ih) hkeys (.refl _)

theorem Document.toList_compact (d : Document) : d.compact.toList = d.write :=
  String.toList_ofList

theorem Document.Regular.denotes_compact {d : Document} (h : d.Regular) : Denotes d.compact d := by
  refine .mk (g := []) (h := []) ?_ gap_nil h.spells_write gap_nil
  rw [toList_compact, List.append_nil, List.nil_append]

end EventMachine.Json
