import EventMachine.Proofs.Json.Alike
import EventMachine.Proofs.Json.Literal
import EventMachine.Text.Blank

/-!
# Reading the texts of a document

A text that denotes a document is read without a defect, into a tree that differs from the one of
the document in the order of members only.  Reading a part of the text leads from the place where
it starts to the place behind it, whatever follows and whatever is open around it.
-/

namespace EventMachine.Json

open EventMachine.Text

/-! ## Tokens -/

theorem scan_space {c : Char} (h : isSpace c = true) (cs : List Char) :
    scan (c :: cs) = scan cs := by
  rw [scan, if_pos h]

theorem scan_gap {g : List Char} (h : Gap g) (cs : List Char) : scan (g ++ cs) = scan cs := by
  induction g with
  | nil => rfl
  | cons c g ih =>
      rw [Gap, List.forall_mem_cons] at h
      have hspace : isSpace c = true := by simpa [isSpace, or_assoc] using h.1
      rw [List.cons_append, scan_space hspace, ih h.2]

theorem scan_punctuation {c : Char} {t : Token} (hspace : isSpace c = false)
    (h : punctuation c = some t) (cs : List Char) : scan (c :: cs) = t :: scan cs := by
  rw [scan, if_neg (by simp [hspace]), h]

theorem scan_literal {c : Char} {cs rest : List Char} {t : Token} (hspace : isSpace c = false)
    (hnone : punctuation c = none) (h : literal c cs = .ok (t, rest)) :
    scan (c :: cs) = t :: scan rest := by
  rw [scan, if_neg (by simp [hspace]), hnone]
  simp only
  split
  · rename_i heq
    rw [h] at heq
    cases heq
  · rename_i heq
    rw [h] at heq
    cases heq
    rfl

theorem scan_text {s : String} {cs : List Char} (h : SpellsText s cs) (rest : List Char) :
    scan (cs ++ rest) = .text s :: scan rest := by
  obtain ⟨hcs⟩ := h
  rename_i cs
  have hsplit : '"' :: (cs ++ ['"']) ++ rest = '"' :: (cs ++ '"' :: rest) := by simp
  rw [hsplit]
  exact scan_literal rfl rfl (literal_text hcs rest)

theorem digit_starts {c : Char} (h : c = '-' ∨ (digitValue c).isSome) :
    isSpace c = false ∧ punctuation c = none ∧ isBlank c = false := by
  rcases h with rfl | h
  · decide
  · have hrange : '0' ≤ c ∧ c ≤ '9' := by
      rw [digitValue] at h
      split at h
      · assumption
      · cases h
    have hlower : 48 ≤ c.toNat := hrange.1
    have hupper : c.toNat ≤ 57 := hrange.2
    have hc : c = Char.ofNat c.toNat := (Char.ofNat_toNat c).symm
    have hall : ∀ n ≤ 57, 48 ≤ n → isSpace (Char.ofNat n) = false ∧
        punctuation (Char.ofNat n) = none ∧ isBlank (Char.ofNat n) = false := by decide
    rw [hc]
    exact hall c.toNat hupper hlower

theorem scan_number {n : Number} {cs : List Char} (h : SpellsNumber n cs) {rest : List Char}
    (hrest : Delimits rest) : scan (cs ++ rest) = .number n :: scan rest := by
  obtain ⟨c, tail, rfl, hc, hliteral⟩ := literal_number h hrest
  have hstarts := digit_starts hc
  exact scan_literal hstarts.1 hstarts.2.1 hliteral

/-! ## Parts of a text -/

theorem delimits_gap {g : List Char} (h : Gap g) {rest : List Char} (hrest : Delimits rest) :
    Delimits (g ++ rest) := by
  cases g with
  | nil => exact hrest
  | cons c g =>
      refine delimits_cons ?_ _
      rcases h c List.mem_cons_self with rfl | rfl | rfl | rfl <;> decide

theorem delimits_gap_cons {g : List Char} (h : Gap g) {c : Char}
    (hc : digitValue c = none ∧ c ≠ '.' ∧ c ≠ 'e' ∧ c ≠ 'E') (rest : List Char) :
    Delimits (g ++ c :: rest) :=
  delimits_gap h (delimits_cons hc rest)

/-- Wherever a value may start, the text is read as a tree.  No value starts with the end of a
list. -/
def ReadsAs (cs : List Char) (n : Node) : Prop :=
  ∀ rest, Delimits rest → ∀ outer, ∃ t ts, t ≠ .closeList ∧ scan (cs ++ rest) = t :: ts ∧
    run (startValue outer t) ts = run (settle n outer) (scan rest)

/-- After the items before it, the text is read as the other items of a list and its end. -/
def ReadsAsItems (cs : List Char) (ns : List Node) : Prop :=
  ∀ rest items outer, ∃ t ts, t ≠ .closeList ∧ scan (cs ++ ']' :: rest) = t :: ts ∧
    run (startValue (.list items :: outer) t) ts =
      run (settle (.list (items.reverse ++ ns) .closed) outer) (scan rest)

/-- After the members before it, the text is read as the other members of an object and its end. -/
def ReadsAsMembers (cs : List Char) (ms : List (String × Node)) : Prop :=
  ∀ rest members outer, ∃ k ts, scan (cs ++ '}' :: rest) = .text k :: ts ∧
    run (.key members k outer) ts =
      run (settle (.object (members.reverse ++ ms) .closed) outer) (scan rest)

theorem readsAs_of_token {cs : List Char} {n : Node} {t : Token} (ht : t ≠ .closeList)
    (hscan : ∀ rest, Delimits rest → scan (cs ++ rest) = t :: scan rest)
    (hstart : ∀ outer, startValue outer t = settle n outer) : ReadsAs cs n := by
  intro rest hrest outer
  exact ⟨t, scan rest, ht, hscan rest hrest, by rw [hstart]⟩

theorem step_listStart {t : Token} (h : t ≠ .closeList) (outer : List Frame) :
    step (.listStart outer) t = startValue (.list [] :: outer) t := by
  cases t with
  | closeList => exact absurd rfl h
  | _ => rfl

theorem step_itemComma {t : Token} (h : t ≠ .closeList) (items : List Node) (outer : List Frame) :
    step (.itemComma items outer) t = startValue (.list items :: outer) t := by
  cases t with
  | closeList => exact absurd rfl h
  | _ => rfl

theorem readsAs_emptyList {g : List Char} (hg : Gap g) :
    ReadsAs ('[' :: (g ++ [']'])) (.list [] .closed) := by
  intro rest _ outer
  have hclose : scan (']' :: rest) = .closeList :: scan rest := scan_punctuation rfl rfl rest
  refine ⟨.openList, .closeList :: scan rest, by simp, ?_, rfl⟩
  rw [List.cons_append, scan_punctuation rfl rfl, List.append_assoc, scan_gap hg]
  exact congrArg (Token.openList :: ·) hclose

theorem ReadsAsItems.readsAs {cs : List Char} {ns : List Node} (h : ReadsAsItems cs ns) :
    ReadsAs ('[' :: (cs ++ [']'])) (.list ns .closed) := by
  intro rest _ outer
  obtain ⟨t, ts, ht, hscan, hrun⟩ := h rest [] outer
  refine ⟨.openList, t :: ts, by simp, ?_, ?_⟩
  · rw [List.cons_append, scan_punctuation rfl rfl, List.append_assoc]
    exact congrArg (Token.openList :: ·) hscan
  · rw [run_cons]
    change run (step (.listStart outer) t) ts = _
    rw [step_listStart ht]
    exact hrun

theorem readsAs_emptyObject {g : List Char} (hg : Gap g) :
    ReadsAs ('{' :: (g ++ ['}'])) (.object [] .closed) := by
  intro rest _ outer
  have hclose : scan ('}' :: rest) = .closeObject :: scan rest := scan_punctuation rfl rfl rest
  refine ⟨.openObject, .closeObject :: scan rest, by simp, ?_, rfl⟩
  rw [List.cons_append, scan_punctuation rfl rfl, List.append_assoc, scan_gap hg]
  exact congrArg (Token.openObject :: ·) hclose

theorem ReadsAsMembers.readsAs {cs : List Char} {ms : List (String × Node)}
    (h : ReadsAsMembers cs ms) : ReadsAs ('{' :: (cs ++ ['}'])) (.object ms .closed) := by
  intro rest _ outer
  obtain ⟨k, ts, hscan, hrun⟩ := h rest [] outer
  refine ⟨.openObject, .text k :: ts, by simp, ?_, hrun⟩
  rw [List.cons_append, scan_punctuation rfl rfl, List.append_assoc]
  exact congrArg (Token.openObject :: ·) hscan

theorem ReadsAs.last_item {g cs h : List Char} {n : Node} (hg : Gap g) (hcs : ReadsAs cs n)
    (hh : Gap h) : ReadsAsItems (g ++ (cs ++ h)) [n] := by
  intro rest items outer
  have hdelimits : Delimits (h ++ ']' :: rest) := delimits_gap_cons hh (by decide) rest
  obtain ⟨t, ts, ht, hscan, hrun⟩ := hcs (h ++ ']' :: rest) hdelimits (.list items :: outer)
  refine ⟨t, ts, ht, ?_, ?_⟩
  · rw [List.append_assoc, scan_gap hg, List.append_assoc, hscan]
  · rw [hrun, scan_gap hh, scan_punctuation rfl rfl, ← List.reverse_cons]
    rfl

theorem ReadsAs.more_items {g cs h rs : List Char} {n : Node} {ns : List Node} (hg : Gap g)
    (hcs : ReadsAs cs n) (hh : Gap h) (hrs : ReadsAsItems rs ns) :
    ReadsAsItems (g ++ (cs ++ (h ++ ',' :: rs))) (n :: ns) := by
  intro rest items outer
  have hsplit : g ++ (cs ++ (h ++ ',' :: rs)) ++ ']' :: rest =
      g ++ (cs ++ (h ++ ',' :: (rs ++ ']' :: rest))) := by simp
  have hdelimits : Delimits (h ++ ',' :: (rs ++ ']' :: rest)) :=
    delimits_gap_cons hh (by decide) _
  obtain ⟨t, ts, ht, hscan, hrun⟩ := hcs _ hdelimits (.list items :: outer)
  obtain ⟨t', ts', ht', hscan', hrun'⟩ := hrs rest (n :: items) outer
  refine ⟨t, ts, ht, ?_, ?_⟩
  · rw [hsplit, scan_gap hg, hscan]
  · rw [hrun, scan_gap hh, scan_punctuation rfl rfl, hscan', run_cons, run_cons]
    change run (step (.itemComma (n :: items) outer) t') ts' = _
    rw [step_itemComma ht', hrun', List.reverse_cons, List.append_assoc]
    rfl

theorem ReadsAs.member {k : String} {g ks h i cs : List Char} {n : Node} (hg : Gap g)
    (hks : SpellsText k ks) (hh : Gap h) (hi : Gap i) (hcs : ReadsAs cs n) {rest : List Char}
    (hrest : Delimits rest) (members : List (String × Node)) (outer : List Frame) :
    ∃ ts, scan (g ++ (ks ++ (h ++ ':' :: (i ++ (cs ++ rest))))) = .text k :: ts ∧
      run (.key members k outer) ts = run (.member ((k, n) :: members) outer) (scan rest) := by
  obtain ⟨t, ts, _, hscan, hrun⟩ := hcs rest hrest (.object members k :: outer)
  refine ⟨.colon :: t :: ts, ?_, hrun⟩
  rw [scan_gap hg, scan_text hks, scan_gap hh, scan_punctuation rfl rfl, scan_gap hi, hscan]

theorem ReadsAs.last_member {k : String} {g ks h i cs j : List Char} {n : Node} (hg : Gap g)
    (hks : SpellsText k ks) (hh : Gap h) (hi : Gap i) (hcs : ReadsAs cs n) (hj : Gap j) :
    ReadsAsMembers (g ++ (ks ++ (h ++ ':' :: (i ++ (cs ++ j))))) [(k, n)] := by
  intro rest members outer
  have hsplit : g ++ (ks ++ (h ++ ':' :: (i ++ (cs ++ j)))) ++ '}' :: rest =
      g ++ (ks ++ (h ++ ':' :: (i ++ (cs ++ (j ++ '}' :: rest))))) := by simp
  have hdelimits : Delimits (j ++ '}' :: rest) := delimits_gap_cons hj (by decide) rest
  obtain ⟨ts, hscan, hrun⟩ := ReadsAs.member hg hks hh hi hcs hdelimits members outer
  refine ⟨k, ts, by rw [hsplit, hscan], ?_⟩
  rw [hrun, scan_gap hj, scan_punctuation rfl rfl, ← List.reverse_cons]
  rfl

theorem ReadsAs.more_members {k : String} {g ks h i cs j rs : List Char} {n : Node}
    {ms : List (String × Node)} (hg : Gap g) (hks : SpellsText k ks) (hh : Gap h) (hi : Gap i)
    (hcs : ReadsAs cs n) (hj : Gap j) (hrs : ReadsAsMembers rs ms) :
    ReadsAsMembers (g ++ (ks ++ (h ++ ':' :: (i ++ (cs ++ (j ++ ',' :: rs))))))
      ((k, n) :: ms) := by
  intro rest members outer
  have hsplit : g ++ (ks ++ (h ++ ':' :: (i ++ (cs ++ (j ++ ',' :: rs))))) ++ '}' :: rest =
      g ++ (ks ++ (h ++ ':' :: (i ++ (cs ++ (j ++ ',' :: (rs ++ '}' :: rest)))))) := by simp
  have hdelimits : Delimits (j ++ ',' :: (rs ++ '}' :: rest)) :=
    delimits_gap_cons hj (by decide) _
  obtain ⟨ts, hscan, hrun⟩ := ReadsAs.member hg hks hh hi hcs hdelimits members outer
  obtain ⟨k', ts', hscan', hrun'⟩ := hrs rest ((k, n) :: members) outer
  refine ⟨k, ts, by rw [hsplit, hscan], ?_⟩
  rw [hrun, scan_gap hj, scan_punctuation rfl rfl, hscan', run_cons, run_cons]
  change run (.key ((k, n) :: members) k' outer) ts' = _
  rw [hrun', List.reverse_cons, List.append_assoc]
  rfl

/-! ## Whole texts -/

mutual

/-- By recursion over the spelling: each of its parts is read as a tree of its value. -/
theorem Spells.exists_readsAs {d : Document} {cs : List Char} :
    Spells d cs → ∃ n, ReadsAs cs n ∧ Alike n d.node
  | .null => by
      refine ⟨.null, readsAs_of_token (t := .null) (by simp) ?_ fun _ ↦ rfl, .null⟩
      exact fun rest _ ↦ scan_literal rfl rfl rfl
  | .yes => by
      refine ⟨.flag true, readsAs_of_token (t := .flag true) (by simp) ?_ fun _ ↦ rfl, .flag _⟩
      exact fun rest _ ↦ scan_literal rfl rfl rfl
  | .no => by
      refine ⟨.flag false, readsAs_of_token (t := .flag false) (by simp) ?_ fun _ ↦ rfl, .flag _⟩
      exact fun rest _ ↦ scan_literal rfl rfl rfl
  | @Spells.number n _ hn => by
      refine ⟨.number n, readsAs_of_token (t := .number n) (by simp) ?_ fun _ ↦ rfl, .number n⟩
      exact fun rest hrest ↦ scan_number hn hrest
  | @Spells.text s _ hs => by
      refine ⟨.text s, readsAs_of_token (t := .text s) (by simp) ?_ fun _ ↦ rfl, .text s⟩
      exact fun rest _ ↦ scan_text hs rest
  | .emptyList hg => ⟨.list [] .closed, readsAs_emptyList hg, .list .nil⟩
  | .list hds => by
      obtain ⟨ns, hreads, halike⟩ := hds.exists_readsAsItems
      exact ⟨.list ns .closed, hreads.readsAs, .list halike⟩
  | .emptyObject hg =>
      ⟨.object [] .closed, readsAs_emptyObject hg, .object .nil (by simp) (.refl _)⟩
  | .object hms hnodup hperm => by
      obtain ⟨ns, hreads, halike⟩ := hms.exists_readsAsMembers
      exact ⟨.object ns .closed, hreads.readsAs, Document.alike_object halike hnodup hperm⟩

theorem SpellsItems.exists_readsAsItems {ds : List Document} {cs : List Char} :
    SpellsItems ds cs → ∃ ns, ReadsAsItems cs ns ∧ AlikeItems ns (Document.nodes ds)
  | .last hg hd hh => by
      obtain ⟨n, hreads, halike⟩ := hd.exists_readsAs
      exact ⟨[n], hreads.last_item hg hh, .cons halike .nil⟩
  | .more hg hd hh hds => by
      obtain ⟨n, hreads, halike⟩ := hd.exists_readsAs
      obtain ⟨ns, hreadsItems, halikeItems⟩ := hds.exists_readsAsItems
      exact ⟨n :: ns, hreads.more_items hg hh hreadsItems, .cons halike halikeItems⟩

theorem SpellsMembers.exists_readsAsMembers {ms : List (String × Document)} {cs : List Char} :
    SpellsMembers ms cs → ∃ ns, ReadsAsMembers cs ns ∧ AlikeMembers ns (Document.memberNodes ms)
  | .last hg hk hh hi hd hj => by
      obtain ⟨n, hreads, halike⟩ := hd.exists_readsAs
      exact ⟨[(_, n)], hreads.last_member hg hk hh hi hj, .cons halike .nil⟩
  | .more hg hk hh hi hd hj hms => by
      obtain ⟨n, hreads, halike⟩ := hd.exists_readsAs
      obtain ⟨ns, hreadsMembers, halikeMembers⟩ := hms.exists_readsAsMembers
      exact ⟨(_, n) :: ns, hreads.more_members hg hk hh hi hj hreadsMembers,
        .cons halike halikeMembers⟩

end

/-- A text is read as the tree of what stands in it between two gaps. -/
theorem ReadsAs.reading_eq {t : String} {g cs h : List Char} {n : Node} (hreads : ReadsAs cs n)
    (htext : t.toList = g ++ (cs ++ h)) (hg : Gap g) (hh : Gap h) :
    Reading.ofText t = ⟨n, false⟩ := by
  have hend : scan h = [] := by
    have hgap := scan_gap hh []
    rw [List.append_nil] at hgap
    rw [hgap, scan]
  have hdelimits : Delimits h := by
    have hgap := delimits_gap hh delimits_nil
    rwa [List.append_nil] at hgap
  obtain ⟨t', ts, _, hscan, hrun⟩ := hreads h hdelimits []
  rw [Reading.ofText, htext, scan_gap hg, hscan, run_cons]
  change finish (run (startValue [] t') ts) = _
  rw [hrun, hend]
  rfl

/-- A text that denotes a document is read to its end. -/
theorem Denotes.exists_reading {t : String} {v : Document} (h : Denotes t v) :
    ∃ n, Reading.ofText t = ⟨n, false⟩ ∧ Alike n v.node := by
  obtain ⟨htext, hg, hv, hh⟩ := h
  obtain ⟨n, hreads, halike⟩ := hv.exists_readsAs
  exact ⟨n, hreads.reading_eq htext hg hh, halike⟩

/-- Every text of a document has a character that is not white space, in the wider sense too. -/
theorem Spells.exists_visible {v : Document} {cs : List Char} (h : Spells v cs) :
    ∃ c ∈ cs, isBlank c = false := by
  cases h with
  | number hn =>
      obtain ⟨c, tail, rfl, hc, -⟩ := literal_number hn delimits_nil
      exact ⟨c, List.mem_cons_self, (digit_starts hc).2.2⟩
  | text hs =>
      cases hs
      exact ⟨'"', List.mem_cons_self, rfl⟩
  | _ => exact ⟨_, List.mem_cons_self, rfl⟩

theorem Denotes.blank_eq_false {t : String} {v : Document} (h : Denotes t v) :
    blank t = false := by
  obtain ⟨htext, -, hv, -⟩ := h
  obtain ⟨c, hc, hvisible⟩ := hv.exists_visible
  rw [blank, List.all_eq_false]
  refine ⟨c, ?_, by simp [hvisible]⟩
  rw [htext]
  exact List.mem_append_right _ (List.mem_append_left _ hc)

end EventMachine.Json
