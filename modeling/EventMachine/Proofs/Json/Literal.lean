import EventMachine.Proofs.Json.Spelling

/-!
# Reading literals

Every spelling of a text in quotes, and every literal of a number, is read as what it spells, and
reading stops right behind it.  After a number this needs that what follows cannot belong to it.
-/

namespace EventMachine.Json

open EventMachine.Text

/-! ## Digits -/

theorem digitValue_digitChar : ∀ d < 10, digitValue (Nat.digitChar d) = some d := by decide

theorem hexValue_digitChar : ∀ d < 16,
    hexValue (Nat.digitChar d) = some d ∧ hexValue (Nat.digitChar d).toUpper = some d := by decide

theorem HexDigit.hexValue_eq {d : Nat} {c : Char} (h : HexDigit d c) (hd : d < 16) :
    hexValue c = some d := by
  rcases h with rfl | rfl
  · exact (hexValue_digitChar d hd).1
  · exact (hexValue_digitChar d hd).2

/-! ## Texts in quotes -/

theorem hexEscape_codeUnit {n : Nat} {cs : List Char} (h : CodeUnit n cs) (hn : n < 0x10000)
    (rest : List Char) : hexEscape (cs ++ rest) = .ok (n, rest) := by
  obtain ⟨ha, hb, hc, hd⟩ := h
  have hvalue : ((n / 0x1000 * 16 + n / 0x100 % 0x10) * 16 + n / 0x10 % 0x10) * 16 + n % 0x10 =
      n := by omega
  simp only [List.cons_append, List.nil_append, hexEscape, ha.hexValue_eq (by omega),
    hb.hexValue_eq (by omega), hc.hexValue_eq (by omega), hd.hexValue_eq (by omega), hvalue]

theorem toNat_lt_or_gt_surrogates (c : Char) :
    c.toNat < 0xD800 ∨ 0xDFFF < c.toNat ∧ c.toNat < 0x110000 := c.valid

theorem unicodeEscape_unit {c : Char} {cs : List Char} (hc : c.toNat < 0x10000)
    (h : CodeUnit c.toNat cs) (rest : List Char) : unicodeEscape (cs ++ rest) = .ok (c, rest) := by
  have hvalid := toNat_lt_or_gt_surrogates c
  have htrailing : isTrailing c.toNat = false := by
    simp only [isTrailing, Bool.and_eq_false_iff, decide_eq_false_iff_not]
    omega
  have hleading : isLeading c.toNat = false := by
    simp only [isLeading, Bool.and_eq_false_iff, decide_eq_false_iff_not]
    omega
  simp [unicodeEscape, hexEscape_codeUnit h hc, Except.bind, htrailing, hleading]

theorem unicodeEscape_pair {c : Char} {cs ds : List Char} (hc : 0x10000 ≤ c.toNat)
    (hcs : CodeUnit (0xD800 + (c.toNat - 0x10000) / 0x400) cs)
    (hds : CodeUnit (0xDC00 + (c.toNat - 0x10000) % 0x400) ds) (rest : List Char) :
    unicodeEscape (cs ++ '\\' :: 'u' :: (ds ++ rest)) = .ok (c, rest) := by
  have hvalid := toNat_lt_or_gt_surrogates c
  have hleading : isLeading (0xD800 + (c.toNat - 0x10000) / 0x400) = true := by
    simp only [isLeading, Bool.and_eq_true, decide_eq_true_eq]
    omega
  have hnotTrailing : isTrailing (0xD800 + (c.toNat - 0x10000) / 0x400) = false := by
    simp only [isTrailing, Bool.and_eq_false_iff, decide_eq_false_iff_not]
    omega
  have htrailing : isTrailing (0xDC00 + (c.toNat - 0x10000) % 0x400) = true := by
    simp only [isTrailing, Bool.and_eq_true, decide_eq_true_eq]
    omega
  have hpair : pair (0xD800 + (c.toNat - 0x10000) / 0x400)
      (0xDC00 + (c.toNat - 0x10000) % 0x400) = c := by
    have hcode : (0xD800 + (c.toNat - 0x10000) / 0x400 - 0xD800) * 0x400 +
        (0xDC00 + (c.toNat - 0x10000) % 0x400 - 0xDC00) + 0x10000 = c.toNat := by omega
    rw [pair, hcode, Char.ofNat_toNat]
  simp [unicodeEscape, hexEscape_codeUnit hcs (by omega), hexEscape_codeUnit hds (by omega),
    trailingEscape, Except.bind, hnotTrailing, hleading, htrailing, hpair]

theorem shortEscape_of_mem {c e : Char} (h : (c, e) ∈ letterEscapes) :
    shortEscape e = some c := by
  have hall : ∀ p ∈ letterEscapes, shortEscape p.2 = some p.1 := by decide
  exact hall _ h

/-- A spelled character is read, and what follows it is read next. -/
theorem quoted_spellsChar {c : Char} {cs : List Char} (h : SpellsChar c cs) (rest : List Char) :
    quoted (cs ++ rest) = (quoted rest).map fun q ↦ (c :: q.1, q.2) := by
  have hescape {ds : List Char} (hds : escape (ds ++ rest) = .ok (c, rest)) :
      quoted ('\\' :: ds ++ rest) = (quoted rest).map fun q ↦ (c :: q.1, q.2) := by
    rw [List.cons_append, quoted, if_neg (by decide), if_pos rfl]
    split
    · rename_i heq
      rw [hds] at heq
      cases heq
    · rename_i heq
      rw [hds] at heq
      cases heq
      rfl
  cases h with
  | plain hquote hslash hc =>
      rw [List.cons_append, List.nil_append, quoted, if_neg hquote, if_neg hslash,
        if_neg (Nat.not_lt.mpr hc)]
  | letter he =>
      apply hescape
      simp [escape, shortEscape_of_mem he]
  | unit hc hcs =>
      apply hescape
      have hletter : shortEscape 'u' = none := rfl
      rw [List.cons_append, escape, hletter]
      exact unicodeEscape_unit hc hcs rest
  | @pair cs ds hc hcs hds =>
      apply hescape
      have hletter : shortEscape 'u' = none := rfl
      have hsplit : cs ++ '\\' :: 'u' :: ds ++ rest = cs ++ '\\' :: 'u' :: (ds ++ rest) := by simp
      rw [List.cons_append, escape, hletter, hsplit]
      exact unicodeEscape_pair hc hcs hds rest

/-- Every spelling of a text is read as that text. -/
theorem quoted_spellsChars {r cs : List Char} (h : SpellsChars r cs) (rest : List Char) :
    quoted (cs ++ '"' :: rest) = .ok (r, rest) := by
  induction h with
  | nil => rw [List.nil_append, quoted, if_pos rfl]
  | cons hc _ ih =>
      rw [List.append_assoc, quoted_spellsChar hc, ih]
      rfl

/-! ## Numbers -/

/-- What may follow a number without belonging to it. -/
def Delimits (rest : List Char) : Prop :=
  ∀ c ∈ rest.head?, digitValue c = none ∧ c ≠ '.' ∧ c ≠ 'e' ∧ c ≠ 'E'

theorem delimits_nil : Delimits [] := by simp [Delimits]

theorem delimits_cons {c : Char}
    (h : digitValue c = none ∧ c ≠ '.' ∧ c ≠ 'e' ∧ c ≠ 'E') (rest : List Char) :
    Delimits (c :: rest) := by
  intro c' hc'
  rw [List.head?_cons, Option.mem_some] at hc'
  exact hc' ▸ h

theorem digits_digitText {ds : List Nat} (hds : ∀ d ∈ ds, d < 10) {rest : List Char}
    (hrest : ∀ c ∈ rest.head?, digitValue c = none) :
    digits (digitText ds ++ rest) = (ds, rest) := by
  induction ds with
  | nil =>
      cases rest with
      | nil => rfl
      | cons c rest =>
          have hc : digitValue c = none := hrest c (by simp)
          simp [digitText, digits, hc]
  | cons d ds ih =>
      rw [List.forall_mem_cons] at hds
      have hd := digitValue_digitChar d hds.1
      have htail : digits (digitText ds ++ rest) = (ds, rest) := ih hds.2
      simp only [digitText, List.map_cons, List.cons_append, digits, hd]
      simp only [digitText] at htail
      rw [htail]

theorem digits₁_digitText {ds : List Nat} (hds : Digits ds) {rest : List Char}
    (hrest : ∀ c ∈ rest.head?, digitValue c = none) :
    digits₁ (digitText ds ++ rest) = .ok (ds, rest) := by
  obtain ⟨hne, hlt⟩ := hds
  rw [digits₁, digits_digitText hlt hrest]
  cases ds with
  | nil => exact absurd rfl hne
  | cons d ds => rfl

theorem digitChar_ne_zero : ∀ d < 10, d ≠ 0 → Nat.digitChar d ≠ '0' := by decide

theorem wholePart_digitText {ds : List Nat} (hds : Digits ds)
    (hzero : ds.head? = some 0 → ds = [0]) {rest : List Char}
    (hrest : ∀ c ∈ rest.head?, digitValue c = none) :
    wholePart (digitText ds ++ rest) = .ok (ds, rest) := by
  obtain ⟨d, ds, rfl⟩ := List.exists_cons_of_ne_nil hds.1
  by_cases hd : d = 0
  · subst hd
    obtain rfl : ds = [] := List.tail_eq_of_cons_eq (hzero rfl)
    have hnone : digits (digitText [] ++ rest) = ([], rest) := digits_digitText (by simp) hrest
    have hrest' : digits rest = ([], rest) := hnone
    change wholePart ('0' :: rest) = _
    rw [wholePart, hrest']
  · have hne : Nat.digitChar d ≠ '0' := digitChar_ne_zero d (hds.2 d List.mem_cons_self) hd
    have hdigits := digits₁_digitText hds hrest
    rw [digitText, List.map_cons, List.cons_append] at hdigits ⊢
    rw [wholePart.eq_def]
    split
    · rename_i heq
      exact absurd (List.head_eq_of_cons_eq heq) hne
    · exact hdigits

theorem fractionPart_spelled {ds : List Nat} {cs : List Char} (h : SpellsFraction ds cs)
    {rest : List Char} (hrest : ∀ c ∈ rest.head?, digitValue c = none ∧ c ≠ '.') :
    fractionPart (cs ++ rest) = .ok (ds, rest) := by
  cases h with
  | absent =>
      rw [List.nil_append, fractionPart.eq_def]
      split
      · exact absurd rfl (hrest '.' (by simp)).2
      · rfl
  | present hds => exact digits₁_digitText hds fun c hc ↦ (hrest c hc).1

theorem exponentSign_spelled {negative : Bool} {sign : List Char} (h : SpellsSign negative sign)
    {d : Nat} (hd : d < 10) (rest : List Char) :
    exponentSign (sign ++ Nat.digitChar d :: rest) = (negative, Nat.digitChar d :: rest) := by
  have hdigit : ∀ d < 10, Nat.digitChar d ≠ '+' ∧ Nat.digitChar d ≠ '-' := by decide
  cases h with
  | absent =>
      rw [List.nil_append, exponentSign.eq_def]
      split
      · rename_i heq
        exact absurd (List.head_eq_of_cons_eq heq) (hdigit d hd).1
      · rename_i heq
        exact absurd (List.head_eq_of_cons_eq heq) (hdigit d hd).2
      · rfl
  | plus => rfl
  | minus => rfl

theorem exponentPart_spelled {e : Option (Bool × List Nat)} {cs : List Char}
    (h : SpellsExponent e cs) {rest : List Char}
    (hrest : ∀ c ∈ rest.head?, digitValue c = none ∧ c ≠ 'e' ∧ c ≠ 'E') :
    exponentPart (cs ++ rest) = .ok (e, rest) := by
  cases h with
  | absent =>
      cases rest with
      | nil => rfl
      | cons c rest =>
          have hc := hrest c (by simp)
          rw [List.nil_append, exponentPart, if_neg (by simp [hc.2.1, hc.2.2])]
  | @present e negative sign ds he hsign hds =>
      have hdigits := digits₁_digitText hds fun c hc ↦ (hrest c hc).1
      obtain ⟨d, ds, rfl⟩ := List.exists_cons_of_ne_nil hds.1
      have hcut := exponentSign_spelled hsign (hds.2 d List.mem_cons_self) (digitText ds ++ rest)
      rw [digitText, List.map_cons, List.cons_append] at hdigits
      rw [List.cons_append, exponentPart, if_pos he, List.append_assoc, digitText, List.map_cons,
        List.cons_append]
      rw [digitText] at hcut
      rw [hcut]
      simp only [hdigits]
      rfl

theorem head?_exponent {e : Option (Bool × List Nat)} {cs : List Char} (h : SpellsExponent e cs)
    {rest : List Char} (hrest : Delimits rest) :
    ∀ c ∈ (cs ++ rest).head?, digitValue c = none ∧ c ≠ '.' := by
  intro c hc
  cases h with
  | absent => exact ⟨(hrest c hc).1, (hrest c hc).2.1⟩
  | present he =>
      rw [List.cons_append, List.head?_cons, Option.mem_some] at hc
      rcases he with rfl | rfl <;> subst hc <;> decide

theorem head?_fraction {ds : List Nat} {cs : List Char} (h : SpellsFraction ds cs)
    {rest : List Char} (hrest : ∀ c ∈ rest.head?, digitValue c = none ∧ c ≠ '.') :
    ∀ c ∈ (cs ++ rest).head?, digitValue c = none := by
  intro c hc
  cases h with
  | absent => exact (hrest c hc).1
  | present =>
      rw [List.cons_append, List.head?_cons, Option.mem_some] at hc
      subst hc
      decide

/-- Every spelling of a number is read as that number, up to where the numeral ends. -/
theorem numeral_spelled {l : Numeral} {n : Number} {fs es : List Char} (hwhole : Digits l.whole)
    (hzero : l.whole.head? = some 0 → l.whole = [0]) (hfs : SpellsFraction l.fraction fs)
    (hes : SpellsExponent l.exponent es) (hvalue : l.value = some n) {rest : List Char}
    (hrest : Delimits rest) :
    numeral l.negative (digitText l.whole ++ (fs ++ (es ++ rest))) = .ok (n, rest) := by
  have hexponent := head?_exponent hes hrest
  have hfraction := head?_fraction hfs hexponent
  have hends : ∀ c ∈ rest.head?, digitValue c = none ∧ c ≠ 'e' ∧ c ≠ 'E' :=
    fun c hc ↦ ⟨(hrest c hc).1, (hrest c hc).2.2⟩
  rw [numeral, wholePart_digitText hwhole hzero hfraction]
  simp only [fractionPart_spelled hfs hexponent, exponentPart_spelled hes hends, hvalue]

/-! ## Literals -/

theorem literal_text {s : String} {cs : List Char} (h : SpellsChars s.toList cs)
    (rest : List Char) : literal '"' (cs ++ '"' :: rest) = .ok (.text s, rest) := by
  simp [literal, quoted_spellsChars h]

theorem digitChar_starts : ∀ d < 10, Nat.digitChar d ≠ '"' ∧ Nat.digitChar d ≠ 'n' ∧
    Nat.digitChar d ≠ 't' ∧ Nat.digitChar d ≠ 'f' ∧ Nat.digitChar d ≠ '-' := by decide

theorem literal_number {n : Number} {cs : List Char} (h : SpellsNumber n cs) {rest : List Char}
    (hrest : Delimits rest) : ∃ c tail, cs = c :: tail ∧
      (c = '-' ∨ (digitValue c).isSome) ∧ literal c (tail ++ rest) = .ok (.number n, rest) := by
  obtain ⟨hwhole, hzero, hfs, hes, hvalue⟩ := h
  rename_i l fs es
  have hnumeral := numeral_spelled hwhole hzero hfs hes hvalue hrest
  cases hnegative : l.negative with
  | true =>
      rw [hnegative] at hnumeral
      refine ⟨'-', digitText l.whole ++ (fs ++ es), rfl, Or.inl rfl, ?_⟩
      simp only [List.append_assoc]
      simp [literal, hnumeral]
  | false =>
      rw [hnegative] at hnumeral
      obtain ⟨d, ds, hds⟩ := List.exists_cons_of_ne_nil hwhole.1
      have hd : d < 10 := hwhole.2 d (hds ▸ List.mem_cons_self)
      have hstarts := digitChar_starts d hd
      have hdigit := digitValue_digitChar d hd
      refine ⟨Nat.digitChar d, digitText ds ++ (fs ++ es), by rw [hds]; rfl, ?_, ?_⟩
      · exact Or.inr (by rw [hdigit]; rfl)
      · rw [hds, digitText, List.map_cons, List.cons_append, ← digitText] at hnumeral
        simp only [List.append_assoc]
        simp [literal, hstarts, hdigit, hnumeral]

end EventMachine.Json
