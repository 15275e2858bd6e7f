import EventMachine.Proofs.Script.Line

/-!
# What a line tells

A line tells nothing, as blank lines and comments do, or it tells an event.  A line that is none of
these has a first word, and it depends on this word and on what is behind it why the line is not
understood.
-/

namespace EventMachine

namespace Text

def Blanks (cs : List Char) : Prop := ∀ c ∈ cs, isBlank c = true

instance (cs : List Char) : Decidable (Blanks cs) := List.decidableBAll _ cs

/-- An id in decimal digits; zeros may stand in front, and a plus sign in front of these. -/
def SpellsId (a : UInt32) (cs : List Char) : Prop :=
  ∃ ds, (cs = ds ∨ cs = '+' :: ds) ∧ ds ≠ [] ∧ (∀ d ∈ ds, d.isDigit = true) ∧
    Nat.ofDigitChars 10 ds 0 = a.toNat

/-! ## Ids -/

theorem isDigit_of_digitValue {c : Char} {n : Nat} (h : digitValue c = some n) :
    c.isDigit = true := by
  rw [digitValue] at h
  split at h
  · rename_i hc
    simpa [Char.isDigit, Char.le_def] using hc
  · cases h

theorem readDigits_eq_some_iff {cs : List Char} {acc n : Nat} : readDigits acc cs = some n ↔
    (∀ c ∈ cs, c.isDigit = true) ∧ Nat.ofDigitChars 10 cs acc = n := by
  constructor
  · intro h
    have hdigits : ∀ c ∈ cs, c.isDigit = true := by
      induction cs generalizing acc with
      | nil => simp
      | cons c cs ih =>
          rw [readDigits, Option.bind_eq_some_iff] at h
          obtain ⟨d, hd, hrest⟩ := h
          exact List.forall_mem_cons.mpr ⟨isDigit_of_digitValue hd, ih hrest⟩
    rw [readDigits_of_isDigit hdigits, Option.some_inj] at h
    exact ⟨hdigits, h⟩
  · rintro ⟨hdigits, rfl⟩
    exact readDigits_of_isDigit hdigits acc

theorem readNat_eq_some_iff {cs : List Char} {n : Nat} : readNat cs = some n ↔
    cs ≠ [] ∧ (∀ c ∈ cs, c.isDigit = true) ∧ Nat.ofDigitChars 10 cs 0 = n := by
  cases cs with
  | nil => simp [readNat]
  | cons c cs => rw [readNat, readDigits_eq_some_iff, and_iff_right (List.cons_ne_nil c cs)]

theorem ofNat_eq_some_iff {n : Nat} {a : UInt32} :
    (if n < UInt32.size then some (UInt32.ofNat n) else none) = some a ↔ n = a.toNat := by
  constructor
  · intro h
    split at h
    · rename_i hn
      rw [← Option.some.inj h, UInt32.toNat_ofNat_of_lt' hn]
    · cases h
  · rintro rfl
    rw [if_pos a.toNat_lt_size, UInt32.ofNat_toNat]

/-- An id is read from a word if the word spells it, and otherwise from none. -/
theorem readId_eq_some_iff {cs : List Char} {a : UInt32} :
    readId cs = some a ↔ SpellsId a cs := by
  have hread (ds : List Char) :
      ((readNat ds).bind fun n ↦ if n < UInt32.size then some (UInt32.ofNat n) else none) =
        some a ↔ ds ≠ [] ∧ (∀ d ∈ ds, d.isDigit = true) ∧ Nat.ofDigitChars 10 ds 0 = a.toNat := by
    simp only [Option.bind_eq_some_iff, ofNat_eq_some_iff, exists_eq_right, readNat_eq_some_iff]
  by_cases hplus : ∃ ds, cs = '+' :: ds
  · obtain ⟨ds, rfl⟩ := hplus
    rw [readId, hread]
    constructor
    · intro h
      exact ⟨ds, .inr rfl, h⟩
    · rintro ⟨ds', rfl | hds, hne, hdigits, hvalue⟩
      · exact absurd (hdigits '+' List.mem_cons_self) (by decide)
      · cases hds
        exact ⟨hne, hdigits, hvalue⟩
  · rw [readId, hread]
    · constructor
      · intro h
        exact ⟨cs, .inl rfl, h⟩
      · rintro ⟨ds, rfl | hds, h⟩
        · exact h
        · exact absurd ⟨ds, hds⟩ hplus
    · intro ds hds
      exact hplus ⟨ds, hds⟩

theorem readId_eq_none_iff {cs : List Char} : readId cs = none ↔ ∀ a, ¬SpellsId a cs := by
  simp only [Option.eq_none_iff_forall_ne_some, ne_eq, readId_eq_some_iff]

theorem SpellsId.ne_nil {a : UInt32} {cs : List Char} (h : SpellsId a cs) : cs ≠ [] := by
  obtain ⟨ds, rfl | rfl, hne, -⟩ := h
  · exact hne
  · exact List.cons_ne_nil _ _

theorem SpellsId.isBlank_eq_false {a : UInt32} {cs : List Char} (h : SpellsId a cs) :
    ∀ c ∈ cs, isBlank c = false := by
  obtain ⟨ds, hcs, -, hdigits, -⟩ := h
  have hds : ∀ d ∈ ds, isBlank d = false := fun d hd ↦ isBlank_eq_false_of_isDigit (hdigits d hd)
  rcases hcs with rfl | rfl
  · exact hds
  · exact List.forall_mem_cons.mpr ⟨by decide, hds⟩

theorem SpellsId.head?_ne_hash {a : UInt32} {cs : List Char} (h : SpellsId a cs) :
    cs.head? ≠ some '#' := by
  intro hhash
  obtain ⟨ds, rfl⟩ := List.head?_eq_some_iff.mp hhash
  have hread := readId_eq_some_iff.mpr h
  rw [readId_hash] at hread
  cases hread

end Text

namespace Script

open EventMachine.Text

/-- The forms of a line, and the event of a line that has one. -/
inductive Tells : List Char → Option (UInt32 × String) → Prop
  | blank {bs : List Char} (hbs : Blanks bs) : Tells bs none
  | comment {bs : List Char} (hbs : Blanks bs) (cs : List Char) : Tells (bs ++ '#' :: cs) none
  | event {bs ds gap bs' : List Char} {source : UInt32} {payload : String} (hbs : Blanks bs)
      (hds : SpellsId source ds) (hgap : Blanks gap) (hgap_ne : gap ≠ [])
      (hpayload : payload.toList ≠ []) (htrim : trim payload.toList = payload.toList)
      (hbs' : Blanks bs') :
      Tells (bs ++ (ds ++ (gap ++ (payload.toList ++ bs')))) (some (source, payload))

/-- The first word of a line, and what is behind it. -/
inductive FirstWord : List Char → List Char → List Char → Prop
  | mk {bs w r : List Char} (hbs : Blanks bs) (hne : w ≠ []) (hw : ∀ c ∈ w, isBlank c = false)
      (hr : ∀ c, r.head? = some c → isBlank c = true) : FirstWord (bs ++ (w ++ r)) w r

/-- What is to be reported of a line that has none of the forms. -/
structure Blames (w r : List Char) (fault : ScriptFault) : Prop where
  badSource : fault = .badSource (String.ofList w) ↔ ∀ a, ¬SpellsId a w
  noPayload : fault = .noPayload ↔ (∃ a, SpellsId a w) ∧ Blanks r

/-! ## First words -/

theorem trim_eq_nil_iff_blanks {cs : List Char} : trim cs = [] ↔ Blanks cs := by
  rw [trim_eq_nil_iff, List.all_eq_true]
  rfl

theorem blanks_or_firstWord (l : List Char) : Blanks l ∨ ∃ w r, FirstWord l w r := by
  have hl : l = l.takeWhile isBlank ++ trimStart l := List.takeWhile_append_dropWhile.symm
  have hblanks : Blanks (l.takeWhile isBlank) := fun b hb ↦ List.mem_takeWhile_imp hb
  cases hstart : trimStart l with
  | nil =>
      rw [hstart, List.append_nil] at hl
      exact .inl (hl ▸ hblanks)
  | cons c cs =>
      right
      have hc := isBlank_eq_false_of_trimStart hstart
      obtain ⟨w, r, hw, hcut, -⟩ := exists_cut (c :: cs)
      rcases hcut with ⟨rfl, rfl⟩ | ⟨b, hb, hcs⟩
      · refine ⟨c :: cs, [], ?_⟩
        rw [hl, hstart]
        have hword := FirstWord.mk (r := []) hblanks (List.cons_ne_nil c cs) hw (by simp)
        rwa [List.append_nil] at hword
      · have hne : w ≠ [] := by
          rintro rfl
          rw [List.head_eq_of_cons_eq hcs, hb] at hc
          cases hc
        refine ⟨w, b :: r, ?_⟩
        rw [hl, hstart, hcs]
        apply FirstWord.mk hblanks hne hw
        rintro d hd
        rw [← Option.some.inj hd]
        exact hb

section

variable {l w r : List Char} (h : FirstWord l w r)

include h

theorem FirstWord.cutWord_trim :
    (cutWord (trim l)).1 = w ∧ trim (cutWord (trim l)).2 = trim r := by
  obtain ⟨hbs, hne, hw, hr⟩ := h
  rw [trim_append_left_of_blank hbs]
  cases r with
  | nil =>
      obtain ⟨c, cs, rfl⟩ := List.exists_cons_of_ne_nil hne
      obtain ⟨hword, hrest⟩ := Text.cutWord_trim (hw c List.mem_cons_self) cs
      rw [List.append_nil, hword, hrest, cutWord_of_forall hw]
      exact ⟨rfl, rfl⟩
  | cons b r =>
      have hb : isBlank b = true := hr b rfl
      have htrim : trim ([b] ++ r) = trim r := trim_append_left_of_blank (by simp [hb]) r
      obtain ⟨hword, hrest⟩ := cutWord_trim_append hne hw hb r
      exact ⟨hword, hrest.trans htrim.symm⟩

theorem FirstWord.head?_trim : (trim l).head? = w.head? := by
  obtain ⟨hbs, hne, hw, -⟩ := h
  obtain ⟨c, cs, rfl⟩ := List.exists_cons_of_ne_nil hne
  rw [trim_append_left_of_blank hbs, List.cons_append, trim_cons (hw c List.mem_cons_self)]
  rfl

theorem FirstWord.event?_of_hash (hw : w.head? = some '#') : event? l = .ok none := by
  rw [event?_eq, if_pos (.inr (h.head?_trim.trans hw))]

/-- A line that is no comment names its source first and has a payload after it. -/
theorem FirstWord.event?_eq (hw : w.head? ≠ some '#') : event? l =
    match readId w with
    | none => .error (.badSource (String.ofList w))
    | some source =>
      if trim r = [] then .error .noPayload else .ok (some (source, String.ofList (trim r))) := by
  have hhead := h.head?_trim
  have htrim : ¬(trim l = [] ∨ (trim l).head? = some '#') := by
    rintro (hnil | hhash)
    · obtain ⟨-, hne, -, -⟩ := h
      rw [hnil] at hhead
      exact hne (List.head?_eq_none_iff.mp hhead.symm)
    · exact hw (hhead.symm.trans hhash)
  obtain ⟨hword, hrest⟩ := h.cutWord_trim
  rw [Script.event?_eq, if_neg htrim, hword]
  cases readId w with
  | none => rfl
  | some source => simp only [hrest]

end

/-- An event is told by a line with an id in front of a payload. -/
theorem FirstWord.tells {l w r : List Char} {a : UInt32} (h : FirstWord l w r) (hw : SpellsId a w)
    (hr : trim r ≠ []) : Tells l (some (a, String.ofList (trim r))) := by
  obtain ⟨hbs, -, -, hblank⟩ := h
  obtain ⟨gap, bs', hgap, hbs', heq⟩ := exists_eq_append_trim r
  have hgap_ne : gap ≠ [] := by
    -- behind the word there is a blank, but the payload does not start with one
    rintro rfl
    obtain ⟨c, cs, hcs⟩ := List.exists_cons_of_ne_nil hr
    have hhead : (trim r).head? = some c := by
      rw [hcs]
      rfl
    have hc := isBlank_eq_false_of_trim hhead
    rw [hblank c (by rw [heq, hcs]; rfl)] at hc
    cases hc
  have hlist : (String.ofList (trim r)).toList = trim r := String.toList_ofList
  have hne : (String.ofList (trim r)).toList ≠ [] := by rwa [hlist]
  have htrim : trim (String.ofList (trim r)).toList = (String.ofList (trim r)).toList := by
    rw [hlist, trim_trim]
  have htells := Tells.event hbs hw hgap hgap_ne hne htrim hbs'
  rwa [hlist, ← heq] at htells

/-! ## Lines -/

theorem event?_of_blanks {l : List Char} (h : Blanks l) : event? l = .ok none := by
  rw [event?_eq, if_pos (.inl (trim_eq_nil_iff_blanks.mpr h))]

/-- What the grammar says of a line is what is read from it. -/
theorem Tells.event?_eq {l : List Char} {o : Option (UInt32 × String)} (h : Tells l o) :
    event? l = .ok o := by
  cases h with
  | blank hbs => exact event?_of_blanks hbs
  | @comment bs hbs cs =>
      have hhead : (trim (bs ++ '#' :: cs)).head? = some '#' := by
        rw [trim_append_left_of_blank hbs, trim_cons (by decide)]
        rfl
      rw [Script.event?_eq, if_pos (.inr hhead)]
  | @event bs ds gap bs' source payload hbs hds hgap hgap_ne hpayload htrim hbs' =>
      have hword : FirstWord (bs ++ (ds ++ (gap ++ (payload.toList ++ bs')))) ds
          (gap ++ (payload.toList ++ bs')) := by
        apply FirstWord.mk hbs hds.ne_nil hds.isBlank_eq_false
        obtain ⟨b, gap, rfl⟩ := List.exists_cons_of_ne_nil hgap_ne
        rintro c hc
        rw [← Option.some.inj hc]
        exact hgap b List.mem_cons_self
      have hrest : trim (gap ++ (payload.toList ++ bs')) = payload.toList := by
        rw [trim_append_left_of_blank hgap, trim_append_of_blank _ hbs', htrim]
      rw [hword.event?_eq hds.head?_ne_hash, readId_eq_some_iff.mpr hds, hrest]
      simp only [if_neg hpayload, String.ofList_toList]

theorem tells_of_event? {l : List Char} {o : Option (UInt32 × String)}
    (h : event? l = .ok o) : Tells l o := by
  rcases blanks_or_firstWord l with hblanks | ⟨w, r, hword⟩
  · rw [event?_of_blanks hblanks] at h
    cases h
    exact .blank hblanks
  · by_cases hhash : w.head? = some '#'
    · rw [hword.event?_of_hash hhash] at h
      cases h
      obtain ⟨hbs, -, -, -⟩ := hword
      obtain ⟨cs, rfl⟩ := List.head?_eq_some_iff.mp hhash
      exact .comment hbs (cs ++ r)
    · rw [hword.event?_eq hhash] at h
      cases hid : readId w with
      | none => simp [hid] at h
      | some source =>
          by_cases hrest : trim r = []
          · simp [hid, hrest] at h
          · simp only [hid, if_neg hrest, Except.ok.injEq] at h
            subst h
            exact hword.tells (readId_eq_some_iff.mp hid) hrest

/-- The lines that are read without a fault are those that have one of the forms. -/
theorem event?_eq_ok_iff {l : List Char} {o : Option (UInt32 × String)} :
    event? l = .ok o ↔ Tells l o :=
  ⟨tells_of_event?, Tells.event?_eq⟩

/-- A line tells something or has a fault. -/
theorem tells_or_fault (l : List Char) : (∃ o, Tells l o) ∨ ∃ fault, event? l = .error fault := by
  cases h : event? l with
  | ok o => exact .inl ⟨o, tells_of_event? h⟩
  | error fault => exact .inr ⟨fault, rfl⟩

theorem exists_fault_iff {l : List Char} :
    (∃ fault, event? l = .error fault) ↔ ∀ o, ¬Tells l o := by
  constructor
  · rintro ⟨fault, h⟩ o ho
    rw [ho.event?_eq] at h
    cases h
  · exact fun h ↦ (tells_or_fault l).resolve_left fun ⟨o, ho⟩ ↦ h o ho

/-- The fault of a line is the one the grammar blames. -/
theorem FirstWord.event?_eq_error_iff {l w r : List Char} (h : FirstWord l w r)
    (hsilent : ∀ o, ¬Tells l o) {fault : ScriptFault} :
    event? l = .error fault ↔ Blames w r fault := by
  have hhash : w.head? ≠ some '#' := fun hw ↦
    hsilent none (tells_of_event? (h.event?_of_hash hw))
  rw [h.event?_eq hhash]
  cases hid : readId w with
  | none =>
      have hnone := readId_eq_none_iff.mp hid
      constructor
      · intro heq
        cases heq
        exact ⟨iff_of_true rfl hnone, iff_of_false nofun fun ⟨⟨a, ha⟩, _⟩ ↦ hnone a ha⟩
      · intro hblames
        rw [hblames.badSource.mpr hnone]
  | some a =>
      have hspells := readId_eq_some_iff.mp hid
      have hrest : trim r = [] := by
        by_contra hne
        exact hsilent _ (h.tells hspells hne)
      have hblanks := trim_eq_nil_iff_blanks.mp hrest
      simp only [if_pos hrest]
      constructor
      · intro heq
        cases heq
        exact ⟨iff_of_false nofun fun hnone ↦ hnone a hspells,
          iff_of_true rfl ⟨⟨a, hspells⟩, hblanks⟩⟩
      · intro hblames
        rw [hblames.noPayload.mpr ⟨⟨a, hspells⟩, hblanks⟩]

/-- A line is faulty if it has none of the forms, and its first word tells the fault. -/
theorem event?_eq_error_iff {l : List Char} {fault : ScriptFault} : event? l = .error fault ↔
    (∀ o, ¬Tells l o) ∧ ∃ w r, FirstWord l w r ∧ Blames w r fault := by
  constructor
  · intro h
    have hsilent := exists_fault_iff.mp ⟨fault, h⟩
    obtain ⟨w, r, hword⟩ := (blanks_or_firstWord l).resolve_left fun hblanks ↦
      hsilent none (.blank hblanks)
    exact ⟨hsilent, w, r, hword, (hword.event?_eq_error_iff hsilent).mp h⟩
  · rintro ⟨hsilent, w, r, hword, hblames⟩
    exact (hword.event?_eq_error_iff hsilent).mpr hblames

end Script

end EventMachine
