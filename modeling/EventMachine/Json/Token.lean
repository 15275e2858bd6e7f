import EventMachine.Json.Numeral

/-!
# Tokens of a JSON text

A text is cut into punctuation and literals, and the white space between them (space, tab, line
feed and carriage return only) is dropped.  The list ends early at the first literal that cannot
be read or character that starts nothing; whether that matters depends on what the place asks for.
-/

namespace EventMachine.Json

inductive Token
  | openObject
  | closeObject
  | openList
  | closeList
  | comma
  | colon
  | null
  | flag (b : Bool)
  | number (n : Number)
  | text (s : String)
  | broken (quoted : Bool) (d : Defect)
  | stray
  deriving DecidableEq, Repr

def isSpace (c : Char) : Bool := c = ' ' || c = '\n' || c = '\t' || c = '\r'

def hexValue (c : Char) : Option Nat :=
  if '0' ≤ c ∧ c ≤ '9' then some (c.toNat - '0'.toNat)
  else if 'a' ≤ c ∧ c ≤ 'f' then some (c.toNat - 'a'.toNat + 10)
  else if 'A' ≤ c ∧ c ≤ 'F' then some (c.toNat - 'A'.toNat + 10)
  else none

def utf8Length (cs : List Char) : Nat := cs.foldl (fun n c ↦ n + c.utf8Size) 0

/-- Four hexadecimal digits.  If they are not there, the defect tells whether four bytes were. -/
def hexEscape (cs : List Char) : Except Defect (Nat × List Char) :=
  match cs with
  | a :: b :: c :: d :: rest =>
    match hexValue a, hexValue b, hexValue c, hexValue d with
    | some a, some b, some c, some d => .ok (((a * 16 + b) * 16 + c) * 16 + d, rest)
    | _, _, _, _ => .error .badEscape
  | _ => .error (if 4 ≤ utf8Length cs then .badEscape else .endInText)

theorem hexEscape_length {cs : List Char} {p : Nat × List Char} (h : hexEscape cs = .ok p) :
    p.2.length < cs.length := by
  rw [hexEscape.eq_def] at h
  split at h
  · split at h
    · cases h
      simp only [List.length_cons]
      omega
    · cases h
  · cases h

def isLeading (n : Nat) : Bool := 0xD800 ≤ n && n ≤ 0xDBFF

def isTrailing (n : Nat) : Bool := 0xDC00 ≤ n && n ≤ 0xDFFF

/-- The character beyond U+FFFF that a surrogate pair stands for. -/
def pair (n m : Nat) : Char := Char.ofNat ((n - 0xD800) * 0x400 + (m - 0xDC00) + 0x10000)

/-- The second half of a pair whose first half was `n`. -/
def trailingEscape (n : Nat) : List Char → Except Defect (Char × List Char)
  | [] => .error .endInText
  | [c] => .error (if c = '\\' then .endInText else .unfinishedPair)
  | c :: d :: cs =>
    if c = '\\' ∧ d = 'u' then
      (hexEscape cs).bind fun p ↦
        if isTrailing p.1 then .ok (pair n p.1, p.2) else .error .loneSurrogate
    else .error .unfinishedPair

theorem trailingEscape_length {n : Nat} {cs : List Char} {p : Char × List Char}
    (h : trailingEscape n cs = .ok p) : p.2.length < cs.length := by
  rw [trailingEscape.eq_def] at h
  split at h
  · cases h
  · cases h
  · rename_i c d cs
    split at h
    · cases hx : hexEscape cs with
      | error d => simp [hx, Except.bind] at h
      | ok q =>
          have hl := hexEscape_length hx
          by_cases ht : isTrailing q.1
          · simp only [hx, Except.bind, ht, if_true, Except.ok.injEq] at h
            subst h
            simp only [List.length_cons]
            omega
          · simp [hx, Except.bind, ht] at h
    · cases h

/-- A character given by its UTF-16 code units, after the letter `u`. -/
def unicodeEscape (cs : List Char) : Except Defect (Char × List Char) :=
  (hexEscape cs).bind fun p ↦
    if isTrailing p.1 then .error .loneSurrogate
    else if isLeading p.1 then trailingEscape p.1 p.2
    else .ok (Char.ofNat p.1, p.2)

theorem unicodeEscape_length {cs : List Char} {p : Char × List Char}
    (h : unicodeEscape cs = .ok p) : p.2.length < cs.length := by
  rw [unicodeEscape] at h
  cases hx : hexEscape cs with
  | error d => simp [hx, Except.bind] at h
  | ok q =>
      have hl := hexEscape_length hx
      simp only [hx, Except.bind] at h
      split at h
      · cases h
      · split at h
        · exact Nat.lt_trans (trailingEscape_length h) hl
        · cases h
          exact hl

def shortEscape (c : Char) : Option Char :=
  match c with
  | '"' => some '"'
  | '\\' => some '\\'
  | '/' => some '/'
  | 'b' => some '\x08'
  | 'f' => some '\x0c'
  | 'n' => some '\n'
  | 'r' => some '\r'
  | 't' => some '\t'
  | _ => none

def escape : List Char → Except Defect (Char × List Char)
  | [] => .error .endInText
  | c :: cs =>
    match shortEscape c with
    | some e => .ok (e, cs)
    | none => if c = 'u' then unicodeEscape cs else .error .badEscape

theorem escape_length {cs : List Char} {p : Char × List Char} (h : escape cs = .ok p) :
    p.2.length < cs.length := by
  cases cs with
  | nil => cases h
  | cons c cs =>
      rw [escape] at h
      split at h
      · cases h
        simp
      · split at h
        · have hl := unicodeEscape_length h
          simp only [List.length_cons]
          omega
        · cases h

def quoted (cs : List Char) : Except Defect (List Char × List Char) :=
  match cs with
  | [] => .error .endInText
  | c :: cs =>
    if c = '"' then .ok ([], cs)
    else if c = '\\' then
      match _h : escape cs with
      | .error d => .error d
      | .ok p => (quoted p.2).map fun q ↦ (p.1 :: q.1, q.2)
    else if c.toNat < 0x20 then .error .controlCharacter
    else (quoted cs).map fun q ↦ (c :: q.1, q.2)
termination_by cs.length
decreasing_by
  · have := escape_length _h
    simp only [List.length_cons]
    omega
  · simp

theorem map_ok {ε α β : Type} {f : α → β} {x : Except ε α} {b : β} (h : x.map f = .ok b) :
    ∃ a, x = .ok a ∧ f a = b := by
  cases x with
  | error e => cases h
  | ok a => exact ⟨a, rfl, by simpa [Except.map] using h⟩

/-- A quoted text consumes at least its closing quote, which is what makes the scanner end. -/
theorem quoted_length {cs : List Char} {p : List Char × List Char} (h : quoted cs = .ok p) :
    p.2.length < cs.length := by
  fun_induction quoted cs generalizing p with
  | case1 => cases h
  | case2 cs => cases h; simp
  | case3 => cases h
  | case4 cs q hq _ ih =>
      obtain ⟨r, hr, rfl⟩ := map_ok h
      have h₁ := ih hr
      have h₂ := escape_length hq
      simp only [List.length_cons]
      omega
  | case5 => cases h
  | case6 c cs _ _ _ ih =>
      obtain ⟨r, hr, rfl⟩ := map_ok h
      have h₁ := ih hr
      exact Nat.lt_succ_of_lt h₁

def word : List Char → List Char → Except Defect (List Char)
  | [], cs => .ok cs
  | _ :: _, [] => .error .endInValue
  | e :: es, c :: cs => if c = e then word es cs else .error .misspelt

theorem word_length {es cs rest : List Char} (h : word es cs = .ok rest) :
    rest.length ≤ cs.length := by
  induction es generalizing cs with
  | nil => cases h; exact Nat.le_refl _
  | cons e es ih =>
      cases cs with
      | nil => cases h
      | cons c cs =>
          rw [word] at h
          split at h
          · exact Nat.le_succ_of_le (ih h)
          · cases h

def punctuation (c : Char) : Option Token :=
  match c with
  | '{' => some .openObject
  | '}' => some .closeObject
  | '[' => some .openList
  | ']' => some .closeList
  | ',' => some .comma
  | ':' => some .colon
  | _ => none

/-- The literal that starts with `c`, or the token at which scanning ends. -/
def literal (c : Char) (cs : List Char) : Except Token (Token × List Char) :=
  let orBroken {α : Type} (x : Except Defect α) (f : α → Token × List Char) :=
    match x with
    | .ok a => Except.ok (f a)
    | .error d => .error (.broken (c = '"') d)
  if c = '"' then orBroken (quoted cs) fun p ↦ (.text (String.ofList p.1), p.2)
  else if c = 'n' then orBroken (word ['u', 'l', 'l'] cs) fun rest ↦ (.null, rest)
  else if c = 't' then orBroken (word ['r', 'u', 'e'] cs) fun rest ↦ (.flag true, rest)
  else if c = 'f' then orBroken (word ['a', 'l', 's', 'e'] cs) fun rest ↦ (.flag false, rest)
  else if c = '-' then orBroken (numeral true cs) fun p ↦ (.number p.1, p.2)
  else if (Text.digitValue c).isSome then
    orBroken (numeral false (c :: cs)) fun p ↦ (.number p.1, p.2)
  else .error .stray

theorem literal_length {c : Char} {cs : List Char} {p : Token × List Char}
    (h : literal c cs = .ok p) : p.2.length < (c :: cs).length := by
  simp only [literal] at h
  have key : ∀ {α : Type} {x : Except Defect α} {f : α → Token × List Char} {b : Bool},
      (match x with
        | .ok a => Except.ok (f a)
        | .error d => .error (Token.broken b d)) = .ok p → ∃ a, x = .ok a ∧ f a = p := by
    intro α x f b hx
    cases x with
    | ok a => exact ⟨a, rfl, by simpa using hx⟩
    | error d => cases hx
  split at h
  · obtain ⟨a, ha, rfl⟩ := key h
    exact Nat.lt_succ_of_lt (quoted_length ha)
  split at h
  · obtain ⟨a, ha, rfl⟩ := key h
    exact Nat.lt_succ_of_le (word_length ha)
  split at h
  · obtain ⟨a, ha, rfl⟩ := key h
    exact Nat.lt_succ_of_le (word_length ha)
  split at h
  · obtain ⟨a, ha, rfl⟩ := key h
    exact Nat.lt_succ_of_le (word_length ha)
  split at h
  · obtain ⟨a, ha, rfl⟩ := key h
    exact Nat.lt_succ_of_lt (numeral_length ha)
  split at h
  · obtain ⟨a, ha, rfl⟩ := key h
    exact numeral_length ha
  · cases h

/-- The tokens of a text, up to the first that cannot be read. -/
def scan (cs : List Char) : List Token :=
  match cs with
  | [] => []
  | c :: cs =>
    if isSpace c then scan cs
    else
      match punctuation c with
      | some t => t :: scan cs
      | none =>
        match _h : literal c cs with
        | .error t => [t]
        | .ok p => p.1 :: scan p.2
termination_by cs.length
decreasing_by
  · simp
  · simp
  · exact literal_length _h

end EventMachine.Json
