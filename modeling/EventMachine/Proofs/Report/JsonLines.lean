import EventMachine.Proofs.Json.Compact
import EventMachine.Report

/-!
# Reports as lines of JSON

Reports are written as one line of JSON each.  Whatever line ends, quotes and control characters are
in their texts, the text splits into as many lines at its line feeds, and each line is read back as
the report it was written for.
-/

namespace EventMachine

open EventMachine.Json

/-! ## Reading a report -/

namespace Json.Document

def text? : Document → Option String
  | .text s => some s
  | _ => none

def natural? : Document → Option Nat
  | .number (.integer (.ofNat n)) => some n
  | _ => none

def id? (d : Document) : Option UInt32 :=
  d.natural?.bind fun n ↦ if n < UInt32.size then some (UInt32.ofNat n) else none

def flag? : Document → Option Bool
  | .flag b => some b
  | _ => none

@[simp] theorem id?_id (n : UInt32) : (Document.id n).id? = some n := by
  have hnat : (Document.id n).natural? = some n.toNat := rfl
  rw [id?, hnat, Option.bind_some, if_pos n.toNat_lt_size, UInt32.ofNat_toNat]

end Json.Document

/-- The outcome that an object holds: its tag says which of the other members are looked at. -/
def Outcome.ofDocument? (d : Document) : Option Outcome := do
  match ← (← d.get? "outcome").text? with
  | "unknown_event" => return .unknownEvent
  | "unhandled" => return .unhandled (← (← d.get? "trigger").text?)
  | "ignored" => return .ignored (← (← d.get? "trigger").text?)
  | "transitioned" =>
    return .transitioned (← (← d.get? "trigger").text?) (← (← d.get? "from").text?)
      (← (← d.get? "to").text?) (← (← d.get? "failed_behaviors").natural?)
  | _ => none

def Report.ofDocument? (d : Document) : Option Report := do
  let source ← (← d.get? "source").id?
  let payload ← (← d.get? "payload").text?
  let outcome ← Outcome.ofDocument? (← d.get? "outcome")
  let state ← (← d.get? "state").text?
  let isFinal ← (← d.get? "is_final").flag?
  return ⟨source, payload, outcome, state, isFinal⟩

/-- The report that a line holds, which has to be a JSON object. -/
def Report.ofLine? (line : List Char) : Option Report :=
  (Document.ofText? (String.ofList line)).bind ofDocument?

/-- What the lines of a text hold.  The empty text has no line. -/
def Report.ofLines (s : String) : List (Option Report) :=
  if s = "" then [] else (s.toList.splitOn '\n').map ofLine?

theorem Outcome.ofDocument?_document (o : Outcome) : ofDocument? o.document = some o := by
  cases o <;> rfl

theorem Report.ofDocument?_document (r : Report) : ofDocument? r.document = some r := by
  have hsource : r.document.get? "source" = some (.id r.source) := rfl
  have hpayload : r.document.get? "payload" = some (.text r.payload) := rfl
  have houtcome : r.document.get? "outcome" = some r.outcome.document := rfl
  have hstate : r.document.get? "state" = some (.text r.state) := rfl
  have hfinal : r.document.get? "is_final" = some (.flag r.isFinal) := rfl
  simp only [ofDocument?, hsource, hpayload, houtcome, hstate, hfinal, Option.bind_eq_bind,
    Option.bind_some, Document.id?_id, r.outcome.ofDocument?_document]
  rfl

/-! ## One report -/

def Outcome.failed : Outcome → Nat
  | transitioned _ _ _ failed => failed
  | _ => 0

theorem Json.Document.regular_nat {n : Nat} (h : n < UInt64.size) : (Document.nat n).Regular := by
  have hlower : Int64.minValue.toInt ≤ 0 := by decide
  exact .integer (Int.le_trans hlower (Int.natCast_nonneg n)) (Int.ofNat_lt.mpr h)

/-- A count that fits a machine word keeps the document in the range of the reader. -/
theorem Outcome.regular_document {o : Outcome} (h : o.failed < UInt64.size) :
    o.document.Regular := by
  apply Document.Regular.object
  · cases o <;> simp [members]
  · cases o with
    | unknownEvent | unhandled | ignored => simp [members, Document.Regular.text]
    | transitioned _ _ _ failed =>
        have hfailed : (Document.nat failed).Regular := Document.regular_nat h
        simp [members, Document.Regular.text, hfailed]

theorem Report.regular_document {r : Report} (h : r.outcome.failed < UInt64.size) :
    r.document.Regular := by
  have hsource : (Document.id r.source).Regular := by
    apply Document.regular_nat
    exact r.source.toNat_lt_size.trans (by decide)
  apply Document.Regular.object
  · simp
  · simp [Document.Regular.text, Document.Regular.flag, Outcome.regular_document h, hsource]

theorem Report.write_document_ne_nil (r : Report) : r.document.write ≠ [] := by
  simp [document, Document.write]

/-- A line of one report is read back. -/
theorem Report.ofLine?_write {r : Report} (h : r.outcome.failed < UInt64.size) :
    ofLine? r.document.write = some r := by
  have hread : Document.ofText? (String.ofList r.document.write) = some r.document :=
    (regular_document h).ofText?_compact
  rw [ofLine?, hread]
  exact r.ofDocument?_document

/-! ## Many reports -/

namespace Report

theorem toList_jsonLines (rs : List Report) :
    (jsonLines rs).toList = ['\n'].intercalate (rs.map fun r ↦ r.document.write) := by
  have hfeed : "\n".toList = ['\n'] := by decide
  simp only [jsonLines, String.toList_intercalate, List.map_map, Function.comp_def,
    Document.toList_compact, hfeed]

/-- Line feeds in the texts of a report are escaped, so the only ones are those between lines. -/
theorem splitOn_jsonLines {rs : List Report} (hne : rs ≠ [])
    (h : ∀ r ∈ rs, r.outcome.failed < UInt64.size) :
    (jsonLines rs).toList.splitOn '\n' = rs.map fun r ↦ r.document.write := by
  rw [toList_jsonLines]
  apply List.splitOn_intercalate
  · intro l hl
    obtain ⟨r, hr, rfl⟩ := List.mem_map.mp hl
    exact (regular_document (h r hr)).controlless_write.notMem (by decide)
  · simpa using hne

theorem jsonLines_nil : jsonLines [] = "" := rfl

theorem jsonLines_cons_ne_empty (r : Report) (rs : List Report) : jsonLines (r :: rs) ≠ "" := by
  intro hempty
  have hnil := congrArg String.toList hempty
  rw [toList_jsonLines, List.map_cons] at hnil
  apply r.write_document_ne_nil
  cases rs with
  | nil => simpa using hnil
  | cons r' rs =>
      rw [List.map_cons, List.intercalate_cons_cons] at hnil
      exact (List.append_eq_nil_iff.mp (List.append_eq_nil_iff.mp hnil).1).1

/-- No line feed stands inside a line, so cutting at line feeds gives the reports back. -/
theorem ofLines_jsonLines {rs : List Report} (h : ∀ r ∈ rs, r.outcome.failed < UInt64.size) :
    ofLines (jsonLines rs) = rs.map some := by
  cases rs with
  | nil => rfl
  | cons r rs =>
      rw [ofLines, if_neg (jsonLines_cons_ne_empty r rs),
        splitOn_jsonLines (List.cons_ne_nil r rs) h, List.map_map]
      apply List.map_congr_left
      intro r' hr'
      exact ofLine?_write (h r' hr')

/-- What has been written says which reports were written. -/
theorem jsonLines_inj {rs rs' : List Report} (h : ∀ r ∈ rs, r.outcome.failed < UInt64.size)
    (h' : ∀ r ∈ rs', r.outcome.failed < UInt64.size) (heq : jsonLines rs = jsonLines rs') :
    rs = rs' := by
  apply List.map_injective_iff.mpr fun _ _ ↦ Option.some.inj
  rw [← ofLines_jsonLines h, heq, ofLines_jsonLines h']

/-- The text splits at its line feeds into one line per report, none of them empty, and each line
is a JSON object whose members give back its report.  So different reports are written differently.
A count of failed commands is a machine word. -/
theorem jsonLines_lossless (rs : List Report) (h : ∀ r ∈ rs, r.outcome.failed < UInt64.size) :
    jsonLines [] = "" ∧
      (rs ≠ [] →
        let ls := (jsonLines rs).toList.splitOn '\n'
        ls.length = rs.length ∧
          ∀ (k : Nat) (r : Report), rs[k]? = some r → ∃ l, ls[k]? = some l ∧ l ≠ [] ∧
            ∃ ms, Document.ofText? (String.ofList l) = some (.object ms) ∧
              ofDocument? (.object ms) = some r) ∧
      ∀ rs' : List Report, (∀ r ∈ rs', r.outcome.failed < UInt64.size) →
        jsonLines rs = jsonLines rs' → rs = rs' := by
  refine ⟨jsonLines_nil, fun hne ↦ ?_, fun rs' h' heq ↦ jsonLines_inj h h' heq⟩
  have hlines := splitOn_jsonLines hne h
  refine ⟨by rw [hlines, List.length_map], fun k r hr ↦ ?_⟩
  have hmem : r ∈ rs := List.mem_of_getElem? hr
  refine ⟨r.document.write, ?_, r.write_document_ne_nil, ?_⟩
  · rw [hlines, List.getElem?_map, hr]
    rfl
  · exact ⟨_, (regular_document (h r hmem)).ofText?_compact, r.ofDocument?_document⟩

/-- Reports whose texts have line ends, quotes and control characters in them. -/
def awkward : List Report := [
  ⟨1, "a\nb\r\n\"c\"\\", .unknownEvent, "S\n", false⟩,
  ⟨2, "\x00\x1f\u2028", .transitioned "go\t" "S\n" "\x08\x0c" 3, "\x08\x0c", true⟩]

theorem jsonLines_lossless_awkward :
    (∀ r ∈ awkward, r.outcome.failed < UInt64.size) ∧
      ((jsonLines awkward).toList.splitOn '\n').length = 2 ∧
      (∃ l, ((jsonLines awkward).toList.splitOn '\n')[1]? = some l ∧ l ≠ [] ∧
        ∃ ms, Document.ofText? (String.ofList l) = some (.object ms) ∧
          ofDocument? (.object ms) = awkward[1]?) ∧
      jsonLines awkward ≠ jsonLines awkward.reverse := by
  have hwords : ∀ r ∈ awkward, r.outcome.failed < UInt64.size := by decide
  have hwords' : ∀ r ∈ awkward.reverse, r.outcome.failed < UInt64.size := by decide
  obtain ⟨-, hlines, hinj⟩ := jsonLines_lossless awkward hwords
  obtain ⟨hlength, hread⟩ := hlines (by decide)
  refine ⟨hwords, hlength, hread 1 _ rfl, fun heq ↦ ?_⟩
  exact absurd (hinj awkward.reverse hwords' heq) (by decide)

end Report

end EventMachine
