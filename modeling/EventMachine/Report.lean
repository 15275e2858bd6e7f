import EventMachine.Session
import EventMachine.Style

/-!
# Report texts

Reports are shown as one line of text each, or as one line of JSON each.
-/

namespace EventMachine

open EventMachine.Text

namespace Outcome

/-- The outcome as an object whose first member names its kind. -/
def members : Outcome → List (String × Json.Document)
  | unknownEvent => [("outcome", .text "unknown_event")]
  | unhandled trigger => [("outcome", .text "unhandled"), ("trigger", .text trigger)]
  | ignored trigger => [("outcome", .text "ignored"), ("trigger", .text trigger)]
  | transitioned trigger source target failed =>
    [("outcome", .text "transitioned"), ("trigger", .text trigger), ("from", .text source),
      ("to", .text target), ("failed_behaviors", .nat failed)]

def document (o : Outcome) : Json.Document := .object o.members

def line (colors : Bool) : Outcome → String
  | unknownEvent => paint colors .dimmed "unknown event"
  | unhandled trigger => paint colors .cyan trigger ++ " unhandled"
  | ignored trigger => paint colors .cyan trigger ++ " ignored"
  | transitioned trigger source target failed =>
    paint colors .cyan trigger ++ " " ++ source ++ " → " ++ target ++
      (if 0 < failed then paint colors .red (" (" ++ decimal failed ++ " failed)") else "")

end Outcome

def stateLine (colors : Bool) (state : String) (isFinal : Bool) : String :=
  paint colors .yellow state ++ (if isFinal then paint colors .green " (final)" else "")

namespace Report

def document (r : Report) : Json.Document :=
  .object [("source", .id r.source), ("payload", .text r.payload),
    ("outcome", r.outcome.document), ("state", .text r.state), ("is_final", .flag r.isFinal)]

def line (colors : Bool) (r : Report) : String :=
  decimal r.source.toNat ++ ":" ++ r.payload ++ " " ++ r.outcome.line colors ++ " => " ++
    stateLine colors r.state r.isFinal

def jsonLines (rs : List Report) : String :=
  "\n".intercalate (rs.map fun r ↦ r.document.compact)

end Report

def JournalEntry.line (colors : Bool) (e : JournalEntry) : String :=
  "[" ++ paint colors .cyan (decimal e.device.toNat) ++ "] " ++ e.command

end EventMachine
