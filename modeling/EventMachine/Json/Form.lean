import EventMachine.Form
import EventMachine.Json.Document

/-!
# Records in JSON documents

A record is an object, or a list of the first of its fields in their order.  An alternative is its
name, or an object of one member that holds nothing.
-/

namespace EventMachine.Json.Document

def fields (keys : List String) : Document → Stepwise (List (String × Document))
  | .object ms => Form.knownFields keys ms
  | .list ds => if ds.length ≤ keys.length then pure (keys.zip ds) else failure
  | _ => failure

def form : Form Document where
  fields := fields
  items
    | .list ds => pure ds
    | _ => failure
  text
    | .text s => pure s
    | _ => failure
  flag
    | .flag b => pure b
    | _ => failure
  natural
    | .number (.integer (.ofNat n)) => pure n
    | _ => failure
  choice
    | .text s => pure s
    | .object [(k, .null)] => pure k
    | _ => failure
  present
    | .null => pure none
    | d => pure (some d)

end EventMachine.Json.Document
