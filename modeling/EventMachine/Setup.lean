import EventMachine.File
import EventMachine.Filing
import EventMachine.Json.Form
import EventMachine.Notice
import EventMachine.Yaml.Form
import EventMachine.Yaml.Writer

/-!
# Setups

A setup says which devices there are, what stands in for the others, and whether a replay stops at
a final state.  It starts from defaults, is read from a file, and is overridden by environment
variables in the end.  A valid setup has no device with id 0 and no two devices with one id; an
invalid one can still be used, and then the last device with an id counts.
-/

namespace EventMachine

open EventMachine.Text

structure Setup where
  logLevel : String := "info"
  devices : List Device := []
  defaultKind : Option DeviceKind := none
  stopOnFinal : Bool := false
  deriving DecidableEq, Repr

inductive SetupFault
  | zeroId
  | repeatedId (id : UInt32)
  deriving DecidableEq, Repr

def SetupFault.message : SetupFault → String
  | zeroId => "device id must be greater than 0"
  | repeatedId id => "device " ++ decimal id.toNat ++ " configured more than once"

inductive SetupError
  | unreadable (path : String) (fault : FileFault)
  | unparsable (path : String)
  | invalid (fault : SetupFault)
  deriving DecidableEq, Repr

def SetupError.message : SetupError → String
  | unreadable path fault => "failed to read config file '" ++ path ++ "': " ++ fault.message
  | unparsable path => "failed to parse config file '" ++ path ++ "'"
  | invalid fault => "configuration validation failed: " ++ fault.message

namespace Setup

/-! ## Reading -/

section Reading

variable {ν : Type} (f : Form ν)

def readKind (y : ν) : Stepwise DeviceKind := do
  DeviceKind.ofName? (← f.choice y)

def readId (y : ν) : Stepwise UInt32 := do
  let n ← f.natural y
  if n < UInt32.size then return UInt32.ofNat n else failure

def readDevice (y : ν) : Stepwise Device := do
  let fs ← f.fields ["id", "kind", "prefix", "fail_on"] y
  let id ← Form.required "id" (readId f) fs
  let kind ← Form.required "kind" (readKind f) fs
  let lead ← Form.optional "prefix" none (f.nullable f.text) fs
  let failOn ← Form.optional "fail_on" none (f.nullable f.text) fs
  return { id, kind, lead, failOn }

def readLogLevel (y : ν) : Stepwise String := do
  Form.optional "level" "info" f.text (← f.fields ["level"] y)

def readStopOnFinal (y : ν) : Stepwise Bool := do
  Form.optional "stop_on_final" false f.flag (← f.fields ["stop_on_final"] y)

def read (y : ν) : Stepwise Setup := do
  let fs ← f.fields ["log", "devices", "default_device", "run"] y
  let logLevel ← Form.optional "log" "info" (readLogLevel f) fs
  let devices ← Form.optional "devices" [] (f.list (readDevice f)) fs
  let defaultKind ← Form.optional "default_device" none (f.nullable (readKind f)) fs
  let stopOnFinal ← Form.optional "run" false (readStopOnFinal f) fs
  return { logLevel, devices, defaultKind, stopOnFinal }

end Reading

def ofDocument? (d : Json.Document) : Option Setup := (read Json.Document.form d).run' 0

def ofText? (s : String) : Option Setup :=
  (Yaml.Document.ofText? s).bind fun d ↦ (read d.form d.root).run' d.steps

def ofFile (path : String) (file : FileText) : Except SetupError Setup :=
  match file with
  | .error fault => .error (.unreadable path fault)
  | .ok s =>
    match ofText? s with
    | none => .error (.unparsable path)
    | some x => .ok x

/-! ## Writing -/

def deviceDocument (d : Device) : Json.Document :=
  .object ([("id", .id d.id), ("kind", .text d.kind.name)] ++
    (d.lead.map fun s ↦ ("prefix", Json.Document.text s)).toList ++
    (d.failOn.map fun s ↦ ("fail_on", Json.Document.text s)).toList)

def document (x : Setup) : Json.Document :=
  .object [
    ("log", .object [("level", .text x.logLevel)]),
    ("devices", .list (x.devices.map deviceDocument)),
    ("default_device", (x.defaultKind.map fun k ↦ .text k.name).getD .null),
    ("run", .object [("stop_on_final", .flag x.stopOnFinal)])]

def text (x : Setup) : String := Yaml.write x.document

/-! ## Environment -/

abbrev Environment := String → Option String

def withLevel (x : Setup) (level : String) : Setup :=
  let level := String.ofList (trim level.toList)
  if level = "" then x else { x with logLevel := level }

def withDefaultKind (x : Setup) (word : String) : Setup × List Notice :=
  match DeviceKind.read word with
  | .ok k => ({ x with defaultKind := some k }, [])
  | .error word => (x, [.badDefaultDevice word])

def withStop (x : Setup) (word : String) : Setup :=
  { x with stopOnFinal := word = "1" || lower word = "true" }

def override (env : Environment) (x : Setup) : Setup × List Notice :=
  let x := ((env "JSONFSM_LOG_LEVEL").map x.withLevel).getD x
  let (x, notices) := ((env "JSONFSM_DEFAULT_DEVICE").map x.withDefaultKind).getD (x, [])
  (((env "JSONFSM_STOP_ON_FINAL").map x.withStop).getD x, notices)

/-! ## Checking -/

/-- The first device whose id is 0 or occurred before. -/
def checkFrom (seen : List UInt32) : List Device → Except SetupFault Unit
  | [] => .ok ()
  | d :: ds =>
    if d.id = 0 then .error .zeroId
    else if d.id ∈ seen then .error (.repeatedId d.id)
    else checkFrom (d.id :: seen) ds

def check (x : Setup) : Except SetupFault Unit := checkFrom [] x.devices

def find? (x : Setup) (id : UInt32) : Option Device := x.devices.find? (·.id = id)

/-- The setup to work with: from a file if there is one, overridden and checked. -/
def load (env : Environment) (file : Option (String × FileText)) :
    Except SetupError Setup × List Notice :=
  let base : Except SetupError Setup :=
    match file with
    | none => .ok {}
    | some (path, file) => ofFile path file
  match base with
  | .error e => (.error e, [])
  | .ok x =>
    let (x, notices) := x.override env
    (match x.check with
      | .error fault => .error (.invalid fault)
      | .ok _ => .ok x, notices)

/-! ## Devices -/

abbrev DeviceMap := List (UInt32 × Device)

def explicitDevices (x : Setup) : DeviceMap :=
  x.devices.foldl (fun m d ↦ fileUnder d.id d m) []

def addDefault (x : Setup) (m : DeviceMap × List Notice) (id : UInt32) : DeviceMap × List Notice :=
  if (m.1.lookup id).isSome then m
  else
    match x.defaultKind with
    | some kind => (fileUnder id { id, kind } m.1, m.2 ++ [.defaultDevice kind id])
    | none => (m.1, m.2 ++ [.noDevice id])

def deviceMap (x : Setup) (required : List UInt32) : DeviceMap × List Notice :=
  required.foldl x.addDefault (x.explicitDevices, [])

end Setup

end EventMachine
