import EventMachine.Device

/-!
# Notices

What is written to the log.  Each notice has a level and a message, and the two about failing
devices name the location, device and text of the command concerned.
-/

namespace EventMachine

open EventMachine.Text

inductive Level
  | error
  | warn
  | info
  | debug
  deriving DecidableEq, Repr

def Level.name : Level → String
  | error => "error"
  | warn => "warn"
  | info => "info"
  | debug => "debug"

inductive Notice
  | commandFailed (c : Command) (fault : Fault)
  | commandRejected (c : Command) (fault : Fault)
  | machineCompiled (checksum : String) (states triggers commands : Nat)
  | unknownEvent (source : UInt32) (payload : String)
  | unknownTrigger (trigger : String)
  | noRule (trigger state : String)
  | ignored (trigger state : String)
  | moved (source target trigger : String) (failed : Nat)
  | spoken (device : UInt32) (line : String)
  | defaultDevice (kind : DeviceKind) (device : UInt32)
  | noDevice (device : UInt32)
  | sessionCompiled (checksum initial : String) (devices : Nat)
  | machineLoaded (path : String)
  | finalReached (state : String) (line : Nat)
  | badDefaultDevice (word : String)
  deriving DecidableEq, Repr

namespace Notice

def level : Notice → Level
  | commandFailed .. => .error
  | commandRejected .. | noDevice .. | badDefaultDevice .. => .warn
  | unknownEvent .. | unknownTrigger .. | spoken .. | sessionCompiled .. | machineLoaded ..
  | finalReached .. => .info
  | machineCompiled .. | noRule .. | ignored .. | moved .. | defaultDevice .. => .debug

def quote (s : String) : String := "'" ++ s ++ "'"

def message : Notice → String
  | commandFailed _ fault => "device command failed: " ++ fault.message
  | commandRejected _ fault => "device compiler rejected command: " ++ fault.message
  | machineCompiled checksum states triggers commands =>
    "Compiled machine " ++ checksum ++ ": " ++ decimal states ++ " states, " ++
      decimal triggers ++ " triggers, " ++ decimal commands ++ " commands"
  | unknownEvent source payload =>
    "Ignoring unknown event " ++ quote (decimal source.toNat ++ ":" ++ payload)
  | unknownTrigger trigger => "Ignoring unknown trigger " ++ quote trigger
  | noRule trigger state =>
    "No rule for trigger " ++ quote trigger ++ " in state " ++ quote state
  | ignored trigger state => "State " ++ quote state ++ " ignores trigger " ++ quote trigger
  | moved source target trigger failed =>
    "Transition " ++ quote source ++ " -> " ++ quote target ++ " on trigger " ++ quote trigger ++
      " (" ++ decimal failed ++ " failed behaviors)"
  | spoken _ line => line
  | defaultDevice kind device =>
    "Using default " ++ kind.title ++ " device for device " ++ decimal device.toNat
  | noDevice device => "No device configured for device " ++ decimal device.toNat
  | sessionCompiled checksum initial devices =>
    "Compiled machine " ++ checksum ++ " (initial state " ++ quote initial ++ ", " ++
      decimal devices ++ " devices)"
  | machineLoaded path => "Loaded machine from " ++ path
  | finalReached state line =>
    "Reached final state " ++ quote state ++ " at script line " ++ decimal line
  | badDefaultDevice word =>
    "Ignoring JSONFSM_DEFAULT_DEVICE: " ++ DeviceKind.unknownMessage word

def command? : Notice → Option Command
  | commandFailed c _ | commandRejected c _ => some c
  | _ => none

def device? : Notice → Option UInt32
  | commandFailed c _ | commandRejected c _ => some c.device
  | spoken device _ => some device
  | _ => none

end Notice

def Execution.notices (x : Execution) : List Notice :=
  match x.fault? with
  | none => []
  | some fault => [.commandFailed x.command fault]

end EventMachine
