import EventMachine.Proofs.Filing
import EventMachine.Session

/-!
# The devices of a session

Of several devices that are set up under one id the last one counts.  A required id under which none
is set up gets a default device, if there is one.
-/

namespace EventMachine

namespace Setup

/-- The last device that is set up under an id. -/
def last? (x : Setup) (id : UInt32) : Option Device := x.devices.reverse.find? (·.id = id)

def default? (x : Setup) (id : UInt32) : Option Device := x.defaultKind.map fun kind ↦ { id, kind }

/-- The device under an id that is required. -/
def resolve (x : Setup) (id : UInt32) : Option Device := (x.last? id).or (x.default? id)

/-- Of several devices under one id, the last is kept. -/
theorem lookup_foldl_fileUnder (ds : List Device) (m : DeviceMap) (id : UInt32) :
    (ds.foldl (fun m d ↦ fileUnder d.id d m) m).lookup id =
      (ds.reverse.find? (·.id = id)).or (m.lookup id) := by
  have hfold : ds.foldl (fun m d ↦ fileUnder d.id d m) m =
      fileAll (ds.map fun d ↦ (d.id, d)) m := by
    rw [fileAll, List.foldl_map]
  rw [hfold, lookup_fileAll, ← List.map_reverse, lookup_map, Option.map_id']

theorem lookup_addDefault (x : Setup) (m : DeviceMap × List Notice) (k id : UInt32) :
    (x.addDefault m k).1.lookup id =
      (m.1.lookup id).or (if id = k then x.default? id else none) := by
  rw [addDefault]
  by_cases h : id = k
  · subst h
    rw [if_pos rfl]
    cases hlookup : m.1.lookup id with
    | some d => simp [hlookup]
    | none =>
        cases hkind : x.defaultKind with
        | none => simp [hlookup, default?, hkind]
        | some kind => simp [default?, hkind, lookup_fileUnder_self]
  · rw [if_neg h, Option.or_none]
    cases (m.1.lookup k).isSome with
    | true => rfl
    | false =>
        cases x.defaultKind with
        | none => rfl
        | some kind => exact lookup_fileUnder_ne h _ _

/-- Defaults fill in for required ids that have no device yet. -/
theorem lookup_foldl_addDefault (x : Setup) (ks : List UInt32) (m : DeviceMap × List Notice)
    (id : UInt32) : (ks.foldl x.addDefault m).1.lookup id =
      (m.1.lookup id).or (if id ∈ ks then x.default? id else none) := by
  induction ks generalizing m with
  | nil => simp
  | cons k ks ih =>
      rw [List.foldl_cons, ih, lookup_addDefault, Option.or_assoc]
      congr 1
      by_cases hk : id = k
      · simp only [hk, List.mem_cons_self, if_true]
        cases x.default? k <;> simp
      · simp [hk]

/-- What is filed under an id, whether it is required or not. -/
theorem lookup_deviceMap (x : Setup) (required : List UInt32) (id : UInt32) :
    (x.deviceMap required).1.lookup id =
      (x.last? id).or (if id ∈ required then x.default? id else none) := by
  rw [deviceMap, lookup_foldl_addDefault, explicitDevices, lookup_foldl_fileUnder]
  simp [last?]

theorem lookup_deviceMap_of_mem (x : Setup) {required : List UInt32} {id : UInt32}
    (h : id ∈ required) : (x.deviceMap required).1.lookup id = x.resolve id := by
  rw [lookup_deviceMap, if_pos h, resolve]

theorem id_of_resolve {x : Setup} {id : UInt32} {d : Device} (h : x.resolve id = some d) :
    d.id = id := by
  rw [resolve, Option.or_eq_some_iff] at h
  rcases h with hlast | ⟨-, hdefault⟩
  · simpa using List.find?_some hlast
  · obtain ⟨kind, -, rfl⟩ := Option.map_eq_some_iff.mp hdefault
    rfl

/-- What a behavior enters in the journal: nothing if its device is a log device or none, and its
command otherwise, behind the lead of a print device. -/
def entry? (x : Setup) (b : Behavior) : Option JournalEntry :=
  (x.resolve b.device).bind fun d ↦
    match d.kind with
    | .log => none
    | .print => some ⟨b.device, d.lead.getD "" ++ b.command⟩
    | .fail => some ⟨b.device, b.command⟩

/-- What a command enters in the journal when it is executed on its device. -/
theorem entries_deviceMap (x : Setup) {required : List UInt32} {c : Command}
    (h : c.device ∈ required) :
    (x.deviceMap required).1.entries c = (x.entry? ⟨c.device, c.text⟩).toList := by
  rw [DeviceMap.entries, DeviceMap.perform?, entry?, x.lookup_deviceMap_of_mem h]
  cases hdev : x.resolve c.device with
  | none => rfl
  | some d =>
      have hid : d.id = c.device := id_of_resolve hdev
      simp only [Option.map_some, Option.getD_some, Option.bind_some, Device.perform]
      cases d.kind with
      | log => rfl
      | print => simp [Performance.ofPrint, hid]
      | fail => simp [Performance.ofPrint, hid]

/-- A command whose device is there does not fail, whatever was executed before. -/
theorem DeviceMap.host_eq_none {m : DeviceMap} {c : Command} (h : m.lookup c.device ≠ none)
    (past : List Command) : m.host past c = none := by
  obtain ⟨d, hd⟩ := Option.ne_none_iff_exists'.mp h
  rw [host, perform?, hd, Option.map_some]
  exact d.fault?_perform c.text

end Setup

end EventMachine
