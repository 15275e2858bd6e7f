import EventMachine.Proofs.Session.Devices

/-!
# Checked setups

The first device whose id is 0 or was there before makes a setup invalid.  In a valid setup no id is
there twice, so the first device with an id is also the last one, and the order of the devices makes
no difference.
-/

namespace EventMachine.Setup

/-- No id is 0 or occurs twice. -/
structure Unambiguous (ds : List Device) : Prop where
  ne_zero : ∀ d ∈ ds, d.id ≠ 0
  nodup : (ds.map (·.id)).Nodup

/-- The id of a device is 0 or the one of an earlier device. -/
def Clashes (before : List Device) (d : Device) : Prop :=
  d.id = 0 ∨ d.id ∈ before.map (·.id)

def clash (d : Device) : SetupFault := if d.id = 0 then .zeroId else .repeatedId d.id

theorem Unambiguous.of_perm {ds ds' : List Device} (h : Unambiguous ds) (hperm : ds.Perm ds') :
    Unambiguous ds' where
  ne_zero := fun d hd ↦ h.ne_zero d (hperm.mem_iff.mpr hd)
  nodup := (hperm.map (·.id)).nodup_iff.mp h.nodup

/-! ## The check -/

section

variable {seen : List UInt32} {d : Device}

theorem checkFrom_of_clash (h : d.id = 0 ∨ d.id ∈ seen) (ds : List Device) :
    checkFrom seen (d :: ds) = .error (clash d) := by
  rw [checkFrom, clash]
  by_cases hzero : d.id = 0
  · rw [if_pos hzero, if_pos hzero]
  · rw [if_neg hzero, if_neg hzero, if_pos (h.resolve_left hzero)]

theorem checkFrom_of_fresh (h : ¬(d.id = 0 ∨ d.id ∈ seen)) (ds : List Device) :
    checkFrom seen (d :: ds) = checkFrom (d.id :: seen) ds := by
  rw [not_or] at h
  rw [checkFrom, if_neg h.1, if_neg h.2]

end

/-- The ids seen before, which are distinct, count as those of earlier devices. -/
theorem checkFrom_eq_ok_iff {seen : List UInt32} (hseen : seen.Nodup) (ds : List Device) :
    checkFrom seen ds = .ok () ↔ (∀ d ∈ ds, d.id ≠ 0) ∧ (ds.map (·.id) ++ seen).Nodup := by
  induction ds generalizing seen with
  | nil => simp [checkFrom, hseen]
  | cons d ds ih =>
      rw [List.forall_mem_cons, List.map_cons, List.cons_append]
      by_cases hd : d.id = 0 ∨ d.id ∈ seen
      · rw [checkFrom_of_clash hd, List.nodup_cons, List.mem_append]
        constructor
        · intro h
          cases h
        · rintro ⟨⟨hzero, -⟩, hfresh, -⟩
          exact absurd (Or.inr (hd.resolve_left hzero)) hfresh
      · obtain ⟨hzero, hfresh⟩ := not_or.mp hd
        rw [checkFrom_of_fresh hd, ih (List.nodup_cons.mpr ⟨hfresh, hseen⟩), List.nodup_middle,
          and_assoc]
        exact (and_iff_right hzero).symm

/-- The check ends at the first device that clashes with those before it. -/
theorem checkFrom_eq_error_iff {seen : List UInt32} {ds : List Device} {f : SetupFault} :
    checkFrom seen ds = .error f ↔ ∃ before d after, ds = before ++ d :: after ∧
      checkFrom seen before = .ok () ∧ (d.id = 0 ∨ d.id ∈ before.map (·.id) ++ seen) ∧
      f = clash d := by
  induction ds generalizing seen with
  | nil => simp [checkFrom]
  | cons e ds ih =>
      by_cases he : e.id = 0 ∨ e.id ∈ seen
      · rw [checkFrom_of_clash he]
        constructor
        · intro h
          cases h
          exact ⟨[], e, ds, rfl, rfl, he, rfl⟩
        · rintro ⟨before, d, after, hsplit, hok, -, rfl⟩
          cases before with
          | nil =>
              cases hsplit
              rfl
          | cons b before =>
              cases hsplit
              rw [checkFrom_of_clash he] at hok
              cases hok
      · rw [checkFrom_of_fresh he, ih]
        constructor
        · rintro ⟨before, d, after, rfl, hok, hd, rfl⟩
          refine ⟨e :: before, d, after, rfl, ?_, ?_, rfl⟩
          · rw [checkFrom_of_fresh he]
            exact hok
          · simpa [or_left_comm] using hd
        · rintro ⟨before, d, after, hsplit, hok, hd, rfl⟩
          cases before with
          | nil =>
              cases hsplit
              exact absurd hd he
          | cons b before =>
              cases hsplit
              rw [checkFrom_of_fresh he] at hok
              exact ⟨before, d, after, rfl, hok, by simpa [or_left_comm] using hd, rfl⟩

/-- A setup passes exactly when its ids are positive and distinct. -/
theorem check_eq_ok_iff (x : Setup) : x.check = .ok () ↔ Unambiguous x.devices := by
  rw [check, checkFrom_eq_ok_iff List.nodup_nil, List.append_nil]
  exact ⟨fun h ↦ ⟨h.1, h.2⟩, fun h ↦ ⟨h.ne_zero, h.nodup⟩⟩

/-- The fault is that of the first entry that clashes with those before it. -/
theorem check_eq_error_iff (x : Setup) {f : SetupFault} : x.check = .error f ↔
    ∃ before d after, x.devices = before ++ d :: after ∧ Unambiguous before ∧
      Clashes before d ∧ f = clash d := by
  have hbefore (before : List Device) : checkFrom [] before = .ok () ↔ Unambiguous before :=
    check_eq_ok_iff { x with devices := before }
  rw [check, checkFrom_eq_error_iff]
  simp only [hbefore, List.append_nil, Clashes]

/-! ## The devices -/

section

variable {x : Setup}

theorem last?_eq_find? (h : Unambiguous x.devices) (id : UInt32) : x.last? id = x.find? id :=
  (find?_eq_of_perm x.devices.reverse_perm.symm h.nodup id).symm

theorem find?_eq_of_devices_perm (h : Unambiguous x.devices) {ds : List Device}
    (hperm : ds.Perm x.devices) (id : UInt32) : { x with devices := ds }.find? id = x.find? id :=
  (find?_eq_of_perm hperm.symm h.nodup id).symm

/-- Where ids are distinct it does not matter whether the first or the last entry counts. -/
theorem lookup_deviceMap_of_unambiguous (h : Unambiguous x.devices) (required : List UInt32)
    (id : UInt32) : (x.deviceMap required).1.lookup id =
      (x.find? id).or (if id ∈ required then x.default? id else none) := by
  rw [lookup_deviceMap, last?_eq_find? h]

end

/-- A setup passes the check if no id is 0 or occurs twice, and else the first device that clashes
with an earlier one is reported.  In a setup that passes, the device of an id is the one that is
found under it, or a default device if there is none but the id is required.  The order of the
devices has no influence on any of this. -/
theorem check_leaves_one_device (x : Setup) :
    (x.check = .ok () ↔ Unambiguous x.devices) ∧
    (∀ f, x.check = .error f ↔ ∃ before d after, x.devices = before ++ d :: after ∧
      Unambiguous before ∧ Clashes before d ∧ f = clash d) ∧
    (∀ ds, ds.Perm x.devices →
      ({ x with devices := ds }.check = .ok () ↔ x.check = .ok ())) ∧
    (x.check = .ok () → ∀ required id,
      (x.deviceMap required).1.lookup id =
        (x.find? id).or (if id ∈ required then x.default? id else none) ∧
      ∀ ds, ds.Perm x.devices →
        { x with devices := ds }.find? id = x.find? id ∧
          ({ x with devices := ds }.deviceMap required).1.lookup id =
            (x.deviceMap required).1.lookup id) := by
  refine ⟨x.check_eq_ok_iff, fun f ↦ x.check_eq_error_iff, fun ds hperm ↦ ?_, ?_⟩
  · rw [check_eq_ok_iff, check_eq_ok_iff]
    exact ⟨fun h ↦ h.of_perm hperm, fun h ↦ h.of_perm hperm.symm⟩
  · intro hok required id
    have h : Unambiguous x.devices := x.check_eq_ok_iff.mp hok
    refine ⟨lookup_deviceMap_of_unambiguous h required id, fun ds hperm ↦ ?_⟩
    have hds : Unambiguous ds := h.of_perm hperm.symm
    have hfind := find?_eq_of_devices_perm h hperm id
    refine ⟨hfind, ?_⟩
    rw [lookup_deviceMap_of_unambiguous hds, lookup_deviceMap_of_unambiguous h, hfind]
    rfl

/-- A workbench with a printer and a device that refuses to move; others are logged. -/
def bench : Setup where
  devices := [{ id := 7, kind := .print, lead := some "7: " },
    { id := 3, kind := .fail, failOn := some "move" }]
  defaultKind := some .log

theorem check_leaves_one_device_bench :
    bench.check = .ok () ∧ bench.devices.reverse.Perm bench.devices ∧
      (bench.deviceMap [3, 5]).1.lookup 7 = bench.find? 7 ∧
      (bench.deviceMap [3, 5]).1.lookup 5 = some { id := 5, kind := .log } ∧
      (bench.deviceMap [3, 5]).1.lookup 6 = none ∧
      { bench with devices := bench.devices.reverse }.check = .ok () ∧
      { bench with devices := bench.devices.reverse }.find? 3 = bench.find? 3 ∧
      ({ bench with devices := bench.devices.reverse }.deviceMap [3, 5]).1.lookup 3 =
        (bench.deviceMap [3, 5]).1.lookup 3 := by
  have hok : bench.check = .ok () := by decide
  have hperm : bench.devices.reverse.Perm bench.devices := bench.devices.reverse_perm
  obtain ⟨-, -, hcheck, hdevices⟩ := check_leaves_one_device bench
  obtain ⟨hseven, -⟩ := hdevices hok [3, 5] 7
  obtain ⟨hfive, -⟩ := hdevices hok [3, 5] 5
  obtain ⟨hsix, -⟩ := hdevices hok [3, 5] 6
  obtain ⟨-, hthree⟩ := hdevices hok [3, 5] 3
  exact ⟨hok, hperm, hseven, hfive, hsix, (hcheck _ hperm).mpr hok, hthree _ hperm⟩

end EventMachine.Setup
