import Aqualink.EquipmentCache.Snapshot

/-!
# The cache round trip

What is written of a hub and applied to an empty one comes back: the devices that have a label,
a pump of the label of the filter pump as what it is, and the configuration and the board.  A
device is taken for one that is there if they have the same type and label, so two such devices
come back as one.  Applying the same document again changes nothing.
-/

namespace AqualinkAutomate.EquipmentCache

open General Hub List Option
open Equipment (Uuid BodyOfWaterIds AuxillaryTypes)

variable {τ : Type*} {reader : UuidReader} {randoms : ℕ → Uuid} {hub empty : EquipmentHub τ}
variable {device other : AuxillaryDevice} {devices : List AuxillaryDevice}

/-! ## One device -/

theorem text?_snapshotFields {key : String} {text : Option String}
    (h : (key, text.map Json.string) ∈ snapshotFields device) :
    (Json.ofPresent (snapshotFields device)).text? key = text := by
  have hkeys : ((snapshotFields device).map Prod.fst).Nodup := by
    simp [snapshotFields]
  exact Json.text?_of_member (Json.member_ofPresent hkeys h)

theorem bind_enumCast_snapshotFields {α : Type} [EnumNames α] {key : String} {value : Option α}
    (h : (key, value.map fun value => Json.string (enumName value)) ∈ snapshotFields device) :
    ((Json.ofPresent (snapshotFields device)).text? key).bind enumCast = value := by
  have htext : (Json.ofPresent (snapshotFields device)).text? key = value.map enumName := by
    refine text?_snapshotFields ?_
    rwa [Option.map_map]
  rw [htext]
  cases value with
  | none => rfl
  | some value => exact enumCast_enumName value

def clash (existing device : AuxillaryDevice) : Bool :=
  existing.id == device.id || existing.equals device

/-- What is restored of a device that was written. -/
def recollect (hub : EquipmentHub τ) (device : AuxillaryDevice) : EquipmentHub τ :=
  if device.label.isSome then { hub with devices := insertAbsent clash hub.devices device }
  else hub

theorem restoreDevice_snapshotFields (random : Uuid) :
    restoreDevice reader hub random (.ofPresent (snapshotFields device)) =
      recollect hub device := by
  have hlabel : (Json.ofPresent (snapshotFields device)).text? "label" = device.label :=
    text?_snapshotFields (by simp [snapshotFields])
  have hid : (Json.ofPresent (snapshotFields device)).text? "id" = some device.id.toText :=
    text?_snapshotFields (by simp [snapshotFields])
  have hhardware : (Json.ofPresent (snapshotFields device)).text? "hardware_id" =
      device.hardwareLabel :=
    text?_snapshotFields (by simp [snapshotFields])
  have htype : ((Json.ofPresent (snapshotFields device)).text? "type").bind enumCast =
      device.type :=
    bind_enumCast_snapshotFields (by simp [snapshotFields])
  have hbody : ((Json.ofPresent (snapshotFields device)).text? "body_of_water").bind enumCast =
      device.bodyOfWater :=
    bind_enumCast_snapshotFields (by simp [snapshotFields])
  have hpump : ((Json.ofPresent (snapshotFields device)).text? "pump_type").bind enumCast =
      device.pumpType :=
    bind_enumCast_snapshotFields (by simp [snapshotFields])
  unfold restoreDevice recollect
  rw [hlabel, hid, hhardware, htype, hbody, hpump]
  cases hsome : device.label with
  | none => rfl
  | some label =>
    have hfound : (hub.findById device.id).isSome =
        hub.devices.any fun existing => existing.id == device.id := isSome_find?
    have hinsert : insertAbsent clash hub.devices device =
        if hub.devices.any fun existing => existing.id == device.id then hub.devices
        else insertAbsent AuxillaryDevice.equals hub.devices device := insertAbsent_or
    have hdevice : { device with label := some label } = device := by rw [← hsome]
    rw [bind_some, reader.parse_toText, if_pos isSome_some, hinsert]
    change (if (hub.findById device.id).isSome then hub
      else hub.add { device with label := some label }) = _
    rw [hdevice, hfound]
    by_cases hpresent : (hub.devices.any fun existing => existing.id == device.id)
    · rw [if_pos hpresent, if_pos hpresent]
    · rw [if_neg hpresent, if_neg hpresent]
      rfl

/-! ## All the devices -/

/-- The devices that are written and accepted back. -/
def recallable (hub : EquipmentHub τ) : List AuxillaryDevice :=
  (hub.devices.filter AuxillaryDevice.isPersisted).filter fun device => device.label.isSome

theorem foldl_recall (devices : List AuxillaryDevice) :
    devices.foldl recollect hub =
      { hub with
        devices := (devices.filter fun device => device.label.isSome).foldl (insertAbsent clash)
          hub.devices } := by
  induction devices generalizing hub with
  | nil => rfl
  | cons device devices ih =>
    rw [foldl_cons, ih, recollect, filter_cons]
    split <;> rfl

theorem foldl_restoreDevice (devices : List AuxillaryDevice) (start : ℕ) :
    ((devices.map fun device => Json.ofPresent (snapshotFields device)).zipIdx start).foldl
        (fun hub item => restoreDevice reader hub (randoms item.2) item.1) hub =
      devices.foldl recollect hub := by
  induction devices generalizing hub start with
  | nil => rfl
  | cons device devices ih =>
    rw [map_cons, zipIdx_cons, foldl_cons, foldl_cons, restoreDevice_snapshotFields]
    exact ih (start + 1)

theorem devices_applyConfigurationFromSnapshot (json : Json) :
    (applyConfigurationFromSnapshot hub json).devices = hub.devices := by
  unfold applyConfigurationFromSnapshot
  dsimp only
  split <;> split <;> (try split) <;> (try split) <;> rfl

theorem applySnapshot_snapshot :
    applySnapshot reader randoms empty (snapshot hub) =
      { applyConfigurationFromSnapshot empty (snapshot hub) with
        devices := ((recallable hub).foldl (insertAbsent clash) empty.devices).map
          AuxillaryDevice.adopt } := by
  change (foldl _ (applyConfigurationFromSnapshot empty (snapshot hub))
    (zipIdx _ 0)).adoptUntypedFilterPumps = _
  rw [foldl_restoreDevice, foldl_recall, devices_applyConfigurationFromSnapshot]
  rfl

/-! ## The configuration and the board -/

/-- What is known already stays. -/
theorem applyConfigurationFromSnapshot_snapshot :
    applyConfigurationFromSnapshot empty (snapshot hub) =
      { empty with
        toDataHub :=
          if hub.poolConfiguration ≠ .unknown ∧ empty.poolConfiguration = .unknown then
            empty.applyPoolConfiguration hub.poolConfiguration .auto .pool
          else empty.toDataHub
        systemBoard :=
          if hub.systemBoard ≠ .unknown ∧ empty.systemBoard = .unknown then hub.systemBoard
          else empty.systemBoard } := by
  have hpool : (snapshot hub).text? "pool_configuration" =
      some (enumName hub.poolConfiguration) := rfl
  have hboard : (snapshot hub).text? "system_board" = some (enumName hub.systemBoard) := rfl
  unfold applyConfigurationFromSnapshot
  rw [hpool, hboard, bind_some, bind_some, enumCast_enumName, enumCast_enumName]
  dsimp only
  by_cases hpool : hub.poolConfiguration ≠ .unknown ∧ empty.poolConfiguration = .unknown
  · rw [if_pos hpool, if_pos hpool]
    dsimp only
    split <;> rfl
  · rw [if_neg hpool, if_neg hpool]
    split <;> rfl

theorem applyConfigurationFromSnapshot_of_known
    (hpool : hub.poolConfiguration = .unknown ∨ empty.poolConfiguration ≠ .unknown)
    (hboard : hub.systemBoard = .unknown ∨ empty.systemBoard ≠ .unknown) :
    applyConfigurationFromSnapshot empty (snapshot hub) = empty := by
  rw [applyConfigurationFromSnapshot_snapshot, if_neg (by tauto), if_neg (by tauto)]

theorem poolConfiguration_applyConfigurationFromSnapshot (h : empty.poolConfiguration = .unknown) :
    (applyConfigurationFromSnapshot empty (snapshot hub)).poolConfiguration =
      hub.poolConfiguration := by
  rw [applyConfigurationFromSnapshot_snapshot]
  split
  next => exact DataHub.poolConfiguration_applyPoolConfiguration _ _ _
  next hknown =>
    have hunknown : hub.poolConfiguration = .unknown := by tauto
    exact h.trans hunknown.symm

theorem systemBoard_applyConfigurationFromSnapshot (h : empty.systemBoard = .unknown) :
    (applyConfigurationFromSnapshot empty (snapshot hub)).systemBoard = hub.systemBoard := by
  rw [applyConfigurationFromSnapshot_snapshot]
  dsimp only
  split
  next => rfl
  next hknown =>
    have hunknown : hub.systemBoard = .unknown := by tauto
    exact h.trans hunknown.symm

/-! ## Written and applied -/

@[simp] theorem type_adopt : device.adopt.type = device.type := by
  unfold AuxillaryDevice.adopt
  split <;> rfl

@[simp] theorem label_adopt : device.adopt.label = device.label := by
  unfold AuxillaryDevice.adopt
  split <;> rfl

@[simp] theorem id_adopt : device.adopt.id = device.id := by
  unfold AuxillaryDevice.adopt
  split <;> rfl

@[simp] theorem hardwareLabel_adopt : device.adopt.hardwareLabel = device.hardwareLabel := by
  unfold AuxillaryDevice.adopt
  split <;> rfl

theorem isPersisted_adopt : device.adopt.isPersisted = device.isPersisted := by
  simp [AuxillaryDevice.isPersisted]

theorem clash_adopt : clash device.adopt other = clash device other := by
  simp [clash, AuxillaryDevice.equals]

theorem adopt_adopt : device.adopt.adopt = device.adopt := by
  by_cases h : device.isUntypedFilterPump
  · have hadopted : device.adopt = { device with pumpType := some .filterCirculation } := if_pos h
    rw [hadopted]
    exact if_neg (by simp [AuxillaryDevice.isUntypedFilterPump])
  · have hself : device.adopt = device := if_neg h
    rw [hself, hself]

theorem clash_self : clash device device := by
  simp [clash]

/-- The hub as its document tells it: the devices with a label, and a pump of the label of the
filter pump as what it is. -/
def recalled (hub : EquipmentHub τ) : EquipmentHub τ :=
  { hub with devices := (recallable hub).map AuxillaryDevice.adopt }

def NoTwins (hub : EquipmentHub τ) : Prop :=
  (recallable hub).Pairwise fun first second =>
    ¬ (first.type = second.type ∧ first.label = second.label)

theorem exists_of_mem_recallable (h : device ∈ recallable hub) :
    ∃ type label, device.type = some type ∧ device.label = some label := by
  obtain ⟨hpersisted, hlabel⟩ := List.mem_filter.mp h
  obtain ⟨label, hlabel⟩ := Option.isSome_iff_exists.mp hlabel
  have hkept := (List.mem_filter.mp hpersisted).2
  unfold AuxillaryDevice.isPersisted at hkept
  split at hkept
  next type htype => exact ⟨type, label, htype, hlabel⟩
  next => cases hkept

theorem pairwise_clash_recallable (hids : (hub.devices.map AuxillaryDevice.id).Nodup)
    (htwins : NoTwins hub) :
    (recallable hub).Pairwise fun first second => clash first second = false := by
  have hsublist : (recallable hub).Sublist hub.devices :=
    List.filter_sublist.trans filter_sublist
  have hdistinct : (recallable hub).Pairwise fun first second => first.id ≠ second.id :=
    (List.pairwise_map.mp hids).sublist hsublist
  refine (hdistinct.and htwins).imp_of_mem fun {first second} hfirst hsecond h => ?_
  obtain ⟨type, label, htype, hlabel⟩ := exists_of_mem_recallable hfirst
  obtain ⟨otherType, otherLabel, hotherType, hotherLabel⟩ := exists_of_mem_recallable hsecond
  have hapart : ¬ (type = otherType ∧ label = otherLabel) := by
    simpa [htype, hlabel, hotherType, hotherLabel] using h.2
  simpa [clash, AuxillaryDevice.equals, htype, hlabel, hotherType, hotherLabel, h.1] using hapart

theorem devices_applySnapshot (hids : (hub.devices.map AuxillaryDevice.id).Nodup)
    (htwins : NoTwins hub) (hempty : empty.devices = []) :
    (applySnapshot reader randoms empty (snapshot hub)).devices = (recalled hub).devices := by
  have hfold : (recallable hub).foldl (insertAbsent clash) [] = [] ++ recallable hub :=
    foldl_insertAbsent_of_pairwise (pairwise_clash_recallable hids htwins)
  rw [applySnapshot_snapshot, hempty]
  exact congrArg (List.map AuxillaryDevice.adopt) hfold

theorem filter_isPersisted_recalled :
    (recalled hub).devices.filter AuxillaryDevice.isPersisted = (recalled hub).devices := by
  rw [filter_eq_self]
  intro device hdevice
  obtain ⟨source, hsource, rfl⟩ := List.mem_map.mp hdevice
  rw [isPersisted_adopt]
  exact (List.mem_filter.mp (List.mem_filter.mp hsource).1).2

theorem poolConfiguration_applySnapshot (h : empty.poolConfiguration = .unknown) :
    (applySnapshot reader randoms empty (snapshot hub)).poolConfiguration =
      hub.poolConfiguration := by
  rw [applySnapshot_snapshot]
  exact poolConfiguration_applyConfigurationFromSnapshot h

theorem systemBoard_applySnapshot (h : empty.systemBoard = .unknown) :
    (applySnapshot reader randoms empty (snapshot hub)).systemBoard = hub.systemBoard := by
  rw [applySnapshot_snapshot]
  exact systemBoard_applyConfigurationFromSnapshot h

/-- Applying a document again changes nothing. -/
theorem applySnapshot_again (randoms randoms' : ℕ → Uuid) (hub : EquipmentHub τ)
    (hpool : empty.poolConfiguration = .unknown) (hboard : empty.systemBoard = .unknown) :
    applySnapshot reader randoms' (applySnapshot reader randoms empty (snapshot hub))
        (snapshot hub) =
      applySnapshot reader randoms empty (snapshot hub) := by
  set restored := applySnapshot reader randoms empty (snapshot hub) with hrestored
  have hconfig : applyConfigurationFromSnapshot restored (snapshot hub) = restored := by
    refine applyConfigurationFromSnapshot_of_known ?_ ?_
    · rw [hrestored, poolConfiguration_applySnapshot hpool]
      exact em _
    · rw [hrestored, systemBoard_applySnapshot hboard]
      exact em _
  have hdevices : restored.devices =
      ((recallable hub).foldl (insertAbsent clash) empty.devices).map AuxillaryDevice.adopt := by
    rw [hrestored, applySnapshot_snapshot]
  have hagain : ((recallable hub).foldl (insertAbsent clash) restored.devices).map
      AuxillaryDevice.adopt = restored.devices := by
    rw [hdevices, foldl_insertAbsent_again (fun _ => clash_self) (fun _ _ => clash_adopt),
      List.map_map]
    exact map_congr_left fun device _ => adopt_adopt
  rw [applySnapshot_snapshot, hconfig, hagain]

theorem snapshot_applySnapshot_eq (hids : (hub.devices.map AuxillaryDevice.id).Nodup)
    (htwins : NoTwins hub) :
    snapshot (applySnapshot reader randoms ({} : EquipmentHub τ) (snapshot hub)) =
      snapshot (recalled hub) := by
  have hdevices : (applySnapshot reader randoms ({} : EquipmentHub τ) (snapshot hub)).devices =
      (recalled hub).devices := devices_applySnapshot hids htwins rfl
  have hpool : (applySnapshot reader randoms ({} : EquipmentHub τ)
      (snapshot hub)).poolConfiguration = hub.poolConfiguration :=
    poolConfiguration_applySnapshot rfl
  have hboard : (applySnapshot reader randoms ({} : EquipmentHub τ) (snapshot hub)).systemBoard =
      hub.systemBoard := systemBoard_applySnapshot rfl
  rw [snapshot, hdevices, hpool, hboard]
  rfl

theorem snapshot_recalled
    (h : ∀ device ∈ hub.devices, device.isPersisted →
      device.label.isSome ∧ device.isUntypedFilterPump = false) :
    snapshot (recalled hub) = snapshot hub := by
  have hkept : recallable hub = hub.devices.filter AuxillaryDevice.isPersisted := by
    refine List.filter_eq_self.mpr fun device hdevice => ?_
    obtain ⟨hmem, hpersisted⟩ := List.mem_filter.mp hdevice
    exact (h device hmem hpersisted).1
  have hadopted : (recallable hub).map AuxillaryDevice.adopt = recallable hub := by
    rw [hkept]
    refine (map_congr_left fun device hdevice => ?_).trans (List.map_id _)
    obtain ⟨hmem, hpersisted⟩ := List.mem_filter.mp hdevice
    refine if_neg ?_
    rw [(h device hmem hpersisted).2]
    exact Bool.false_ne_true
  have hdevices : (recalled hub).devices.filter AuxillaryDevice.isPersisted =
      hub.devices.filter AuxillaryDevice.isPersisted := by
    rwa [filter_isPersisted_recalled, ← hkept]
  rw [snapshot, hdevices]
  rfl

/-! ## A reader of what is written -/

def hexValue (digit : Char) : Option UInt8 :=
  let value := "0123456789abcdef".toList.idxOf digit
  if value < 16 then some (UInt8.ofNat value) else none

def unhex : List Char → Option (List UInt8)
  | [] => some []
  | high :: low :: rest =>
    (hexValue high).bind fun highValue => (hexValue low).bind fun lowValue =>
      (unhex rest).map fun bytes => (highValue <<< 4 ||| lowValue) :: bytes
  | [_] => none

theorem unhex_byteHex_append (byte : UInt8) (rest : List Char) :
    unhex (Auth.byteHex byte ++ rest) = (unhex rest).map fun bytes => byte :: bytes := by
  have hall : ∀ n : Fin 256,
      hexValue (Auth.hexDigit (UInt8.ofNat n >>> 4)) = some (UInt8.ofNat n >>> 4) ∧
      hexValue (Auth.hexDigit (UInt8.ofNat n &&& 0x0F)) = some (UInt8.ofNat n &&& 0x0F) ∧
      (UInt8.ofNat n >>> 4) <<< 4 ||| (UInt8.ofNat n &&& 0x0F) = UInt8.ofNat n := by
    decide +kernel
  obtain ⟨hhigh, hlow, hbyte⟩ := hall ⟨byte.toNat, byte.toNat_lt⟩
  simp only [UInt8.ofNat_toNat] at hhigh hlow hbyte
  change ((hexValue (Auth.hexDigit (byte >>> 4))).bind fun highValue =>
    (hexValue (Auth.hexDigit (byte &&& 0x0F))).bind fun lowValue => _) = _
  rw [hhigh, hlow, bind_some, bind_some, hbyte]
  rfl

theorem unhex_hex (bytes : List UInt8) : unhex (bytes.flatMap Auth.byteHex) = some bytes := by
  induction bytes with
  | nil => rfl
  | cons byte bytes ih => rw [flatMap_cons, unhex_byteHex_append, ih, map_some]

def lenientReader : UuidReader where
  parse text :=
    (unhex (text.toList.filter (· != '-'))).bind fun bytes =>
      if h : bytes.length = 16 then some ⟨bytes.toArray, h⟩ else none
  parse_toText id := by
    rw [id.filter_dash_toText, Equipment.toList_hex, unhex_hex, bind_some, dif_pos id.length_toList]
    rfl

/-! ## The round trip -/

def twoDevices (pumpType : Option PumpTypes) : EquipmentHub ℕ where
  poolConfiguration := .dualBodySharedEquipment
  systemBoard := .rs8Combo
  devices :=
    [{ id := Vector.replicate 16 1, label := some "Filter Pump", type := some .pump, pumpType },
      { id := Vector.replicate 16 2, label := some "Pool Light", type := some .light,
        bodyOfWater := some .pool, hardwareLabel := some "Aux1" }]

def firstPumpType (json : Json) : Option String :=
  match json.member "devices" with
  | some (.array (first :: _)) => first.text? "pump_type"
  | _ => none

theorem nodup_twoDevices (pumpType : Option PumpTypes) :
    ((twoDevices pumpType).devices.map AuxillaryDevice.id).Nodup := by
  change [Vector.replicate 16 (1 : UInt8), Vector.replicate 16 2].Nodup
  decide

theorem noTwins_twoDevices (pumpType : Option PumpTypes) : NoTwins (twoDevices pumpType) := by
  change List.Pairwise _ [_, _]
  refine List.pairwise_pair.mpr ?_
  rintro ⟨htype, -⟩
  cases htype

/-- What is written of a hub and applied to an empty one is written the same again, unless two
devices have the same type and label: a device without a label is left out, and a pump of the
label of the filter pump has its role.  Applying it again changes nothing. -/
theorem snapshot_applySnapshot (reader : UuidReader) (randoms randoms' : ℕ → Uuid)
    (hub : EquipmentHub τ) (hids : (hub.devices.map AuxillaryDevice.id).Nodup) :
    (NoTwins hub →
      snapshot (applySnapshot reader randoms ({} : EquipmentHub τ) (snapshot hub)) =
        snapshot (recalled hub)) ∧
    ((∀ device ∈ hub.devices, device.isPersisted →
        device.label.isSome ∧ device.isUntypedFilterPump = false) →
      snapshot (recalled hub) = snapshot hub) ∧
    applySnapshot reader randoms' (applySnapshot reader randoms ({} : EquipmentHub τ)
        (snapshot hub)) (snapshot hub) =
      applySnapshot reader randoms {} (snapshot hub) :=
  ⟨snapshot_applySnapshot_eq hids, snapshot_recalled,
    applySnapshot_again randoms randoms' hub rfl rfl⟩

theorem snapshot_applySnapshot_twoDevices :
    snapshot (applySnapshot lenientReader (fun _ => Vector.replicate 16 0)
        ({} : EquipmentHub ℕ) (snapshot (twoDevices (some .filterCirculation)))) =
      snapshot (twoDevices (some .filterCirculation)) := by
  obtain ⟨hrestored, hsame, -⟩ := snapshot_applySnapshot lenientReader
    (fun _ => Vector.replicate 16 0) (fun _ => Vector.replicate 16 0)
    (twoDevices (some .filterCirculation)) (nodup_twoDevices _)
  exact (hrestored (noTwins_twoDevices _)).trans (hsame (by decide))

/-- A filter pump without its role comes back with it. -/
theorem snapshot_untypedFilterPump :
    ¬ ∀ (reader : UuidReader) (randoms : ℕ → Uuid) (hub : EquipmentHub ℕ),
      (hub.devices.map AuxillaryDevice.id).Nodup →
        snapshot (applySnapshot reader randoms ({} : EquipmentHub ℕ) (snapshot hub)) =
          snapshot hub := by
  intro h
  have hsame := h lenientReader (fun _ => Vector.replicate 16 0) (twoDevices none)
    (nodup_twoDevices none)
  rw [snapshot_applySnapshot_eq (nodup_twoDevices none) (noTwins_twoDevices none)] at hsame
  have hpump := congrArg firstPumpType hsame
  revert hpump
  decide +kernel

end AqualinkAutomate.EquipmentCache
