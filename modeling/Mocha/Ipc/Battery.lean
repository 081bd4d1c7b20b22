import Mocha.Ipc.Frame
import Mocha.Lib.Run

/-! The battery thread (`battery_thread` of `drv.c`), which watches two cables and tells the modem of
changes. `status` starts at 0, and a failed `pread` leaves the byte of the last one. -/
namespace Mocha.Ipc
open Mocha.Lib

/-- `ril_cable_state` -/
inductive RilCableState
  | removed
  | inserted
deriving DecidableEq, Repr

/-- `ril_battery_state` -/
inductive RilBatteryState
  | chargingDisabled
  | charging
deriving DecidableEq, Repr

/-- The globals of the thread, its `status`, and the first byte of its buffer. -/
structure BatteryThread where
  batteryState : RilBatteryState
  usbCableState : RilCableState
  acCableState : RilCableState
  status : Int32
  buf : UInt8
deriving DecidableEq

/-- The buffer holds the last path, which starts with a `/`. -/
def BatteryThread.init : BatteryThread := ⟨.chargingDisabled, .removed, .removed, 0, 0x2F⟩

/-- What the reads of one round return, if they are made; `none` when one fails. -/
structure BatteryReadings where
  usbOnline : Option UInt8
  acOnline : Option UInt8
  battFullInterrupt : Option UInt8
deriving DecidableEq

inductive BatteryEffect
  | writeBattFullInterrupt
  | taChangeAp (status : Int32)
  | tmSendPacket (group type : UInt8)
deriving DecidableEq

/-- The branches for one cable, when its state changes. -/
def cableChange (cable : RilCableState) (b : UInt8) : Option (RilBatteryState × RilCableState × Int32) :=
  if b = 0x31 ∧ cable = .removed then some (.charging, .inserted, 1)
  else if b = 0x30 ∧ cable = .inserted then some (.chargingDisabled, .removed, 2)
  else none

def readUsb (s : BatteryThread) (usbOnline : Option UInt8) : BatteryThread :=
  let s := { s with buf := usbOnline.getD s.buf }
  match cableChange s.usbCableState s.buf with
  | some (battery, cable, status) =>
    { s with batteryState := battery, usbCableState := cable, status := status }
  | none => s

def readAc (s : BatteryThread) (acOnline : Option UInt8) : BatteryThread :=
  if s.status = 0 then
    let s := { s with buf := acOnline.getD s.buf }
    match cableChange s.acCableState s.buf with
    | some (battery, cable, status) =>
      { s with batteryState := battery, acCableState := cable, status := status }
    | none => s
  else s

/-- The interrupt is acknowledged with a `0`, for which the buffer is used. -/
def readBattFull (s : BatteryThread) (battFullInterrupt : Option UInt8) :
    BatteryThread × List BatteryEffect :=
  if s.status = 0 then
    let s := { s with buf := battFullInterrupt.getD s.buf }
    if s.buf = 0x31 then ({ s with status := 0xB, buf := 0x30 }, [.writeBattFullInterrupt]) else (s, [])
  else (s, [])

/-- The modem is told of a change. -/
def notifyModem (s : BatteryThread) : BatteryThread × List BatteryEffect :=
  if s.status ≠ 0 then ({ s with status := 0 }, [.taChangeAp s.status]) else (s, [])

/-- One iteration of `battery_thread`. -/
def batteryRound (s : BatteryThread) (r : BatteryReadings) : BatteryThread × List BatteryEffect :=
  let s := readUsb s r.usbOnline
  let s := readAc s r.acOnline
  let acknowledged := readBattFull s r.battFullInterrupt
  let told := notifyModem acknowledged.1
  (told.1, acknowledged.2 ++ told.2 ++ [.tmSendPacket 1 0xA])

/-- The iterations, with what they send and write. -/
def batteryStep : Step BatteryThread (BatteryReadings × List BatteryEffect) := Step.ofFun batteryRound

/-- The battery is being charged if and only if there is a cable. -/
def ChargesWithCable (s : BatteryThread) : Prop :=
  s.batteryState = .charging ↔ s.usbCableState = .inserted ∨ s.acCableState = .inserted

instance (s : BatteryThread) : Decidable (ChargesWithCable s) := inferInstanceAs (Decidable (_ ↔ _))

/-- No cable is taken out while the other one is there. -/
def KeepsOtherCable (s : BatteryThread) (a : BatteryReadings × List BatteryEffect) : Prop :=
  s.usbCableState = .inserted → s.acCableState = .inserted →
    a.1.usbOnline.getD s.buf ≠ 0x30 ∧ a.1.acOnline.getD (a.1.usbOnline.getD s.buf) ≠ 0x30

section

variable {s t : BatteryThread} {r : BatteryReadings}

/-- What a round does to the cables and the battery. -/
inductive CablesChange (s : BatteryThread) (r : BatteryReadings) (t : BatteryThread) : Prop
  | inserted (hcharging : t.batteryState = .charging)
      (hcable : t.usbCableState = .inserted ∨ t.acCableState = .inserted)
      (hchanged : s.usbCableState = .removed ∨ s.acCableState = .removed)
  | usbRemoved (hcharging : t.batteryState = .chargingDisabled) (hread : r.usbOnline.getD s.buf = 0x30)
      (hcable : s.usbCableState = .inserted) (husb : t.usbCableState = .removed)
      (hac : t.acCableState = s.acCableState)
  | acRemoved (hcharging : t.batteryState = .chargingDisabled)
      (hread : r.acOnline.getD (r.usbOnline.getD s.buf) = 0x30)
      (hcable : s.acCableState = .inserted) (hac : t.acCableState = .removed)
      (husb : t.usbCableState = s.usbCableState)
  | unchanged (hbattery : t.batteryState = s.batteryState) (husb : t.usbCableState = s.usbCableState)
      (hac : t.acCableState = s.acCableState)
      (hread : s.usbCableState = .inserted → s.acCableState = .inserted →
        r.usbOnline.getD s.buf ≠ 0x30 ∧ r.acOnline.getD (r.usbOnline.getD s.buf) ≠ 0x30)

theorem cableChange_cases (cable : RilCableState) (b : UInt8) :
    (b = 0x31 ∧ cable = .removed ∧ cableChange cable b = some (.charging, .inserted, 1)) ∨
      (b = 0x30 ∧ cable = .inserted ∧ cableChange cable b = some (.chargingDisabled, .removed, 2)) ∨
        ((cable = .inserted → b ≠ 0x30) ∧ cableChange cable b = none) := by
  unfold cableChange
  split_ifs with hinsert hremove
  · exact .inl ⟨hinsert.1, hinsert.2, rfl⟩
  · exact .inr (.inl ⟨hremove.1, hremove.2, rfl⟩)
  · exact .inr (.inr ⟨fun hcable hb => hremove ⟨hb, hcable⟩, rfl⟩)

theorem readAc_changed (h : s.status ≠ 0) (acOnline : Option UInt8) : readAc s acOnline = s := if_neg h

/-- The rest of a round leaves the cables and the battery. -/
theorem readBattFull_cables (s : BatteryThread) (battFullInterrupt : Option UInt8) :
    (readBattFull s battFullInterrupt).1.batteryState = s.batteryState ∧
      (readBattFull s battFullInterrupt).1.usbCableState = s.usbCableState ∧
        (readBattFull s battFullInterrupt).1.acCableState = s.acCableState := by
  unfold readBattFull
  dsimp only
  split_ifs <;> exact ⟨rfl, rfl, rfl⟩

theorem notifyModem_cables (s : BatteryThread) :
    (notifyModem s).1.batteryState = s.batteryState ∧
      (notifyModem s).1.usbCableState = s.usbCableState ∧
        (notifyModem s).1.acCableState = s.acCableState := by
  unfold notifyModem
  split_ifs <;> exact ⟨rfl, rfl, rfl⟩

theorem notifyModem_status (s : BatteryThread) : (notifyModem s).1.status = 0 := by
  unfold notifyModem
  split_ifs with h
  · rfl
  · exact not_not.mp h

/-- The cables are looked at in the first two parts of a round. -/
theorem cablesChange_read (hstatus : s.status = 0) (r : BatteryReadings) :
    CablesChange s r (readAc (readUsb s r.usbOnline) r.acOnline) := by
  unfold readUsb
  dsimp only
  rcases cableChange_cases s.usbCableState (r.usbOnline.getD s.buf) with
    ⟨hread, hcable, hchange⟩ | ⟨hread, hcable, hchange⟩ | ⟨husb, hchange⟩
  · rw [hchange]
    dsimp only
    rw [readAc_changed (by decide : (1 : Int32) ≠ 0)]
    exact .inserted rfl (.inl rfl) (.inl hcable)
  · rw [hchange]
    dsimp only
    rw [readAc_changed (by decide : (2 : Int32) ≠ 0)]
    exact .usbRemoved rfl hread hcable rfl rfl
  · rw [hchange]
    dsimp only
    unfold readAc
    rw [if_pos hstatus]
    dsimp only
    rcases cableChange_cases s.acCableState (r.acOnline.getD (r.usbOnline.getD s.buf)) with
      ⟨hread, hcable, hchange'⟩ | ⟨hread, hcable, hchange'⟩ | ⟨hac, hchange'⟩
    · rw [hchange']
      exact .inserted rfl (.inr rfl) (.inr hcable)
    · rw [hchange']
      exact .acRemoved rfl hread hcable rfl rfl
    · rw [hchange']
      exact .unchanged rfl rfl rfl fun hinserted hinserted' => ⟨husb hinserted, hac hinserted'⟩

theorem cablesChange_round (hstatus : s.status = 0) (r : BatteryReadings) :
    CablesChange s r (batteryRound s r).1 := by
  have hread := cablesChange_read hstatus r
  unfold batteryRound
  dsimp only
  generalize readAc (readUsb s r.usbOnline) r.acOnline = u at hread ⊢
  obtain ⟨hbattery₁, husb₁, hac₁⟩ := readBattFull_cables u r.battFullInterrupt
  obtain ⟨hbattery₂, husb₂, hac₂⟩ := notifyModem_cables (readBattFull u r.battFullInterrupt).1
  have hbattery'' := hbattery₂.trans hbattery₁
  have husb'' := husb₂.trans husb₁
  have hac'' := hac₂.trans hac₁
  cases hread with
  | inserted hcharging hcable hchanged =>
    exact .inserted (hbattery''.trans hcharging) (hcable.imp husb''.trans hac''.trans) hchanged
  | usbRemoved hcharging hread hcable husb hac =>
    exact .usbRemoved (hbattery''.trans hcharging) hread hcable (husb''.trans husb) (hac''.trans hac)
  | acRemoved hcharging hread hcable hac husb =>
    exact .acRemoved (hbattery''.trans hcharging) hread hcable (hac''.trans hac) (husb''.trans husb)
  | unchanged hbattery husb hac hread =>
    exact .unchanged (hbattery''.trans hbattery) (husb''.trans husb) (hac''.trans hac) hread

theorem batteryRound_status (s : BatteryThread) (r : BatteryReadings) : (batteryRound s r).1.status = 0 := by
  unfold batteryRound
  dsimp only
  rw [notifyModem_status]

/-- A round keeps the law exactly if it keeps the other cable. -/
theorem chargesWithCable_round (hstatus : s.status = 0) (hs : ChargesWithCable s) (r : BatteryReadings)
    (out : List BatteryEffect) :
    ChargesWithCable (batteryRound s r).1 ↔ KeepsOtherCable s (r, out) := by
  unfold ChargesWithCable KeepsOtherCable at *
  cases cablesChange_round hstatus r with
  | inserted hcharging hcable hchanged =>
    refine iff_of_true (iff_of_true hcharging hcable) fun husb hac => ?_
    rw [husb, hac] at hchanged
    exact nomatch hchanged
  | usbRemoved hcharging hread hcable husb hac =>
    rw [hcharging, husb, hac]
    simp [hread, hcable]
  | acRemoved hcharging hread hcable hac husb =>
    rw [hcharging, husb, hac]
    simp [hread, hcable]
  | unchanged hbattery husb hac hread =>
    rw [hbattery, husb, hac]
    exact iff_of_true hs hread

/-- **The battery is being charged with a cable and only then** in all of a run exactly if, in that run,
no cable is taken out while the other one is there. -/
theorem chargesWithCable_iff (tr : List (BatteryReadings × List BatteryEffect)) (t : BatteryThread) :
    (Run batteryStep .init tr t ∧
        ∀ tr₁ u, tr₁ <+: tr → Run batteryStep .init tr₁ u → ChargesWithCable u) ↔
      Run (batteryStep.when KeepsOtherCable) .init tr t := by
  refine Run.prefixes_iff (N := fun _ => True) (I := fun _ s => s.status = 0 ∧ ChargesWithCable s)
    (P := fun _ s => ChargesWithCable s) ?_ (fun _ _ _ h => h) ⟨rfl, by decide⟩ ?_ ?_ ?_ trivial
  · intro s a t t' h h'
    exact Step.ofFun_deterministic h h'
  · rintro tr u ⟨r, out⟩ v - ⟨hstatus, hu⟩ hkeeps hstep
    obtain rfl : (batteryRound u r).1 = v := congrArg Prod.fst hstep
    exact ⟨batteryRound_status u r, (chargesWithCable_round hstatus hu r out).mpr hkeeps⟩
  · intro tr u _ hinv
    exact hinv.2
  · rintro tr u ⟨r, out⟩ v - ⟨hstatus, hu⟩ hstep hafter
    obtain rfl : (batteryRound u r).1 = v := congrArg Prod.fst hstep
    exact (chargesWithCable_round hstatus hu r out).mp hafter

/-- Both cables come, and the first one goes. -/
theorem not_chargesWithCable_both :
    ¬∀ (tr : List (BatteryReadings × List BatteryEffect)) (s : BatteryThread),
      Run batteryStep .init tr s → ChargesWithCable s := by
  intro h
  let rounds : List BatteryReadings :=
    [⟨some 0x31, none, none⟩, ⟨some 0x31, some 0x31, none⟩, ⟨some 0x30, none, none⟩]
  exact absurd (h _ _ (Run.exec batteryRound .init rounds)) (by decide)

end

end Mocha.Ipc
