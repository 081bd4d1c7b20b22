import Mocha.Ipc.Frame
import Mocha.Ril.DeliverOps
import Mocha.Ril.Nmea

/-! Positions from the modem (`ipc_lbs_get_position_ind` of `gps.c`, `lbsGetPositionInd` of `lbs.h`), and
what the client for the GPS is sent for one. The sizes in the messages are left out. -/
namespace Mocha.Ril
open Mocha.Lib.StringOp

/-- What is done with floating-point numbers: `D` are the values of `double`, `F` those of `float`. -/
structure FloatOps (D F : Type) where
  ofUInt : ℕ → F
  ofDouble : D → F
  isZero : D → Bool
  metresPerSecond : D → F
  /-- A tenth with the format `%.1f` -/
  formatDop : UInt32 → CString
  formatDop_ne_zero : ∀ dop, 0 ∉ formatDop dop
  formatDop_length : ∀ dop, (formatDop dop).length ≤ 11

/-- `MAX_NUM_OF_SAT`, and the length of `sv_list`. -/
def maxNumOfSat : ℕ := 32

structure SatelliteInfo where
  prn : UInt16
  elevation : UInt16
  azimuth : UInt32
  snr : UInt32
deriving DecidableEq

/-- `lbsGetPositionInd`: the members that are read. -/
structure LbsGetPositionInd (D F : Type) where
  latitude : D
  longitude : D
  hAccuracy : F
  altitude : D
  heading : D
  speed : D
  timestamp : UInt32
  lbsPositionDataType : UInt32
  numOfSatToFix : UInt8
  satIdtoFix : List.Vector UInt8 15
  pdop : UInt32
  hdop : UInt32
  vdop : UInt32
  numOfSatInView : UInt32
  satInfo : List.Vector SatelliteInfo maxNumOfSat

/-- `LBS_POSITION_DATA_NEW` -/
def lbsPositionDataNew : UInt32 := 2

structure GpsSvInfo (F : Type) where
  prn : UInt16
  snr : F
  elevation : F
  azimuth : F

/-- `GpsSvStatus`: the members that are set. -/
structure GpsSvStatus (F : Type) where
  numSvs : Int32
  svList : List (GpsSvInfo F)
  usedInFixMask : UInt32

inductive GpsLocationFlag
  | hasLatLong
  | hasAltitude
  | hasSpeed
  | hasBearing
  | hasAccuracy
deriving DecidableEq, Repr

structure GpsLocation (D F : Type) where
  flags : List GpsLocationFlag
  latitude : D
  longitude : D
  altitude : D
  speed : F
  bearing : F
  accuracy : F
  timestamp : ℤ

/-- `NMEA_SENTENCE_MAX_LENGTH` -/
def nmeaSentenceMaxLength : ℕ := 200

structure GpsNmea where
  timestamp : ℤ
  nmea : List UInt8
  length : ℤ
deriving DecidableEq

/-- Calls of `srs_send` for the client of the GPS. -/
inductive GpsSend (D F : Type)
  | svStatus (status : GpsSvStatus F)
  | location (location : GpsLocation D F)
  | nmea (nmea : GpsNmea)

section Program

variable {D F : Type} (fp : FloatOps D F)

def svInfo (sat : SatelliteInfo) : GpsSvInfo F where
  prn := sat.prn
  snr := fp.ofUInt (sat.snr / 10).toNat
  elevation := fp.ofUInt sat.elevation.toNat
  azimuth := fp.ofUInt sat.azimuth.toNat

/-- The entries after the `memset`. -/
def svListInit : List (GpsSvInfo F) :=
  List.replicate maxNumOfSat ⟨0, fp.ofUInt 0, fp.ofUInt 0, fp.ofUInt 0⟩

/-- The loop over the satellites in view; there is no result outside one of the arrays. -/
def fillSvList (satInfo : List SatelliteInfo) (n : ℕ) (svList : List (GpsSvInfo F)) :
    Option (List (GpsSvInfo F)) :=
  (List.range n).foldlM (fun svList i => do
    let sat ← satInfo[i]?
    if i < svList.length then some (svList.set i (svInfo fp sat)) else none) svList

/-- The loop over the satellites of the fix; there is no result outside the array, and none for a shift
outside the word. -/
def fixMask (satIdtoFix : List UInt8) (n : ℕ) : Option UInt32 :=
  (List.range n).foldlM (fun mask i => do
    let id ← satIdtoFix[i]?
    let shift : ℤ := id.toNat - 1
    if 0 ≤ shift ∧ shift < 32 then some (mask ||| 1 <<< UInt32.ofNat shift.toNat) else none) 0

def svStatus (ind : LbsGetPositionInd D F) : Option (GpsSvStatus F) := do
  let svList ← fillSvList fp ind.satInfo.toList ind.numOfSatInView.toNat (svListInit fp)
  let usedInFixMask ← fixMask ind.satIdtoFix.toList ind.numOfSatToFix.toNat
  return ⟨ind.numOfSatInView.toInt32, svList, usedInFixMask⟩

/-- GPS time in milliseconds since 1/1/1970. -/
def epochTime (timestamp : UInt32) : ℤ := (timestamp.toNat + 315964800) * 1000

def gpsLocation (ind : LbsGetPositionInd D F) : GpsLocation D F where
  flags := [.hasLatLong, .hasAltitude, .hasSpeed, .hasBearing, .hasAccuracy]
  latitude := ind.latitude
  longitude := ind.longitude
  altitude := ind.altitude
  speed := fp.metresPerSecond ind.speed
  bearing := fp.ofDouble ind.heading
  accuracy := ind.hAccuracy
  timestamp := epochTime ind.timestamp

/-- Why no sentence is sent: an access outside the array, or a text that does not fit. -/
inductive NmeaStop
  | undefined
  | formatting
deriving DecidableEq, Repr

/-- The array of the sentence, `pMarker` and `lengthRemaining`. -/
structure NmeaCursor where
  nmea : List UInt8
  pMarker : ℕ
  lengthRemaining : ℤ

/-- One call of `snprintf`, and the check of its result. -/
def NmeaCursor.print (c : NmeaCursor) (t : CString) : Except NmeaStop NmeaCursor :=
  match snprintf c.nmea c.pMarker (c.lengthRemaining % 2 ^ 32).toNat t with
  | none => .error .undefined
  | some (nmea, length) =>
    if length < 0 ∨ c.lengthRemaining ≤ length then .error .formatting
    else .ok ⟨nmea, c.pMarker + length.toNat, c.lengthRemaining - length⟩

def fixType (ind : LbsGetPositionInd D F) : CString :=
  if fp.isZero ind.altitude then cString "2" else cString "3"

/-- The place of one satellite in the sentence. -/
def fixField (ind : LbsGetPositionInd D F) (i : Fin 12) : CString :=
  if i.val < ind.numOfSatToFix.toNat then
    format02d (ind.satIdtoFix.get (i.castLE (by decide))).toNat ++ cString ","
  else cString ","

def dopFields (ind : LbsGetPositionInd D F) : CString :=
  if 0 < ind.pdop ∧ 0 < ind.hdop ∧ 0 < ind.vdop then
    fp.formatDop ind.pdop ++ cString "," ++ fp.formatDop ind.hdop ++ cString "," ++
      fp.formatDop ind.vdop
  else cString ",,"

/-- `$GPGSA`; the result of the last `snprintf` is not looked at. -/
def gpgsa (fresh : List.Vector UInt8 nmeaSentenceMaxLength) (ind : LbsGetPositionInd D F) :
    Except NmeaStop GpsNmea := do
  let start : NmeaCursor := ⟨fresh.toList, 0, nmeaSentenceMaxLength⟩
  let c ← start.print (cString "$GPGSA,A," ++ fixType fp ind ++ cString ",")
  let c ← (List.finRange 12).foldlM (fun c i => c.print (fixField ind i)) c
  match snprintf c.nmea c.pMarker (c.lengthRemaining % 2 ^ 32).toNat (dopFields fp ind) with
  | none => .error .undefined
  | some (nmea, _) =>
    match nmeaPutChecksum nmea 200 with
    | none => .error .undefined
    | some (nmea, length) => .ok ⟨epochTime ind.timestamp, nmea, length⟩

/-- `ipc_lbs_get_position_ind`; `fresh` is what the array of the sentence holds at first. -/
def ipcLbsGetPositionInd (fresh : List.Vector UInt8 nmeaSentenceMaxLength)
    (ind : LbsGetPositionInd D F) : Option (List (GpsSend D F)) := do
  let status ← svStatus fp ind
  if ind.lbsPositionDataType = lbsPositionDataNew then
    match gpgsa fp fresh ind with
    | .error .undefined => none
    | .error .formatting => some [.svStatus status, .location (gpsLocation fp ind)]
    | .ok nmea => some [.svStatus status, .location (gpsLocation fp ind), .nmea nmea]
  else some [.svStatus status]

/-- The satellites of the fix. -/
def LbsGetPositionInd.fixList (ind : LbsGetPositionInd D F) : List UInt8 :=
  ind.satIdtoFix.toList.take ind.numOfSatToFix.toNat

/-- The status that is sent first is that of the satellites in view and of those in the fix. -/
def SendsStatus (fresh : List.Vector UInt8 nmeaSentenceMaxLength) (ind : LbsGetPositionInd D F) : Prop :=
  ∃ status rest, ipcLbsGetPositionInd fp fresh ind = some (.svStatus status :: rest) ∧
    (∀ k < 32, status.usedInFixMask.toNat.testBit k ↔ ∃ id ∈ ind.fixList, id.toNat = k + 1) ∧
      status.numSvs.toInt = ind.numOfSatInView.toNat ∧
        status.svList.take ind.numOfSatInView.toNat =
          (ind.satInfo.toList.take ind.numOfSatInView.toNat).map (svInfo fp)

/-- The counts and the ids are inside the arrays and the word. -/
structure LbsGetPositionInd.SatellitesFit (ind : LbsGetPositionInd D F) : Prop where
  numOfSatInView : ind.numOfSatInView.toNat ≤ 32
  numOfSatToFix : ind.numOfSatToFix.toNat ≤ 15
  satIdtoFix : ∀ id ∈ ind.fixList, 1 ≤ id.toNat ∧ id.toNat ≤ 32

end Program

section Satellites

variable {D F : Type} {fp : FloatOps D F}

/-- The loop over the satellites in view, for any length of the arrays. -/
theorem fillSvList_eq (satInfo : List SatelliteInfo) (n : ℕ) (svList : List (GpsSvInfo F)) :
    fillSvList fp satInfo n svList = if n ≤ satInfo.length ∧ n ≤ svList.length then
      some ((satInfo.take n).map (svInfo fp) ++ svList.drop n) else none := by
  induction n with
  | zero => rfl
  | succ n ih =>
    have hlast : fillSvList fp satInfo (n + 1) svList = (fillSvList fp satInfo n svList).bind fun svList =>
        satInfo[n]?.bind fun sat =>
          if n < svList.length then some (svList.set n (svInfo fp sat)) else none := by
      unfold fillSvList
      rw [List.range_succ, List.foldlM_append]
      simp
    rw [hlast, ih]
    by_cases hn : n ≤ satInfo.length ∧ n ≤ svList.length
    · rw [if_pos hn, Option.bind_some]
      have hdone : ((satInfo.take n).map (svInfo fp)).length = n := by
        rw [List.length_map, List.length_take_of_le hn.1]
      by_cases hsat : n < satInfo.length
      · rw [List.getElem?_eq_getElem hsat, Option.bind_some, List.length_append, hdone,
          List.length_drop]
        by_cases hsv : n < svList.length
        · rw [if_pos (by omega), if_pos ⟨hsat, hsv⟩, List.set_append_right _ _ hdone.le, hdone, Nat.sub_self,
            List.drop_eq_getElem_cons hsv, List.set_cons_zero, List.take_succ_eq_append_getElem hsat,
            List.map_append, List.append_assoc]
          rfl
        · rw [if_neg (by omega), if_neg fun h => hsv h.2]
      · rw [List.getElem?_eq_none (Nat.le_of_not_lt hsat), Option.bind_none, if_neg fun h => hsat h.1]
    · rw [if_neg hn, Option.bind_none, if_neg fun h => hn ⟨Nat.le_of_succ_le h.1, Nat.le_of_succ_le h.2⟩]

/-- The bit of an id joins the mask. -/
theorem testBit_or_shift (mask : UInt32) {shift : ℕ} (hshift : shift < 32) {k : ℕ} (hk : k < 32) :
    (mask ||| 1 <<< UInt32.ofNat shift).toNat.testBit k = (mask.toNat.testBit k || decide (shift = k)) := by
  have hofNat : (UInt32.ofNat shift).toNat = shift :=
    UInt32.toNat_ofNat_of_lt' (hshift.trans (by decide))
  have hone : ((1 : UInt32).toNat <<< shift % 2 ^ 32).testBit k = decide (shift = k) := by
    rw [Nat.testBit_mod_two_pow, decide_eq_true hk, Bool.true_and]
    change (1 <<< shift).testBit k = _
    rw [Nat.one_shiftLeft, Nat.testBit_two_pow]
  rw [UInt32.toNat_or, Nat.testBit_or, UInt32.toNat_shiftLeft, hofNat, Nat.mod_eq_of_lt hshift, hone]

theorem fixMask_succ (l : List UInt8) (n : ℕ) : fixMask l (n + 1) = (fixMask l n).bind fun mask =>
    l[n]?.bind fun id => if 0 ≤ (id.toNat : ℤ) - 1 ∧ (id.toNat : ℤ) - 1 < 32 then
      some (mask ||| 1 <<< UInt32.ofNat ((id.toNat : ℤ) - 1).toNat) else none := by
  unfold fixMask
  rw [List.range_succ, List.foldlM_append]
  simp

/-- The mask of ids that have a bit in it. -/
theorem fixMask_eq_some {l : List UInt8} {n : ℕ} (hn : n ≤ l.length)
    (hids : ∀ id ∈ l.take n, 1 ≤ id.toNat ∧ id.toNat ≤ 32) : ∃ mask, fixMask l n = some mask ∧
      ∀ k < 32, mask.toNat.testBit k ↔ ∃ id ∈ l.take n, id.toNat = k + 1 := by
  induction n with
  | zero => exact ⟨0, rfl, fun k _ => by simp⟩
  | succ n ih =>
    have htake : l.take (n + 1) = l.take n ++ [l[n]] := List.take_succ_eq_append_getElem hn
    rw [htake] at hids
    obtain ⟨mask, hmask, hbits⟩ := ih (Nat.le_of_succ_le hn) fun id hid =>
      hids id (List.mem_append_left _ hid)
    have hid := hids l[n] (List.mem_append_right _ (List.mem_singleton_self _))
    have hshift : ((l[n].toNat : ℤ) - 1).toNat = l[n].toNat - 1 := by omega
    refine ⟨mask ||| 1 <<< UInt32.ofNat (l[n].toNat - 1), ?_, ?_⟩
    · rw [fixMask_succ, hmask, Option.bind_some, List.getElem?_eq_getElem hn, Option.bind_some,
        if_pos (by omega), hshift]
    · intro k hk
      have hlast : l[n].toNat - 1 = k ↔ l[n].toNat = k + 1 := by omega
      rw [testBit_or_shift mask (by omega) hk, Bool.or_eq_true, decide_eq_true_eq, hbits k hk, hlast,
        htake]
      simp only [List.mem_append, List.mem_singleton, or_and_right, exists_or, exists_eq_left]

theorem fixMask_isSome {l : List UInt8} {n : ℕ} (h : (fixMask l n).isSome) :
    n ≤ l.length ∧ ∀ id ∈ l.take n, 1 ≤ id.toNat ∧ id.toNat ≤ 32 := by
  induction n with
  | zero => exact ⟨Nat.zero_le _, fun id hid => absurd hid List.not_mem_nil⟩
  | succ n ih =>
    rw [fixMask_succ] at h
    obtain ⟨mask', hmask'⟩ := Option.isSome_iff_exists.mp h
    obtain ⟨mask, hmask, hnext⟩ := Option.bind_eq_some_iff.mp hmask'
    obtain ⟨id, hid, hbit⟩ := Option.bind_eq_some_iff.mp hnext
    obtain ⟨-, hids⟩ := ih (by rw [hmask]; rfl)
    obtain ⟨hn, rfl⟩ := List.getElem?_eq_some_iff.mp hid
    refine ⟨hn, ?_⟩
    rw [List.take_succ_eq_append_getElem hn, List.forall_mem_append, List.forall_mem_singleton]
    split_ifs at hbit with hshift
    exact ⟨hids, by omega⟩

end Satellites

section Sentence

variable {c : NmeaCursor} {s t : CString}

/-- The array holds the characters of `s` up to `pMarker`. -/
structure NmeaCursor.Holds (c : NmeaCursor) (s : CString) : Prop where
  ne_zero : 0 ∉ s
  kept : ∀ i, i < s.length → c.nmea[0 + i]? = s[i]?
  pMarker : c.pMarker = s.length
  lengthRemaining : c.lengthRemaining = 200 - s.length
  size : c.nmea.length = 200

/-- A text that has room comes to stand behind the string. -/
theorem NmeaCursor.Holds.snprintf (h : c.Holds s) (ht : 0 ∉ t) (hroom : s.length + t.length < 200) :
    ∃ nmea, snprintf c.nmea c.pMarker (c.lengthRemaining % 2 ^ 32).toNat t =
        some (nmea, (t.length : ℤ)) ∧ nmea.length = 200 ∧ HoldsAt nmea 0 (s ++ t) := by
  have hsize : (c.lengthRemaining % 2 ^ 32).toNat = 200 - s.length := by
    rw [h.lengthRemaining, Int.emod_eq_of_lt (by omega) (by omega)]
    omega
  obtain ⟨nmea, hprint, hlength, hholds⟩ :=
    snprintf_behind _ h.ne_zero h.kept ht (show t.length < 200 - s.length by omega)
      (by rw [h.size]; exact hroom)
  rw [hsize, h.pMarker]
  exact ⟨nmea, hprint, hlength.trans h.size, hholds⟩

theorem NmeaCursor.Holds.print (h : c.Holds s) (ht : 0 ∉ t) (hroom : s.length + t.length < 200) :
    ∃ c', c.print t = .ok c' ∧ c'.Holds (s ++ t) := by
  obtain ⟨nmea, hprint, hlength, hholds⟩ := h.snprintf ht hroom
  have hpos : c.pMarker + t.length = (s ++ t).length := by rw [h.pMarker, List.length_append]
  have hrest : c.lengthRemaining - t.length = 200 - ((s ++ t).length : ℤ) := by
    rw [h.lengthRemaining, List.length_append]
    push_cast
    ring
  refine ⟨⟨nmea, c.pMarker + t.length, c.lengthRemaining - t.length⟩, ?_,
    ⟨hholds.1, hholds.kept, hpos, hrest, hlength⟩⟩
  unfold NmeaCursor.print
  rw [hprint]
  dsimp only
  rw [if_neg (by rw [h.lengthRemaining]; omega), Int.toNat_natCast]

/-- A number of one byte has three digits at most, and at least two. -/
theorem format02d_byte (b : UInt8) : 0 ∉ format02d b.toNat ∧ (format02d b.toNat).length ≤ 3 := by
  have hdigits : ∀ b : UInt8, 0 ∉ (Nat.toDigits 10 b.toNat).map (fun c => UInt8.ofNat c.toNat) ∧
      (Nat.toDigits 10 b.toNat).length ≤ 3 ∧ (b.toNat < 10 → (Nat.toDigits 10 b.toNat).length ≤ 2) :=
    forall_uint8 (by decide +kernel)
  obtain ⟨hzero, hthree, htwo⟩ := hdigits b
  unfold format02d
  rw [decimal_nat]
  split_ifs with hsmall
  · constructor
    · exact fun h => (List.mem_cons.mp h).elim (by decide) hzero
    · rw [List.length_cons, List.length_map]
      exact Nat.succ_le_succ (htwo (by omega))
  · rw [List.length_map]
    exact ⟨hzero, hthree⟩

variable {D F : Type} {fp : FloatOps D F} {ind : LbsGetPositionInd D F}

theorem fixField_bound (ind : LbsGetPositionInd D F) (i : Fin 12) :
    0 ∉ fixField ind i ∧ (fixField ind i).length ≤ 4 := by
  have hcomma : cString "," = [0x2C] := rfl
  unfold fixField
  rw [hcomma]
  split_ifs
  · obtain ⟨hzero, hlength⟩ := format02d_byte (ind.satIdtoFix.get (i.castLE (by decide)))
    rw [List.mem_append, not_or, List.length_append]
    exact ⟨⟨hzero, by decide⟩, Nat.add_le_add_right hlength 1⟩
  · decide

theorem dopFields_bound (fp : FloatOps D F) (ind : LbsGetPositionInd D F) :
    0 ∉ dopFields fp ind ∧ (dopFields fp ind).length ≤ 35 := by
  have hcomma : cString "," = [0x2C] := rfl
  unfold dopFields
  split_ifs
  · have hpdop := fp.formatDop_length ind.pdop
    have hhdop := fp.formatDop_length ind.hdop
    have hvdop := fp.formatDop_length ind.vdop
    constructor
    · simp [hcomma, fp.formatDop_ne_zero]
    · simp only [hcomma, List.length_append, List.length_singleton]
      omega
  · decide

/-- The fields of the satellites, printed one behind the other. -/
theorem NmeaCursor.Holds.fields (h : c.Holds s) (ind : LbsGetPositionInd D F) (is : List (Fin 12))
    (hroom : s.length + 4 * is.length < 200) : ∃ c',
      is.foldlM (fun c i => c.print (fixField ind i)) c = .ok c' ∧
        c'.Holds (s ++ is.flatMap (fixField ind)) ∧
          (s ++ is.flatMap (fixField ind)).length ≤ s.length + 4 * is.length := by
  induction is generalizing c s with
  | nil =>
    refine ⟨c, rfl, ?_⟩
    rw [List.flatMap_nil, List.append_nil]
    exact ⟨h, Nat.le_add_right ..⟩
  | cons i is ih =>
    obtain ⟨hzero, hlength⟩ := fixField_bound ind i
    rw [List.length_cons] at hroom
    obtain ⟨c', hprint, hc'⟩ := h.print hzero (by omega)
    have hlonger : (s ++ fixField ind i).length ≤ s.length + 4 := by
      rw [List.length_append]
      omega
    obtain ⟨c'', hrest, hc'', hbound⟩ := ih hc' (by omega)
    rw [List.flatMap_cons, ← List.append_assoc, List.length_cons]
    refine ⟨c'', ?_, hc'', by omega⟩
    rw [List.foldlM_cons, hprint]
    exact hrest

/-- The sentence, without its checksum and the `$`. -/
def gpgsaBody (fp : FloatOps D F) (ind : LbsGetPositionInd D F) : CString :=
  cString "GPGSA,A," ++ fixType fp ind ++ cString "," ++ (List.finRange 12).flatMap (fixField ind) ++
    dopFields fp ind

/-- **The sentence** is there with its checksum; the length that comes with it is short by one. -/
theorem gpgsa_eq (fp : FloatOps D F) (ind : LbsGetPositionInd D F)
    (fresh : List.Vector UInt8 nmeaSentenceMaxLength) : ∃ nmea,
    gpgsa fp fresh ind = .ok ⟨epochTime ind.timestamp, nmea, (gpgsaBody fp ind).length + 5⟩ ∧
      HoldsAt nmea 0 (checksummed (0x24 :: gpgsaBody fp ind)) := by
  have hstart : NmeaCursor.Holds ⟨fresh.toList, 0, nmeaSentenceMaxLength⟩ [] :=
    ⟨List.not_mem_nil, fun i hi => absurd hi (Nat.not_lt_zero i), rfl, rfl, fresh.toList_length⟩
  have hhead : 0 ∉ cString "$GPGSA,A," ++ fixType fp ind ++ cString "," ∧
      (cString "$GPGSA,A," ++ fixType fp ind ++ cString ",").length = 11 := by
    unfold fixType
    split_ifs <;> decide
  obtain ⟨c₁, hprint₁, hc₁⟩ := hstart.print hhead.1 (by rw [hhead.2]; decide)
  obtain ⟨c₂, hprint₂, hc₂, hlength₂⟩ := hc₁.fields ind (List.finRange 12)
    (by rw [List.nil_append, hhead.2, List.length_finRange]; decide)
  rw [List.nil_append] at hc₂ hlength₂
  rw [hhead.2, List.length_finRange] at hlength₂
  obtain ⟨hdop, hdopLength⟩ := dopFields_bound fp ind
  obtain ⟨nmea₃, hprint₃, hlength₃, hholds₃⟩ := hc₂.snprintf hdop (by omega)
  have hsentence : cString "$GPGSA,A," ++ fixType fp ind ++ cString "," ++
      (List.finRange 12).flatMap (fixField ind) ++ dopFields fp ind = 0x24 :: gpgsaBody fp ind := rfl
  have hbody := congrArg List.length hsentence
  rw [List.length_append, List.length_cons] at hbody
  rw [hsentence] at hholds₃
  have hmax : (200 : Int32).toInt = 200 := rfl
  obtain ⟨nmea, hput, -, hholds⟩ := nmeaPutChecksum_eq hholds₃ 200
    (by rw [hmax]; omega) (by rw [hmax, hlength₃]; rfl)
  refine ⟨nmea, ?_, hholds⟩
  unfold gpgsa
  simp only [hprint₁, hprint₂, hprint₃, hput, bind, Except.bind]

end Sentence

section Indication

variable {D F : Type} {fp : FloatOps D F} {ind : LbsGetPositionInd D F}

/-- The status goes first, and then what is sent of a new position. -/
theorem ipcLbsGetPositionInd_eq (fp : FloatOps D F) (fresh : List.Vector UInt8 nmeaSentenceMaxLength)
    (ind : LbsGetPositionInd D F) : ∃ rest,
      ipcLbsGetPositionInd fp fresh ind = (svStatus fp ind).map (.svStatus · :: rest) ∧
        ∀ nmea, .nmea nmea ∈ rest → nmea.length + 1 = (strlen nmea.nmea 0 : ℤ) := by
  obtain ⟨nmea, hgpgsa, hholds⟩ := gpgsa_eq fp ind fresh
  unfold ipcLbsGetPositionInd
  by_cases hnew : ind.lbsPositionDataType = lbsPositionDataNew
  · simp only [if_pos hnew, hgpgsa]
    refine ⟨[.location (gpsLocation fp ind), .nmea ⟨epochTime ind.timestamp, nmea, _⟩],
      Option.map_eq_bind.symm, fun nmea' hmem => ?_⟩
    obtain rfl : nmea' = ⟨epochTime ind.timestamp, nmea, (gpgsaBody fp ind).length + 5⟩ := by
      simpa using hmem
    rw [hholds.strlen, checksummed_length, List.length_cons]
    push_cast
    ring
  · simp only [if_neg hnew]
    exact ⟨[], Option.map_eq_bind.symm, fun nmea hmem => absurd hmem List.not_mem_nil⟩

theorem SendsStatus.satellitesFit {fresh : List.Vector UInt8 nmeaSentenceMaxLength}
    (h : SendsStatus fp fresh ind) : ind.SatellitesFit := by
  obtain ⟨status, rest, hsent, -⟩ := h
  obtain ⟨rest', heq, -⟩ := ipcLbsGetPositionInd_eq fp fresh ind
  rw [heq] at hsent
  obtain ⟨status', hstatus, -⟩ := Option.map_eq_some_iff.mp hsent
  obtain ⟨svList, hsvList, hstatus⟩ := Option.bind_eq_some_iff.mp hstatus
  obtain ⟨mask, hmask, -⟩ := Option.bind_eq_some_iff.mp hstatus
  rw [fillSvList_eq, ind.satInfo.toList_length] at hsvList
  split_ifs at hsvList with hview
  obtain ⟨hfix, hids⟩ := fixMask_isSome (Option.isSome_of_eq_some hmask)
  rw [ind.satIdtoFix.toList_length] at hfix
  exact ⟨hview.1, hfix, hids⟩

/-- **The status of the satellites** is sent, and nothing outside the arrays is used for it, exactly if
the counts and the ids of the indication fit. -/
theorem sendsStatus_iff (fp : FloatOps D F) (fresh : List.Vector UInt8 nmeaSentenceMaxLength)
    (ind : LbsGetPositionInd D F) : SendsStatus fp fresh ind ↔ ind.SatellitesFit := by
  refine ⟨SendsStatus.satellitesFit, fun h => ?_⟩
  obtain ⟨rest, heq, -⟩ := ipcLbsGetPositionInd_eq fp fresh ind
  obtain ⟨mask, hmask, hbits⟩ :=
    fixMask_eq_some (h.numOfSatToFix.trans_eq ind.satIdtoFix.toList_length.symm) h.satIdtoFix
  have hsat := ind.satInfo.toList_length
  have hview := h.numOfSatInView
  let svList := (ind.satInfo.toList.take ind.numOfSatInView.toNat).map (svInfo fp) ++
    (svListInit fp).drop ind.numOfSatInView.toNat
  have hsvList : fillSvList fp ind.satInfo.toList ind.numOfSatInView.toNat (svListInit fp) =
      some svList := by
    rw [fillSvList_eq, if_pos ⟨hview.trans_eq hsat.symm, hview.trans_eq List.length_replicate.symm⟩]
  have hstatus : svStatus fp ind = some ⟨ind.numOfSatInView.toInt32, svList, mask⟩ := by
    unfold svStatus
    rw [hsvList, hmask]
    rfl
  have hentries : ((ind.satInfo.toList.take ind.numOfSatInView.toNat).map (svInfo fp)).length =
      ind.numOfSatInView.toNat := by
    rw [List.length_map, List.length_take_of_le (hview.trans_eq hsat.symm)]
  have hint : ind.numOfSatInView.toInt32.toInt = ind.numOfSatInView.toNat := by
    rw [Ipc.toInt_toInt32, if_pos (by omega)]
  refine ⟨⟨_, svList, mask⟩, rest, ?_, hbits, hint, List.take_left' hentries⟩
  rw [heq, hstatus]
  rfl

/-- Floating-point numbers without a value; tenths are printed by their digits. -/
def FloatOps.unit : FloatOps Unit Unit where
  ofUInt _ := ()
  ofDouble _ := ()
  isZero _ := true
  metresPerSecond _ := ()
  formatDop dop := decimal ((dop.toNat / 10 : ℕ) : ℤ) ++ cString "." ++ decimal ((dop.toNat % 10 : ℕ) : ℤ)
  formatDop_ne_zero dop := by
    have hpoint : 0 ∉ cString "." := by decide
    simp only [List.mem_append, not_or]
    exact ⟨⟨decimal_ne_zero _, hpoint⟩, decimal_ne_zero _⟩
  formatDop_length dop := by
    have hdop := dop.toNat_lt
    have hwhole : (decimal ((dop.toNat / 10 : ℕ) : ℤ)).length ≤ 9 :=
      (decimal_length_le (by decide)).mpr (by omega)
    have hpoint : (cString ".").length = 1 := rfl
    have htenth : (decimal ((dop.toNat % 10 : ℕ) : ℤ)).length ≤ 1 :=
      (decimal_length_le (by decide)).mpr (by omega)
    simp only [List.length_append]
    omega

/-- An indication with its counts, and the same id for all satellites of the fix. -/
def LbsGetPositionInd.ofCounts (inView : UInt32) (toFix id : UInt8) : LbsGetPositionInd Unit Unit where
  latitude := ()
  longitude := ()
  hAccuracy := ()
  altitude := ()
  heading := ()
  speed := ()
  timestamp := 0
  lbsPositionDataType := lbsPositionDataNew
  numOfSatToFix := toFix
  satIdtoFix := List.Vector.replicate 15 id
  pdop := 0
  hdop := 0
  vdop := 0
  numOfSatInView := inView
  satInfo := List.Vector.replicate maxNumOfSat ⟨0, 0, 0, 0⟩

/-- A satellite of the fix has the number 33. -/
theorem not_sendsStatus_id :
    ¬SendsStatus .unit (List.Vector.replicate nmeaSentenceMaxLength 0) (.ofCounts 1 1 33) := by
  intro h
  have hid := h.satellitesFit.satIdtoFix 33 (by decide)
  exact absurd hid.2 (by decide)

/-- **The length of a sentence** is short by one, both for the one who puts the checksum and for the one
who gets the sentence; the characters are right. -/
theorem nmea_length_short {mem : List UInt8} {s : CString} (hs : HoldsAt mem 0 (0x24 :: s))
    (maxSize : Int32) (hmax : (0x24 :: s : CString).length + 6 ≤ maxSize.toInt)
    (hmem : maxSize.toInt ≤ mem.length) :
    ¬PutsChecksum mem (0x24 :: s) maxSize ∧
      (∃ mem' length, nmeaPutChecksum mem maxSize = some (mem', length) ∧
        HoldsAt mem' 0 (checksummed (0x24 :: s)) ∧
          length + 1 = (checksummed (0x24 :: s)).length) ∧
      ∀ {D F : Type} (fp : FloatOps D F) (fresh : List.Vector UInt8 nmeaSentenceMaxLength)
        (ind : LbsGetPositionInd D F) {sent : List (GpsSend D F)} {nmea : GpsNmea},
        ipcLbsGetPositionInd fp fresh ind = some sent → .nmea nmea ∈ sent →
          nmea.length + 1 = (strlen nmea.nmea 0 : ℤ) := by
  rw [List.length_cons] at hmax
  push_cast at hmax
  refine ⟨not_putsChecksum_of_holds hs (by omega) hmem, ?_, ?_⟩
  · obtain ⟨mem', hput, -, hholds⟩ := nmeaPutChecksum_eq hs maxSize (by omega) hmem
    refine ⟨mem', _, hput, hholds, ?_⟩
    rw [checksummed_length, List.length_cons]
    push_cast
    ring
  · intro D F fp fresh ind sent nmea hsent hnmea
    obtain ⟨rest, heq, hrest⟩ := ipcLbsGetPositionInd_eq fp fresh ind
    rw [heq] at hsent
    obtain ⟨status, -, rfl⟩ := Option.map_eq_some_iff.mp hsent
    exact hrest nmea (by simpa using hnmea)

/-- `$G` in a buffer of ten bytes. -/
theorem holdsAt_G : HoldsAt [0x24, 0x47, 0, 0, 0, 0, 0, 0, 0, 0] 0 [0x24, 0x47] := by
  unfold HoldsAt
  decide

theorem nmea_length_short_G : ¬PutsChecksum [0x24, 0x47, 0, 0, 0, 0, 0, 0, 0, 0] [0x24, 0x47] 8 :=
  (nmea_length_short holdsAt_G 8 (by decide) (by decide)).1

/-- With room for the checksum, the length of the string is not what comes back. -/
theorem not_putsChecksum_room : ¬∀ (mem : List UInt8) (s : CString) (maxSize : Int32),
    HoldsAt mem 0 (0x24 :: s) → (0x24 :: s : CString).length + 6 ≤ maxSize.toInt →
      maxSize.toInt ≤ mem.length → PutsChecksum mem (0x24 :: s) maxSize := fun h =>
  not_putsChecksum_of_holds (s := [0x47]) holdsAt_G (by decide) (by decide)
    (h [0x24, 0x47, 0, 0, 0, 0, 0, 0, 0, 0] [0x47] 8 holdsAt_G (by decide) (by decide))

end Indication

end Mocha.Ril
