import Mocha.Ril.Gsm7
import Mocha.Ril.Sms
import Mocha.Ril.Tpdu

/-! The packet that `ril_request_send_sms_complete` makes of a PDU (`sms.c`, `tapi_nettext.h`).
Accesses outside a buffer are not followed. -/
namespace Mocha.Ril
open Mocha.Lib

/-- `tapiNettextInfo`, as far as it is read or written. -/
structure TapiNettextInfo where
  msgType : UInt8
  tonFromNumber : UInt8
  szFromNumber : List.Vector UInt8 21
  npiToNumber : UInt8
  tonToNumber : UInt8
  lengthToNumber : UInt8
  szToNumber : List.Vector UInt8 24
  scTime : UInt32
  npiSmsc : UInt8
  tonSmsc : UInt8
  lengthSmsc : UInt8
  smsc : List.Vector UInt8 24
  bUdhi : UInt32
  bSrr : UInt32
  dischargeTime : UInt32
  statusReport : UInt32
  validityValue : UInt32
  bFlash : UInt32
  alphabetType : UInt8
  classType : UInt8
  timeZone : UInt32
  nUdh : UInt8
  messageLength : UInt8
  messageBody : List.Vector UInt8 160
deriving DecidableEq

/-- `calloc` -/
def TapiNettextInfo.zero : TapiNettextInfo where
  msgType := 0
  tonFromNumber := 0
  szFromNumber := .replicate 21 0
  npiToNumber := 0
  tonToNumber := 0
  lengthToNumber := 0
  szToNumber := .replicate 24 0
  scTime := 0
  npiSmsc := 0
  tonSmsc := 0
  lengthSmsc := 0
  smsc := .replicate 24 0
  bUdhi := 0
  bSrr := 0
  dischargeTime := 0
  statusReport := 0
  validityValue := 0
  bFlash := 0
  alphabetType := 0
  classType := 0
  timeZone := 0
  nUdh := 0
  messageLength := 0
  messageBody := .replicate 160 0

/-- The `n` bytes at offset `off` of a buffer. -/
def readAt (l : List UInt8) (off n : ℕ) : Option (List UInt8) :=
  if off + n ≤ l.length then some ((l.drop off).take n) else none

/-- `memcpy(dst + off, src, ..)` into an array. -/
def memcpyAt {n : ℕ} (dst : List.Vector UInt8 n) (off : ℕ) (src : List UInt8) :
    Option (List.Vector UInt8 n) :=
  if h : off + src.length ≤ n then
    some ⟨dst.toList.take off ++ src ++ dst.toList.drop (off + src.length), by
      simp only [List.length_append, List.length_take, List.length_drop, List.Vector.toList_length]
      omega⟩
  else none

/-- The octets of an address with `length` digits, as they are counted in `pdu_tp_da_len`. -/
def addressOctets (length : ℕ) : ℕ := (if 0 < length % 2 then length + 1 else length) / 2

structure NettextBody where
  messageLength : UInt8
  alphabetType : UInt8
  messageBody : List.Vector UInt8 160

/-- The conversion of the user data, from `ud` on, with the length `udLen`. -/
def nettextBody (multi : Bool) (dcs udLen : UInt8) (ud : List UInt8) : Option NettextBody :=
  let messageLength := if multi then udLen - 1 else udLen
  if dcs = 8 then do
    let text ←
      if multi then (if udLen = 0 then none else readAt ud 1 (udLen.toNat - 1))
      else readAt ud 0 udLen.toNat
    let messageBody ← memcpyAt (.replicate 160 0) 0 text
    return ⟨messageLength, 3, messageBody⟩
  else do
    let message ← gsm72ascii ud
    if multi then do
      let header ← readAt ud 1 5
      let messageBody ← memcpyAt (.replicate 160 0) 0 header
      let text ← if udLen < 7 then none else readAt message 7 (udLen.toNat - 7)
      let messageBody ← memcpyAt messageBody 5 text
      return ⟨messageLength - 1, 0, messageBody⟩
    else do
      let text ← readAt message 0 udLen.toNat
      let messageBody ← memcpyAt (.replicate 160 0) 0 text
      return ⟨messageLength, 0, messageBody⟩

/-- The conversion of a PDU at the time `scTime`. -/
def nettextOfPdu (scTime : UInt32) (pdu smsc : List UInt8) : Option TapiNettextInfo := do
  let pduType : UInt8 ← pdu[0]?
  let pduTpDaIndex := 2
  let pduTpDaLen : UInt8 ← pdu[pduTpDaIndex]?
  let pduTpUdlIndex := pduTpDaIndex + pduTpDaLen.toNat / 2 + 4
  let pduTpUdlIndex := if 0 < pduTpDaLen.toNat % 2 then pduTpUdlIndex + 1 else pduTpUdlIndex
  let pduTpUdLen : UInt8 ← pdu[pduTpUdlIndex]?
  let pduTpUdIndex := pduTpUdlIndex + 1
  let multi : Bool := pduType = 0x41 ∨ pduType = 0x61
  let toa : UInt8 ← pdu[pduTpDaIndex + 1]?
  let number ← readAt pdu (pduTpDaIndex + 2) (addressOctets pduTpDaLen.toNat)
  let szToNumber ← memcpyAt (.replicate 24 0) 0 (bcd2ascii number)
  let smscToa : UInt8 ← smsc[1]?
  let smscLen : UInt8 ← smsc[0]?
  let smscNumber ← readAt smsc 2 (smscLen.toNat - 1)
  let smsc ← memcpyAt (.replicate 24 0) 0 (bcd2ascii smscNumber)
  let dcs : UInt8 ← pdu[pduTpUdlIndex - 1]?
  let body ← nettextBody multi dcs pduTpUdLen (pdu.drop pduTpUdIndex)
  return { TapiNettextInfo.zero with
    npiToNumber := 0x01
    tonToNumber := if toa = 0x91 then 0x01 else 0
    lengthToNumber := pduTpDaLen
    szToNumber := szToNumber
    scTime := scTime
    npiSmsc := 0x01
    tonSmsc := if smscToa = 0x91 then 0x01 else 0
    lengthSmsc := (smscLen - 1) * 2
    smsc := smsc
    bSrr := if pduType = 0x21 ∨ pduType = 0x61 then 0x01 else 0
    validityValue := 0xFF
    classType := 0x04
    nUdh := if multi then 0x01 else 0
    bUdhi := if multi then 0x01 else 0
    messageLength := body.messageLength
    alphabetType := body.alphabetType
    messageBody := body.messageBody }

/-- The packet for a message that is not refused. -/
def RilRequestSendSmsInfo.nettext (info : RilRequestSendSmsInfo) (scTime : UInt32) :
    Option TapiNettextInfo :=
  match info.pdu, info.smsc with
  | some pdu, some smsc => nettextOfPdu scTime pdu smsc
  | _, _ => none

section Arrays

variable {n : ℕ} {a : List.Vector UInt8 n} {l src pre post : List UInt8}

/-- An array with `l` at its start, and zeros behind it. -/
def Holds (a : List.Vector UInt8 n) (l : List UInt8) : Prop :=
  a.toList = l ++ List.replicate (n - l.length) 0

theorem holds_zeros (n : ℕ) : Holds (.replicate n 0) [] := rfl

theorem Holds.append (h : Holds a l) (src : List UInt8) (hfits : l.length + src.length ≤ n) :
    ∃ b, memcpyAt a l.length src = some b ∧ Holds b (l ++ src) := by
  refine ⟨_, dif_pos hfits, ?_⟩
  unfold Holds at h ⊢
  rw [List.Vector.toList_mk, h, List.take_left, List.drop_append, List.drop_eq_nil_of_le (by omega),
    List.nil_append, List.drop_replicate, List.length_append]
  congr 2
  omega

theorem Holds.take (h : Holds a l) : a.toList.take l.length = l := by
  rw [h, List.take_left]

theorem Holds.bufferString {ds : List (Fin 10)} (h : Holds a (ds.map digitChar))
    (hlt : ds.length < n) : bufferString a.toList = ds.map digitChar := by
  obtain ⟨k, hk⟩ : ∃ k, n - (ds.map digitChar).length = k + 1 :=
    ⟨n - ds.length - 1, by rw [List.length_map]; omega⟩
  rw [h, hk, List.replicate_succ]
  exact bufferString_digits ds _

theorem readAt_middle (pre l post : List UInt8) {off k : ℕ} (hoff : pre.length = off)
    (hk : l.length = k) : readAt (pre ++ (l ++ post)) off k = some l := by
  unfold readAt
  subst hoff hk
  rw [if_pos (by simp only [List.length_append]; omega), List.drop_left, List.take_left]

theorem readAt_rest (pre l : List UInt8) {off k : ℕ} (hoff : pre.length = off) (hk : l.length = k) :
    readAt (pre ++ l) off k = some l := by
  have hread := readAt_middle pre l [] hoff hk
  rwa [List.append_nil] at hread

theorem getElem?_middle (b : UInt8) (off : ℕ) (hoff : pre.length = off) :
    (pre ++ b :: post)[off]? = some b := by
  rw [List.getElem?_append_right hoff.le, hoff, Nat.sub_self, List.getElem?_cons_zero]

/-- A number in an array of 24 characters. -/
theorem memcpyAt_number {ds : List (Fin 10)} (h : ds.length ≤ 22) :
    ∃ a : List.Vector UInt8 24, memcpyAt (.replicate 24 0) 0 (bcd2ascii (semiOctets ds)) = some a ∧
      Holds a (ds.map digitChar) := by
  have hlength : (bcd2ascii (semiOctets ds)).length ≤ 24 := by
    rw [bcd2ascii_semiOctets, List.length_append, List.length_map, List.length_replicate]
    omega
  obtain ⟨a, ha, hholds⟩ := (holds_zeros 24).append (bcd2ascii (semiOctets ds))
    (by simpa using hlength)
  refine ⟨a, ha, ?_⟩
  unfold Holds at hholds ⊢
  rw [hholds, List.nil_append, bcd2ascii_semiOctets, List.append_assoc, List.replicate_append_replicate]
  congr 2
  rw [List.length_append, List.length_map, List.length_replicate]
  omega

end Arrays

section Body

variable {u : UserData}

/-- `alphabetType` -/
def UserData.alphabetType (u : UserData) : UInt8 :=
  match u.text with
  | .gsm7 _ _ => 0
  | .ucs2 _ => 3

theorem UserData.Fits.udl_le (h : u.Fits) : u.udl ≤ 160 := by
  apply h.trans
  unfold UserData.capacity
  split
  · rfl
  · norm_num

/-- The conversion of user data is undone. -/
def Restores (u : UserData) (body : NettextBody) : Prop :=
  body.messageLength = UInt8.ofNat u.body.length ∧ body.alphabetType = u.alphabetType ∧
    Holds body.messageBody u.body

theorem toNat_ofNat_le {n : ℕ} (h : n ≤ 160) : (UInt8.ofNat n).toNat = n := by
  rw [UInt8.toNat_ofNat', Nat.mod_eq_of_lt (by omega)]

theorem ofNat_sub_one {n : ℕ} (hpos : 0 < n) (h : n ≤ 160) : UInt8.ofNat n - 1 = UInt8.ofNat (n - 1) := by
  apply UInt8.toNat_inj.mp
  rw [UInt8.toNat_sub_of_le, toNat_ofNat_le h, toNat_ofNat_le (by omega)]
  · rfl
  · rw [UInt8.le_iff_toNat_le, toNat_ofNat_le h]
    exact hpos

theorem nettextBody_ucs2 {octets : List UInt8} (h : octets.length ≤ 160) :
    ∃ body, nettextBody false 8 (UInt8.ofNat octets.length) octets = some body ∧
      Restores ⟨none, .ucs2 octets⟩ body := by
  obtain ⟨a, ha, hholds⟩ := (holds_zeros 160).append octets (by simpa using h)
  have hread : readAt octets 0 octets.length = some octets := readAt_rest [] octets rfl rfl
  refine ⟨⟨UInt8.ofNat octets.length, 3, a⟩, ?_, rfl, rfl, hholds⟩
  unfold nettextBody
  simp only [if_true, Bool.false_eq_true, if_false, toNat_ofNat_le h, hread, Option.bind_eq_bind,
    Option.bind_some, Option.pure_def]
  rw [show memcpyAt _ 0 octets = _ from ha, Option.bind_some]

theorem nettextBody_ucs2_part {header : List.Vector UInt8 5} {octets : List UInt8}
    (h : octets.length + 6 ≤ 160) :
    ∃ body, nettextBody true 8 (UInt8.ofNat (octets.length + 6)) (5 :: header.toList ++ octets) =
      some body ∧ Restores ⟨some header, .ucs2 octets⟩ body := by
  have hheader := header.toList_length
  have hlength : (header.toList ++ octets).length = octets.length + 6 - 1 := by
    rw [List.length_append, hheader]
    omega
  obtain ⟨a, ha, hholds⟩ := (holds_zeros 160).append (header.toList ++ octets)
    (by rw [hlength, List.length_nil]; omega)
  have hread : readAt (5 :: header.toList ++ octets) 1 (octets.length + 6 - 1) =
      some (header.toList ++ octets) := readAt_rest [5] (header.toList ++ octets) rfl hlength
  have hne : UInt8.ofNat (octets.length + 6) ≠ 0 := by
    intro hzero
    have hnat := congrArg UInt8.toNat hzero
    rw [toNat_ofNat_le h] at hnat
    exact Nat.succ_ne_zero _ hnat
  refine ⟨⟨UInt8.ofNat (octets.length + 6) - 1, 3, a⟩, ?_, ?_, rfl, hholds⟩
  · unfold nettextBody
    simp only [if_true, hne, if_false, toNat_ofNat_le h, hread, Option.bind_eq_bind, Option.bind_some,
      Option.pure_def]
    rw [show memcpyAt _ 0 (header.toList ++ octets) = _ from ha, Option.bind_some]
  · rw [ofNat_sub_one (by omega) h]
    exact congrArg UInt8.ofNat hlength.symm

theorem nettextBody_gsm7 {septets ud : List UInt8} (hseptets : IsDigits 128 septets)
    (h : septets.length ≤ 160) (hlength : ud.length = (7 * septets.length + 7) / 8)
    (hvalue : radixNat 256 ud = radixNat 128 septets) :
    ∃ body, nettextBody false 0 (UInt8.ofNat septets.length) ud = some body ∧
      Restores ⟨none, .gsm7 septets hseptets⟩ body := by
  have hmessage := gsm72ascii_packed hseptets hlength hvalue
  obtain ⟨a, ha, hholds⟩ := (holds_zeros 160).append septets (by simpa using h)
  have hread : ∀ zeros, readAt (septets ++ zeros) 0 septets.length = some septets :=
    fun _ => readAt_middle [] septets _ rfl rfl
  refine ⟨⟨UInt8.ofNat septets.length, 0, a⟩, ?_, rfl, rfl, hholds⟩
  unfold nettextBody
  rw [if_neg (by decide), hmessage, Option.bind_eq_bind, Option.bind_some]
  simp only [Bool.false_eq_true, if_false, toNat_ofNat_le h, hread, Option.bind_eq_bind,
    Option.bind_some, Option.pure_def]
  rw [show memcpyAt _ 0 septets = _ from ha, Option.bind_some]

/-- The header and the fill bit are seven septets, which are read but not used. -/
theorem nettextBody_gsm7_part {header : List.Vector UInt8 5} {septets rest : List UInt8}
    (hseptets : IsDigits 128 septets) (h : septets.length + 7 ≤ 160)
    (hlength : rest.length = (7 * septets.length + 8) / 8)
    (hvalue : radixNat 256 rest = 2 * radixNat 128 septets) :
    ∃ body, nettextBody true 0 (UInt8.ofNat (septets.length + 7)) (5 :: header.toList ++ rest) =
      some body ∧ Restores ⟨some header, .gsm7 septets hseptets⟩ body := by
  have hheader := header.toList_length
  have hsix : (5 :: header.toList).length = 6 := congrArg Nat.succ hheader
  have hfirst : radixNat 256 (5 :: header.toList) < 128 ^ 7 := by
    have hlt := radixNat_lt (by norm_num) (isDigits_256 (5 :: header.toList))
    rw [hsix] at hlt
    exact hlt.trans (by norm_num)
  obtain ⟨seven, hseven, hdigits, hsevenValue⟩ := exists_digits (by norm_num) (by norm_num) hfirst
  have hpacked : radixNat 256 (5 :: header.toList ++ rest) = radixNat 128 (seven ++ septets) := by
    rw [radixNat_append, radixNat_append, hsevenValue, hvalue, hseven, hsix]
    ring
  have hmessage := gsm72ascii_packed (hdigits.append hseptets)
    (by rw [List.length_append, List.length_append, hsix, hseven, hlength]; omega) hpacked
  obtain ⟨a, ha, hholds⟩ := (holds_zeros 160).append header.toList
    (by rw [hheader, List.length_nil]; omega)
  obtain ⟨b, hb, hholds'⟩ := hholds.append septets (by
    rw [List.nil_append, hheader]
    omega)
  rw [List.nil_append, hheader] at hb
  have hread : ∀ zeros, readAt (seven ++ septets ++ zeros) 7 (septets.length + 7 - 7) =
      some septets := by
    intro zeros
    rw [List.append_assoc]
    exact readAt_middle seven septets _ hseven (Nat.add_sub_cancel ..).symm
  have hreadHeader : readAt (5 :: header.toList ++ rest) 1 5 = some header.toList :=
    readAt_middle [5] header.toList rest rfl hheader
  have hnot : ¬UInt8.ofNat (septets.length + 7) < 7 := by
    rw [UInt8.lt_iff_toNat_lt, toNat_ofNat_le h]
    exact (Nat.le_add_left 7 _).not_gt
  refine ⟨⟨UInt8.ofNat (septets.length + 7) - 1 - 1, 0, b⟩, ?_, ?_, rfl, hholds'⟩
  · unfold nettextBody
    rw [if_neg (by decide), hmessage, Option.bind_eq_bind, Option.bind_some]
    simp only [if_true, hreadHeader, hnot, if_false, toNat_ofNat_le h, hread, Option.bind_eq_bind,
      Option.bind_some, Option.pure_def]
    rw [show memcpyAt _ 0 header.toList = _ from ha, Option.bind_some, hb, Option.bind_some]
  · rw [ofNat_sub_one (by omega) h, ofNat_sub_one (by omega) (by omega)]
    apply congrArg UInt8.ofNat
    rw [UserData.body, List.length_append]
    show septets.length + 7 - 1 - 1 = header.toList.length + septets.length
    omega

/-- Octets with room for some bits. -/
theorem two_pow_le_octets {bits k : ℕ} (h : bits ≤ 8 * k) : 2 ^ bits ≤ 256 ^ k :=
  (Nat.pow_le_pow_right (by norm_num) h).trans_eq (pow_mul 2 8 k)

/-- **The conversion of user data that fit** gives back the header and the text. -/
theorem nettextBody_octets (h : u.Fits) :
    ∃ body, nettextBody u.header.isSome u.dcs (UInt8.ofNat u.udl) u.octets = some body ∧
      Restores u body := by
  have hle := h.udl_le
  obtain ⟨header, text⟩ := u
  cases text with
  | gsm7 septets hseptets =>
    have hlt : radixNat 128 septets < 2 ^ (7 * septets.length) := by
      rw [pow_mul]
      exact radixNat_lt (by norm_num) hseptets
    cases header with
    | none =>
      refine nettextBody_gsm7 hseptets hle (leBytes_length ..) (radixNat_leBytes ?_)
      exact hlt.trans_le (two_pow_le_octets (by omega))
    | some header =>
      refine nettextBody_gsm7_part hseptets hle (leBytes_length ..) (radixNat_leBytes ?_)
      calc 2 * radixNat 128 septets < 2 * 2 ^ (7 * septets.length) :=
            Nat.mul_lt_mul_of_pos_left hlt (by norm_num)
        _ = 2 ^ (7 * septets.length + 1) := (pow_succ' ..).symm
        _ ≤ 256 ^ ((7 * septets.length + 8) / 8) := two_pow_le_octets (by omega)
  | ucs2 octets =>
    cases header with
    | none => exact nettextBody_ucs2 hle
    | some header =>
      have hudl : UserData.udl ⟨some header, .ucs2 octets⟩ = octets.length + 6 :=
        congrArg (octets.length + Nat.succ ·) header.toList_length
      rw [hudl] at hle ⊢
      exact nettextBody_ucs2_part hle

end Body

section Pdu

variable {scTime : UInt32} {h : SubmitHeader} {c : ServiceCentre} {u : UserData}

/-- What the packet for a message holds. -/
structure Converted (h : SubmitHeader) (c : ServiceCentre) (u : UserData) (mess : TapiNettextInfo) :
    Prop where
  number : Holds mess.szToNumber (h.number.map digitChar)
  lengthToNumber : mess.lengthToNumber = UInt8.ofNat h.number.length
  tonToNumber : mess.tonToNumber = if h.toa = 0x91 then 1 else 0
  smsc : Holds mess.smsc (c.number.map digitChar)
  lengthSmsc : mess.lengthSmsc = UInt8.ofNat ((semiOctets c.number).length * 2)
  bSrr : mess.bSrr = if h.statusReport then 1 else 0
  nUdh : mess.nUdh = if u.header.isSome then 1 else 0
  alphabetType : mess.alphabetType = u.alphabetType
  messageLength : mess.messageLength = UInt8.ofNat u.body.length
  messageBody : Holds mess.messageBody u.body

theorem firstOctet_multi (h : SubmitHeader) (udhi : Bool) :
    decide (h.firstOctet udhi = 0x41 ∨ h.firstOctet udhi = 0x61) = udhi := by
  unfold SubmitHeader.firstOctet
  cases h.statusReport <;> cases udhi <;> rfl

theorem firstOctet_report (h : SubmitHeader) (udhi : Bool) :
    (if h.firstOctet udhi = 0x21 ∨ h.firstOctet udhi = 0x61 then (0x01 : UInt32) else 0) =
      if h.statusReport then 1 else 0 := by
  unfold SubmitHeader.firstOctet
  cases h.statusReport <;> cases udhi <;> rfl

theorem submitHeader_length (h : SubmitHeader) (udhi : Bool) (dcs : UInt8) :
    (h.octets udhi dcs).length = 6 + (semiOctets h.number).length := by
  simp only [SubmitHeader.octets, List.length_append, List.length_cons, List.length_nil]
  omega

/-- **The conversion of a PDU** gives the fields of the message that the PDU was built from. -/
theorem nettextOfPdu_octets (scTime : UInt32) (h : SubmitHeader) (c : ServiceCentre) (hu : u.Fits) :
    ∃ mess, nettextOfPdu scTime
      (h.octets u.header.isSome u.dcs ++ UInt8.ofNat u.udl :: u.octets) c.octets = some mess ∧
        Converted h c u mess := by
  obtain ⟨body, hbody, hlength, halphabet, hholds⟩ := nettextBody_octets hu
  obtain ⟨number, hnumber, hnumberHolds⟩ := memcpyAt_number (h.number_le.trans (by norm_num : 20 ≤ 22))
  obtain ⟨smsc, hsmsc, hsmscHolds⟩ := memcpyAt_number (c.number_le.trans (by norm_num : 20 ≤ 22))
  have hk := semiOctets_length h.number
  have hda : (UInt8.ofNat h.number.length).toNat = h.number.length :=
    toNat_ofNat_le (h.number_le.trans (by norm_num))
  have hscLe : (semiOctets c.number).length + 1 ≤ 160 := by
    have hle := c.number_le
    rw [semiOctets_length]
    omega
  have hsc := toNat_ofNat_le hscLe
  have hlengthSmsc : (UInt8.ofNat ((semiOctets c.number).length + 1) - 1) * 2 =
      UInt8.ofNat ((semiOctets c.number).length * 2) := by
    rw [ofNat_sub_one (Nat.succ_pos _) hscLe, Nat.succ_sub_one]
    exact (UInt8.ofNat_mul ..).symm
  have hpre := submitHeader_length h u.header.isSome u.dcs
  generalize hpdu : h.octets u.header.isSome u.dcs ++ UInt8.ofNat u.udl :: u.octets = pdu
  have htype : pdu[0]? = some (h.firstOctet u.header.isSome) := by rw [← hpdu]; rfl
  have hlen : pdu[2]? = some (UInt8.ofNat h.number.length) := by rw [← hpdu]; rfl
  have htoa : pdu[2 + 1]? = some h.toa := by rw [← hpdu]; rfl
  have hindex : (if 0 < h.number.length % 2 then 2 + h.number.length / 2 + 4 + 1
      else 2 + h.number.length / 2 + 4) = 6 + (semiOctets h.number).length := by
    rw [hk]
    split_ifs <;> omega
  have hudl : pdu[6 + (semiOctets h.number).length]? = some (UInt8.ofNat u.udl) := by
    rw [← hpdu]
    exact getElem?_middle _ _ hpre
  have hdcs : pdu[6 + (semiOctets h.number).length - 1]? = some u.dcs := by
    have hsplit : pdu = [h.firstOctet u.header.isSome, h.messageRef, UInt8.ofNat h.number.length,
        h.toa] ++ semiOctets h.number ++ [h.pid] ++ u.dcs :: UInt8.ofNat u.udl :: u.octets := by
      rw [← hpdu, SubmitHeader.octets]
      simp only [List.append_assoc, List.cons_append, List.nil_append]
    rw [hsplit]
    apply getElem?_middle
    simp only [List.length_append, List.length_cons, List.length_nil]
    omega
  have hdrop : pdu.drop (6 + (semiOctets h.number).length + 1) = u.octets := by
    rw [← hpdu, ← hpre, List.drop_length_add_append]
    rfl
  have hread : readAt pdu (2 + 2) (addressOctets h.number.length) = some (semiOctets h.number) := by
    rw [← hpdu, SubmitHeader.octets, List.append_assoc, List.append_assoc]
    apply readAt_middle _ _ _ rfl
    rw [hk, addressOctets]
    split_ifs <;> omega
  have hreadSmsc : readAt c.octets 2 ((semiOctets c.number).length + 1 - 1) =
      some (semiOctets c.number) :=
    readAt_rest [UInt8.ofNat ((semiOctets c.number).length + 1), c.toa] _ rfl rfl
  have htoaSmsc : c.octets[1]? = some c.toa := rfl
  have hlenSmsc : c.octets[0]? = some (UInt8.ofNat ((semiOctets c.number).length + 1)) := rfl
  unfold nettextOfPdu
  simp only [htype, hlen, hda, hindex, hudl, hdcs, hdrop, htoa, hread, hnumber, htoaSmsc, hlenSmsc, hsc,
    hreadSmsc, hsmsc, firstOctet_multi, hbody, Option.bind_eq_bind, Option.bind_some, Option.pure_def]
  exact ⟨_, rfl, hnumberHolds, rfl, rfl, hsmscHolds, hlengthSmsc, firstOctet_report h _, rfl,
    halphabet, hlength, hholds⟩

end Pdu

end Mocha.Ril
