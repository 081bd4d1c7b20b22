import Mocha.Lib.StringOp
import Mocha.Ril.Gprs
import Mocha.Ril.Gsm7Access
import Mocha.Ril.SmsDeliver

/-! The strings that `ipc_incoming_sms` builds in its arrays, and in the packet it is given. The numbers
of the packet get an `F` in place. -/
namespace Mocha.Ril
open Mocha.Lib Mocha.Lib.StringOp

section Packet

/-- `sizeof(tapiNettextInfo)` -/
def tapiNettextInfoSize : ℕ := 310

/-- `struct tapiNettextInfo` in memory -/
abbrev NettextPacket := List.Vector UInt8 tapiNettextInfoSize

/-- The array of `n` bytes at an offset. -/
def NettextPacket.array (packet : NettextPacket) (off n : ℕ) (h : off + n ≤ tapiNettextInfoSize) :
    List.Vector UInt8 n :=
  ⟨(packet.toList.drop off).take n, by
    rw [List.length_take, List.length_drop, List.Vector.toList_length]
    omega⟩

/-- The `uint32_t` at an offset. -/
def NettextPacket.word (packet : NettextPacket) (off : ℕ) : UInt32 :=
  UInt32.ofNat (wordAt 4 off packet.toList)

/-- The fields at their offsets in the packed structure. -/
def TapiNettextInfo.ofPacket (packet : NettextPacket) : TapiNettextInfo where
  msgType := packet.get ⟨0, by decide⟩
  tonFromNumber := packet.get ⟨6, by decide⟩
  szFromNumber := packet.array 8 21 (by decide)
  npiToNumber := packet.get ⟨29, by decide⟩
  tonToNumber := packet.get ⟨30, by decide⟩
  lengthToNumber := packet.get ⟨31, by decide⟩
  szToNumber := packet.array 32 24 (by decide)
  scTime := packet.word 56
  npiSmsc := packet.get ⟨61, by decide⟩
  tonSmsc := packet.get ⟨62, by decide⟩
  lengthSmsc := packet.get ⟨63, by decide⟩
  smsc := packet.array 64 24 (by decide)
  bUdhi := packet.word 96
  bSrr := packet.word 100
  dischargeTime := packet.word 108
  statusReport := packet.word 112
  validityValue := packet.word 120
  bFlash := packet.word 128
  alphabetType := packet.get ⟨138, by decide⟩
  classType := packet.get ⟨139, by decide⟩
  timeZone := packet.word 140
  nUdh := packet.get ⟨148, by decide⟩
  messageLength := packet.get ⟨149, by decide⟩
  messageBody := packet.array 150 160 (by decide)

end Packet

section Program

/-- The arrays that `ipc_incoming_sms` writes strings to: its own, the two it allocates, and two of the
packet. -/
inductive SmsBuffer
  | pdu
  | c
  | buf
  | tpScts
  | tpDcs
  | tpUdl
  | message
  | tpUd
  | smsc
  | szFromNumber
deriving DecidableEq, Repr

/-- The sizes; `message` and `tp_ud` are allocated for a message of that length. -/
def SmsBuffer.size (messageLength : ℕ) : SmsBuffer → ℕ
  | pdu => smsPduSize
  | c => 3
  | buf => 50
  | tpScts => 15
  | tpDcs => 3
  | tpUdl => 3
  | message => messageLength + 3
  | tpUd => messageLength * 2 + 3
  | smsc => 24
  | szFromNumber => 21

/-- Where the arrays of the packet are. -/
def SmsBuffer.offset : SmsBuffer → Option ℕ
  | smsc => some 64
  | szFromNumber => some 8
  | _ => none

/-- `%02x` -/
def format02x (n : ℕ) : CString :=
  if n < 256 then hexByte (UInt8.ofNat n)
  else (Nat.toDigits 16 n).map fun c => UInt8.ofNat c.toNat

/-- `%02d` -/
def format02d (n : ℤ) : CString := if 0 ≤ n ∧ n < 10 then 0x30 :: decimal n else decimal n

/-- What `ascii2gsm7` leaves in the octets that it has allocated. -/
def ascii2gsm7Octets (ascii : List UInt8) : List UInt8 :=
  (ascii2gsm7Updates ascii 0).foldl (fun enc p => enc.modify p.1.toNat (· ||| p.2))
    (List.replicate ((7 * ascii.length + 7) / 8) 0)

/-- `strcat(number, "F")` for an odd number of characters. -/
def padOps (b : SmsBuffer) (number : CString) : List (StringOp SmsBuffer) :=
  if 0 < number.length % 2 then [append b (cString "F")] else []

/-- The number after `padOps`. -/
def padded (number : CString) : CString :=
  if 0 < number.length % 2 then number ++ cString "F" else number

/-- The loop that appends the characters of a number in swapped pairs. -/
def swapOps (b : SmsBuffer) : CString → List (StringOp SmsBuffer)
  | [] => []
  | [x] => [append b (some []), append b (some [x])]
  | x :: y :: number => append b (some [y]) :: append b (some [x]) :: swapOps b number

/-- What is put together for the user data: the operations, and what is printed of them behind. -/
structure UserDataOps where
  ops : List (StringOp SmsBuffer)
  dcs : ℕ
  messageLength : ℕ
  tpUd : Option CString

/-- The branch for Unicode and for MMS. -/
def unicodeOps (dcs : ℕ) (nUdh : UInt8) (messageLength : ℕ) (messageBody : List UInt8) : UserDataOps :=
  let message := data2string (messageBody.take messageLength)
  if nUdh = 1 then
    { ops := [append .tpUd (cString "05"), append .tpUd message]
      dcs := dcs
      messageLength := messageLength + 1
      tpUd := cString "05" ++ message.getD [] }
  else
    { ops := [append .tpUd message]
      dcs := dcs
      messageLength := messageLength
      tpUd := message.getD [] }

/-- The branch for a part of a message in GSM7. A text that does not end in the packet is not followed:
it is appended as a null pointer is. -/
def gsm7PartOps (messageLength : ℕ) (messageBody : List UInt8) : UserDataOps :=
  let text := strncatChars (messageBody.drop 5) (messageLength + 2)
  let message := cString "0000000" ++ text.getD [] ++ List.replicate (messageLength + 2) 0
  let messageTmp := ascii2gsm7Octets (message.take (messageLength + 2))
  { ops := [append .message (cString "0000000"), append .message text]
    dcs := 0
    messageLength := messageLength + 2
    tpUd := data2string (5 :: messageBody.take 5 ++ messageTmp.drop 6) }

/-- The branch for a message in GSM7. -/
def gsm7Ops (messageLength : ℕ) (messageBody : List UInt8) : UserDataOps :=
  { ops := []
    dcs := 0
    messageLength := messageLength
    tpUd := data2string (ascii2gsm7Octets (messageBody.take messageLength)) }

namespace TapiNettextInfo

variable (info : TapiNettextInfo)

/-- SCA -/
def scaOps : List (StringOp SmsBuffer) :=
  let number := bufferString info.smsc.toList
  let numberSmsc := padded number
  padOps .smsc number ++
    if 0 < numberSmsc.length then
      let c := format02x (numberSmsc.length / 2 + 1)
      [print .c c, append .pdu c, append .pdu (cString "91")] ++ swapOps .pdu numberSmsc
    else [append .pdu (cString "00")]

/-- TP-OA -/
def oaOps : List (StringOp SmsBuffer) :=
  let numberOa := bufferString info.szFromNumber.toList
  if info.tonFromNumber = 5 then
    let number := data2string (ascii2gsm7Octets numberOa)
    let len := numberOa.length * 7 * 2 / 8 + if 0 < numberOa.length * 7 * 2 % 8 then 1 else 0
    let c := format02x len
    [print .c c, append .pdu c, append .pdu (cString "D0"), append .pdu number]
  else
    let c := format02x numberOa.length
    let toa := if info.tonFromNumber = 1 then cString "91" else cString "81"
    padOps .szFromNumber numberOa ++ [print .c c, append .pdu c, append .pdu toa] ++
      swapOps .pdu (padded numberOa)

/-- `buf`, with the time zone in `c`. -/
def timeText (time : UInt32) : CString :=
  strftime (gmtime time.toInt32.toInt) ++ format02d info.timeZone.toInt32.toInt

/-- The conversion of a time to TP-SCTS. -/
def timeStampOps (time : UInt32) : List (StringOp SmsBuffer) :=
  let c := format02d info.timeZone.toInt32.toInt
  [print .buf (strftime (gmtime time.toInt32.toInt)), print .c c, append .buf c] ++
    swapOps .tpScts ((info.timeText time).take 14)

/-- `tp_scts` -/
def tpScts (time : UInt32) : CString := swapPairs ((info.timeText time).take 14)

/-- The end of a status report. -/
def statusOps : List (StringOp SmsBuffer) :=
  let status := if info.statusReport = 0 then cString "00" else cString "01"
  [append .pdu (info.tpScts info.scTime), print .tpScts []] ++ info.timeStampOps info.dischargeTime ++
    [append .pdu (info.tpScts info.dischargeTime), append .pdu status]

/-- The user data, from TP-DCS on. -/
def userDataOps : UserDataOps :=
  if info.alphabetType = 3 ∨ info.msgType = 0x10 then
    unicodeOps (if info.msgType = 0x10 then 0x04 else 0x08) info.nUdh info.messageLength.toNat
      info.messageBody.toList
  else if info.nUdh = 1 then gsm7PartOps info.messageLength.toNat info.messageBody.toList
  else gsm7Ops info.messageLength.toNat info.messageBody.toList

/-- The end of a message. -/
def messageOps : List (StringOp SmsBuffer) :=
  let userData := info.userDataOps
  let dcs := if info.bFlash = 1 ∧ info.classType = 0 then userData.dcs + 0x10 else userData.dcs
  let tpDcs := format02x dcs
  let tpUdl := format02x userData.messageLength
  userData.ops ++
    [print .tpDcs tpDcs, print .tpUdl tpUdl, append .pdu tpDcs, append .pdu (info.tpScts info.scTime),
      append .pdu tpUdl, append .pdu userData.tpUd]

/-- The operations of `ipc_incoming_sms` on strings, in their order. -/
def smsOps : List (StringOp SmsBuffer) :=
  info.scaOps ++ [append .pdu info.pduType] ++ info.oaOps ++
    (if info.dischargeTime = 0 then [append .pdu (cString "00")] else []) ++
    info.timeStampOps info.scTime ++
    if info.dischargeTime ≠ 0 then info.statusOps else info.messageOps

/-- The strings at the start. -/
def smsStrings : SmsBuffer → CString
  | .smsc => bufferString info.smsc.toList
  | .szFromNumber => bufferString info.szFromNumber.toList
  | _ => []

end TapiNettextInfo

end Program

section Arrays

variable {b b' : SmsBuffer} {number : CString} {info : TapiNettextInfo}

theorem appends_padOps (b : SmsBuffer) (number : CString) : Appends b (padOps b number) := by
  unfold padOps
  split_ifs
  · exact appends_cons.mpr appends_nil
  · exact appends_nil

theorem appends_swapOps (b : SmsBuffer) (number : CString) : Appends b (swapOps b number) := by
  induction number using swapOps.induct with
  | case1 => exact appends_nil
  | case2 x => exact appends_cons.mpr (appends_cons.mpr appends_nil)
  | case3 x y number ih => exact appends_cons.mpr (appends_cons.mpr ih)

@[simp] theorem on_padOps (b b' : SmsBuffer) (number : CString) :
    on b' (padOps b number) = if b = b' then padOps b number else [] :=
  (appends_padOps b number).on_eq b'

@[simp] theorem on_swapOps (b b' : SmsBuffer) (number : CString) :
    on b' (swapOps b number) = if b = b' then swapOps b number else [] :=
  (appends_swapOps b number).on_eq b'

theorem written_swapOps (b : SmsBuffer) (number : CString) :
    written (swapOps b number) = swapPairs number := by
  induction number using swapOps.induct with
  | case1 => rfl
  | case2 x => rfl
  | case3 x y number ih => rw [swapOps, written_cons, written_cons, ih]; rfl

theorem padded_length (number : CString) : (padded number).length = number.length + number.length % 2 := by
  unfold padded
  split_ifs with hodd
  · rw [List.length_append, show (cString "F").length = 1 from rfl]
    omega
  · omega

theorem format02x_length {n : ℕ} (h : n < 256) : (format02x n).length = 2 := by
  rw [format02x, if_pos h]
  rfl

/-- Two characters are printed at least, and not more for these numbers alone. -/
theorem format02d_length (n : ℤ) :
    2 ≤ (format02d n).length ∧ ((format02d n).length < 3 ↔ -9 ≤ n ∧ n ≤ 99) := by
  have hone : ∀ m : ℕ, 1 ≤ (decimal m).length ∧ ((decimal m).length ≤ 1 ↔ m < 10) ∧
      ((decimal m).length ≤ 2 ↔ m < 100) := by
    intro m
    refine ⟨?_, decimal_length_le Nat.one_pos, decimal_length_le Nat.two_pos⟩
    rw [decimal_nat, List.length_map]
    exact Nat.length_toDigits_pos
  unfold format02d
  cases n with
  | ofNat m =>
    obtain ⟨hpos, hdigit, htwo⟩ := hone m
    rw [Int.ofNat_eq_natCast]
    split_ifs with hsmall
    · rw [List.length_cons]
      omega
    · omega
  | negSucc m =>
    obtain ⟨hpos, hdigit, htwo⟩ := hone (m + 1)
    rw [if_neg (by omega), decimal_negSucc, List.length_cons]
    omega

theorem format02d_zone {n : ℤ} (h : -9 ≤ n ∧ n ≤ 99) : (format02d n).length = 2 := by
  have hlength := format02d_length n
  omega

theorem ascii2gsm7Octets_length (ascii : List UInt8) :
    (ascii2gsm7Octets ascii).length = (7 * ascii.length + 7) / 8 := by
  have hfold : ∀ (updates : List (ℤ × UInt8)) (enc : List UInt8),
      (updates.foldl (fun enc p => enc.modify p.1.toNat (· ||| p.2)) enc).length = enc.length := by
    intro updates
    induction updates with
    | nil => exact fun enc => rfl
    | cons p updates ih =>
      intro enc
      rw [List.foldl_cons, ih, List.length_modify]
  rw [ascii2gsm7Octets, hfold, List.length_replicate]

theorem data2string_length (data : List UInt8) (h : 0 < data.length) :
    ∃ string, data2string data = some string ∧ string.length = 2 * data.length :=
  ⟨_, if_neg h.ne', hexBytes_length data⟩

/-- The place of the terminator is the one that is missing. -/
theorem runOn_padOps {size : ℕ} (h : number.length < size) :
    (runOn size number (padOps b number)).isSome ↔ (0 < number.length % 2 → number.length + 1 < size) := by
  rw [runOn_appends (appends_padOps b number) h]
  unfold padOps
  split_ifs with hodd hfits hfits <;> simp_all [text, cString]

end Arrays

section Parts

variable {info : TapiNettextInfo} {b : SmsBuffer}

/-! What the parts of the program write to: all but the PDU, and `c`, belong to one of them. -/

theorem scaOps_on (hpdu : b ≠ .pdu) (hc : b ≠ .c) (hsmsc : b ≠ .smsc) : on b info.scaOps = [] := by
  unfold TapiNettextInfo.scaOps
  simp [hpdu.symm, hc.symm, hsmsc.symm]

theorem oaOps_on (hpdu : b ≠ .pdu) (hc : b ≠ .c) (hfrom : b ≠ .szFromNumber) : on b info.oaOps = [] := by
  unfold TapiNettextInfo.oaOps
  simp [hpdu.symm, hc.symm, hfrom.symm]

theorem timeStampOps_on (hbuf : b ≠ .buf) (hc : b ≠ .c) (htpScts : b ≠ .tpScts) (time : UInt32) :
    on b (info.timeStampOps time) = [] := by
  unfold TapiNettextInfo.timeStampOps
  simp [hbuf.symm, hc.symm, htpScts.symm]

theorem statusOps_on (hpdu : b ≠ .pdu) (htpScts : b ≠ .tpScts) :
    on b info.statusOps = on b (info.timeStampOps info.dischargeTime) := by
  unfold TapiNettextInfo.statusOps
  simp [hpdu.symm, htpScts.symm]

theorem userDataOps_on (htpUd : b ≠ .tpUd) (hmessage : b ≠ .message) : on b info.userDataOps.ops = [] := by
  unfold TapiNettextInfo.userDataOps unicodeOps gsm7PartOps gsm7Ops
  split_ifs <;> simp [htpUd.symm, hmessage.symm]

theorem messageOps_on (hpdu : b ≠ .pdu) (htpDcs : b ≠ .tpDcs) (htpUdl : b ≠ .tpUdl) :
    on b info.messageOps = on b info.userDataOps.ops := by
  unfold TapiNettextInfo.messageOps
  simp [hpdu.symm, htpDcs.symm, htpUdl.symm]

/-! What they append to the PDU. -/

theorem on_pdu_scaOps : on .pdu info.scaOps =
    if 0 < (padded (bufferString info.smsc.toList)).length then
      append .pdu (format02x ((padded (bufferString info.smsc.toList)).length / 2 + 1)) ::
        append .pdu (cString "91") :: swapOps .pdu (padded (bufferString info.smsc.toList))
    else [append .pdu (cString "00")] := by
  simp [TapiNettextInfo.scaOps]

theorem on_pdu_oaOps : on .pdu info.oaOps =
    if info.tonFromNumber = 5 then
      [append .pdu (format02x ((bufferString info.szFromNumber.toList).length * 7 * 2 / 8 +
        if 0 < (bufferString info.szFromNumber.toList).length * 7 * 2 % 8 then 1 else 0)),
        append .pdu (cString "D0"),
        append .pdu (data2string (ascii2gsm7Octets (bufferString info.szFromNumber.toList)))]
    else append .pdu (format02x (bufferString info.szFromNumber.toList).length) ::
      append .pdu (some (if info.tonFromNumber = 1 then cString "91" else cString "81")) ::
        swapOps .pdu (padded (bufferString info.szFromNumber.toList)) := by
  simp [TapiNettextInfo.oaOps]

theorem on_pdu_statusOps : on .pdu info.statusOps =
    [append .pdu (info.tpScts info.scTime), append .pdu (info.tpScts info.dischargeTime),
      append .pdu (some (if info.statusReport = 0 then cString "00" else cString "01"))] := by
  simp [TapiNettextInfo.statusOps, timeStampOps_on]

theorem on_pdu_messageOps : on .pdu info.messageOps =
    [append .pdu (format02x (if info.bFlash = 1 ∧ info.classType = 0 then info.userDataOps.dcs + 0x10
        else info.userDataOps.dcs)),
      append .pdu (info.tpScts info.scTime), append .pdu (format02x info.userDataOps.messageLength),
      append .pdu info.userDataOps.tpUd] := by
  simp [TapiNettextInfo.messageOps, userDataOps_on]

/-- The operations on every single array. -/
def TapiNettextInfo.opsOn (info : TapiNettextInfo) (b : SmsBuffer) : List (StringOp SmsBuffer) :=
  match b with
  | .pdu => on .pdu info.scaOps ++ [append .pdu info.pduType] ++ on .pdu info.oaOps ++
      if info.dischargeTime ≠ 0 then on .pdu info.statusOps
      else append .pdu (cString "00") :: on .pdu info.messageOps
  | .c => on .c info.scaOps ++ on .c info.oaOps ++ on .c (info.timeStampOps info.scTime) ++
      if info.dischargeTime ≠ 0 then on .c (info.timeStampOps info.dischargeTime) else []
  | .buf | .tpScts => on b (info.timeStampOps info.scTime) ++
      if info.dischargeTime ≠ 0 then on b info.statusOps else []
  | .tpDcs | .tpUdl => if info.dischargeTime ≠ 0 then [] else on b info.messageOps
  | .message | .tpUd => if info.dischargeTime ≠ 0 then [] else on b info.userDataOps.ops
  | .smsc => on .smsc info.scaOps
  | .szFromNumber => on .szFromNumber info.oaOps

theorem on_smsOps (b : SmsBuffer) : on b info.smsOps = info.opsOn b := by
  unfold TapiNettextInfo.smsOps
  cases b <;>
    simp only [TapiNettextInfo.opsOn, on_append, on_ite, on_cons, on_nil, buffer, scaOps_on, oaOps_on,
      timeStampOps_on, statusOps_on, messageOps_on, userDataOps_on, ne_eq, reduceCtorEq,
      not_false_eq_true, if_true, if_false, ite_self, List.nil_append, List.append_nil]
  by_cases hdischarge : info.dischargeTime = 0
  · rw [if_pos hdischarge, if_neg (not_not.mpr hdischarge), if_neg (not_not.mpr hdischarge),
      List.append_assoc, List.singleton_append]
  · rw [if_neg hdischarge, if_pos hdischarge, if_pos hdischarge, List.append_nil]

end Parts

end Mocha.Ril
