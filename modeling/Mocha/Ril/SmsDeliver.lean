import Mocha.Ril.Nettext

/-! Incoming messages (`ipc_incoming_sms`): the hexadecimal PDU for the telephony layer. Accesses
outside a buffer and null strings are not followed. -/
namespace Mocha.Ril
open Mocha.Lib

/-- `sprintf(c, "%02x", n)` into three characters. -/
def sprintf02x (n : ℕ) : Option CString := if n < 256 then some (hexByte (UInt8.ofNat n)) else none

def twoDigits (n : ℕ) : CString := [0x30 + UInt8.ofNat (n / 10 % 10), 0x30 + UInt8.ofNat (n % 10)]

/-- `sprintf(c, "%02d", n)` into three characters. -/
def sprintf02d (n : ℤ) : Option CString :=
  if 0 ≤ n ∧ n ≤ 99 then some (twoDigits n.toNat)
  else if -9 ≤ n ∧ n < 0 then some [0x2D, 0x30 + UInt8.ofNat (-n).toNat]
  else none

/-- `struct tm`, as far as it is printed. -/
structure Tm where
  tmSec : ℕ
  tmMin : ℕ
  tmHour : ℕ
  tmMday : ℕ
  tmMon : ℕ
  tmYear : ℤ
deriving DecidableEq, Repr

/-- `gmtime`. The days are counted in eras of 400 years that begin with a March. -/
def gmtime (t : ℤ) : Tm :=
  let days := t / 86400 + 719468
  let secs := (t % 86400).toNat
  let dayOfEra := (days % 146097).toNat
  let yearOfEra := (dayOfEra - dayOfEra / 1460 + dayOfEra / 36524 - dayOfEra / 146096) / 365
  let dayOfYear := dayOfEra - (365 * yearOfEra + yearOfEra / 4 - yearOfEra / 100)
  let month := (5 * dayOfYear + 2) / 153
  { tmSec := secs % 60
    tmMin := secs / 60 % 60
    tmHour := secs / 3600
    tmMday := dayOfYear - (153 * month + 2) / 5 + 1
    tmMon := if month < 10 then month + 2 else month - 10
    tmYear := days / 146097 * 400 + yearOfEra + (if month < 10 then 0 else 1) - 1900 }

/-- `strftime(buf, .., "%y%m%d%H%M%S", tm)` -/
def strftime (tm : Tm) : CString :=
  twoDigits (tm.tmYear % 100).toNat ++ twoDigits (tm.tmMon + 1) ++ twoDigits tm.tmMday ++
    twoDigits tm.tmHour ++ twoDigits tm.tmMin ++ twoDigits tm.tmSec

/-- The 29th of February 2012, two seconds before midnight. -/
example : gmtime 1330559998 = ⟨58, 59, 23, 29, 1, 112⟩ := by decide

/-- The loop that appends the characters of a string in swapped pairs. -/
def swapPairs : CString → CString
  | [] => []
  | [x] => [x]
  | x :: y :: l => y :: x :: swapPairs l

theorem swapPairs_length (s : CString) : (swapPairs s).length = s.length := by
  induction s using swapPairs.induct with
  | case1 => rfl
  | case2 x => rfl
  | case3 x y s ih => rw [swapPairs, List.length_cons, List.length_cons, ih]; rfl

/-- The string in an array. -/
def arrayString {n : ℕ} (a : List.Vector UInt8 n) : Option CString :=
  let s := bufferString a.toList
  if s.length < n then some s else none

/-- `strcat(number, "F")` for an odd number of digits, in an array of `n` characters. -/
def padNumber (n : ℕ) (number : CString) : Option CString :=
  if 0 < number.length % 2 then
    if number.length + 2 ≤ n then some (number ++ [0x46]) else none
  else some number

/-- `strncat(dst, src, n)`: the characters that are appended. -/
def strncatChars (src : List UInt8) (n : ℕ) : Option CString :=
  let chars := bufferString (src.take n)
  if chars.length < src.length ∨ chars.length = n then some chars else none

namespace TapiNettextInfo

variable (info : TapiNettextInfo)

/-- SCA -/
def sca : Option CString := do
  let numberSmsc ← padNumber 24 (← arrayString info.smsc)
  if 0 < numberSmsc.length then
    let len ← sprintf02x (numberSmsc.length / 2 + 1)
    return len ++ cString "91" ++ swapPairs numberSmsc
  else return cString "00"

/-- The PDU type, and the message reference of a status report. -/
def pduType : CString :=
  if info.dischargeTime = 0 then
    if info.nUdh = 1 ∨ info.msgType = 0x10 then cString "44" else cString "04"
  else cString "0600"

/-- TP-OA -/
def tpOa : Option CString := do
  let numberOa ← arrayString info.szFromNumber
  if info.tonFromNumber = 5 then do
    let numberTmp ← ascii2gsm7 numberOa
    let number ← data2string numberTmp
    let len ← sprintf02x (numberOa.length * 7 * 2 / 8 + if 0 < numberOa.length * 7 * 2 % 8 then 1 else 0)
    return len ++ cString "D0" ++ number
  else do
    let number ← padNumber 21 numberOa
    let len ← sprintf02x numberOa.length
    return len ++ (if info.tonFromNumber = 1 then cString "91" else cString "81") ++ swapPairs number

/-- TP-SCTS, and the discharge time. -/
def timeStamp (time : UInt32) : Option CString := do
  let timeZone ← sprintf02d info.timeZone.toInt32.toInt
  return swapPairs (strftime (gmtime time.toInt32.toInt) ++ timeZone)

end TapiNettextInfo

/-- TP-DCS, TP-UDL and TP-UD. -/
structure TpUserData where
  dcs : ℕ
  tpUdl : CString
  tpUd : CString

/-- The user data of a message in Unicode, or for MMS. -/
def unicodeUserData (dcs : ℕ) (nUdh : UInt8) (messageLength : ℕ) (messageBody : List UInt8) :
    Option TpUserData := do
  let body ← readAt messageBody 0 messageLength
  let message ← data2string body
  let tpUd := if nUdh = 1 then cString "05" ++ message else message
  let tpUdl ← sprintf02x (if nUdh = 1 then messageLength + 1 else messageLength)
  return ⟨dcs, tpUdl, tpUd⟩

/-- The user data of a part of a message in GSM7. Seven characters keep the place of the header, and
the text is taken up to the first null character. -/
def gsm7PartUserData (messageLength : ℕ) (messageBody : List UInt8) : Option TpUserData := do
  let text ← strncatChars (messageBody.drop 5) (messageLength + 2)
  if messageLength + 3 < 7 + text.length + 1 then none
  else
    let message := cString "0000000" ++ text ++
      List.replicate (messageLength + 3 - (7 + text.length)) 0
    let messageTmp ← ascii2gsm7 (message.take (messageLength + 2))
    if messageTmp.length < 6 then none
    else
      let tpUd ← data2string (5 :: messageBody.take 5 ++ messageTmp.drop 6)
      let tpUdl ← sprintf02x (messageLength + 2)
      return ⟨0, tpUdl, tpUd⟩

/-- The user data of a message in GSM7. -/
def gsm7UserData (messageLength : ℕ) (messageBody : List UInt8) : Option TpUserData := do
  let body ← readAt messageBody 0 messageLength
  let messageTmp ← ascii2gsm7 body
  let tpUd ← data2string messageTmp
  let tpUdl ← sprintf02x messageLength
  return ⟨0, tpUdl, tpUd⟩

/-- The user data, from TP-DCS on. -/
def TapiNettextInfo.tpUserData (info : TapiNettextInfo) : Option TpUserData :=
  if info.alphabetType = 3 ∨ info.msgType = 0x10 then
    unicodeUserData (if info.msgType = 0x10 then 0x04 else 0x08) info.nUdh info.messageLength.toNat
      info.messageBody.toList
  else if info.nUdh = 1 then gsm7PartUserData info.messageLength.toNat info.messageBody.toList
  else gsm7UserData info.messageLength.toNat info.messageBody.toList

inductive SmsUnsol
  | newSms
  | newSmsStatusReport
deriving DecidableEq, Repr

/-- `pdu[400]` -/
def smsPduSize : ℕ := 400

/-- What stands behind TP-OA: the fields of a status report, or those of a message. -/
def TapiNettextInfo.afterOa (info : TapiNettextInfo) : Option (SmsUnsol × CString) := do
  let tpScts ← info.timeStamp info.scTime
  if info.dischargeTime ≠ 0 then do
    let dischargeTime ← info.timeStamp info.dischargeTime
    let status := if info.statusReport = 0 then cString "00" else cString "01"
    return (.newSmsStatusReport, tpScts ++ dischargeTime ++ status)
  else do
    let userData ← info.tpUserData
    let dcs := if info.bFlash = 1 ∧ info.classType = 0 then userData.dcs + 0x10 else userData.dcs
    let tpDcs ← sprintf02x dcs
    return (.newSms, cString "00" ++ tpDcs ++ tpScts ++ userData.tpUdl ++ userData.tpUd)

/-- `ipc_incoming_sms`: the unsolicited response and its PDU. -/
def ipcIncomingSms (info : TapiNettextInfo) : Option (SmsUnsol × CString) := do
  let sca ← info.sca
  let tpOa ← info.tpOa
  let (unsol, rest) ← info.afterOa
  let pdu := sca ++ info.pduType ++ tpOa ++ rest
  if pdu.length < smsPduSize then some (unsol, pdu) else none

theorem ipcIncomingSms_fields {info : TapiNettextInfo} {unsol : SmsUnsol} {pdu : CString}
    (hpdu : ipcIncomingSms info = some (unsol, pdu)) : ∃ sca tpOa rest, info.sca = some sca ∧
      info.tpOa = some tpOa ∧ info.afterOa = some (unsol, rest) ∧
        pdu = sca ++ info.pduType ++ tpOa ++ rest := by
  obtain ⟨sca, hsca, hpdu⟩ := Option.bind_eq_some_iff.mp hpdu
  obtain ⟨tpOa, htpOa, hpdu⟩ := Option.bind_eq_some_iff.mp hpdu
  obtain ⟨⟨unsol', rest⟩, hrest, hpdu⟩ := Option.bind_eq_some_iff.mp hpdu
  dsimp only at hpdu
  split_ifs at hpdu
  obtain ⟨rfl, rfl⟩ := Prod.mk.inj (Option.some_inj.mp hpdu)
  exact ⟨sca, tpOa, rest, hsca, htpOa, hrest, rfl⟩

end Mocha.Ril
