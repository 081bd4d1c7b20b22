import Mocha.Lib.Run
import Mocha.Ril.Hex
import Mocha.Ril.Token

/-! Outgoing messages (`sms.c`): the slot `tokens.outgoing_sms`, the list of waiting messages and the
functions that change them. What `ril_request_send_sms_complete` makes of the PDU before it calls
`tapi_nettext_send` is a function of the PDU and the SMSC alone, by which the packet is named here.
Allocations are taken to succeed. -/
namespace Mocha.Ril
open Mocha.Lib

/-- `struct ril_request_send_sms_info`; `none` for a null buffer. -/
structure RilRequestSendSmsInfo where
  pdu : Option (List UInt8)
  pduSize : ℕ
  smsc : Option (List UInt8)
  smscSize : ℕ
  token : RilToken
deriving DecidableEq

/-- `ril_data.tokens.outgoing_sms` and `ril_data.outgoing_sms`. -/
structure SmsData where
  tokenOutgoingSms : RilToken
  outgoingSms : List RilRequestSendSmsInfo
deriving DecidableEq

def SmsData.init : SmsData := ⟨rilTokenNull, []⟩

/-- `RIL_SMS_Response` -/
structure RilSmsResponse where
  messageRef : ℕ
  ackPDU : Option CString
  errorCode : ℤ
deriving DecidableEq

/-- The calls that leave the module. A message carries the token it was requested with only here:
the packet for the modem has none. A buffer may have been freed before. -/
inductive SmsEffect
  | complete (c : Completion RilSmsResponse)
  | tapiNettextSetNetBurst (burst : ℕ)
  | tapiNettextSend (message : RilRequestSendSmsInfo)
  | free (buffer : List UInt8) (again : Bool)
deriving DecidableEq

/-- `if (buffer != NULL && size > 0) free(buffer)` -/
def freeBuffer (again : Bool) (buffer : Option (List UInt8)) (size : ℕ) : List SmsEffect :=
  match buffer with
  | none => []
  | some b => if 0 < size then [.free b again] else []

def SmsEffect.freesAgain : SmsEffect → Bool
  | .free _ again => again
  | _ => false

/-- No buffer is freed that has been freed before. -/
def freesOnce (out : List SmsEffect) : Bool := out.all fun e => !e.freesAgain

/-- Selecting other effects passes over freed buffers. -/
theorem filterMap_frees {β : Type} {again : Bool} {frees : List SmsEffect}
    (h : ∀ e ∈ frees, ∃ b, e = .free b again) (f : SmsEffect → Option β)
    (hf : ∀ b again, f (.free b again) = none) : frees.filterMap f = [] := by
  rw [List.filterMap_eq_nil_iff]
  intro e he
  obtain ⟨b, rfl⟩ := h e he
  exact hf b again

theorem filterMap_frees_append {β : Type} {again : Bool} {frees out : List SmsEffect}
    (h : ∀ e ∈ frees, ∃ b, e = .free b again) (f : SmsEffect → Option β)
    (hf : ∀ b again, f (.free b again) = none) : (frees ++ out).filterMap f = out.filterMap f := by
  rw [List.filterMap_append, filterMap_frees h f hf, List.nil_append]

theorem mem_freeBuffer {again : Bool} {buffer : Option (List UInt8)} {size : ℕ} {e : SmsEffect}
    (h : e ∈ freeBuffer again buffer size) : ∃ b, e = .free b again := by
  unfold freeBuffer at h
  split at h
  · cases h
  · split_ifs at h
    · exact ⟨_, List.mem_singleton.mp h⟩
    · cases h

namespace RilRequestSendSmsInfo

def freeBuffers (info : RilRequestSendSmsInfo) (again : Bool) : List SmsEffect :=
  freeBuffer again info.pdu info.pduSize ++ freeBuffer again info.smsc info.smscSize

/-- The two checks of `ril_request_send_sms_complete`. -/
def refused (info : RilRequestSendSmsInfo) : Bool :=
  info.pdu = none ∨ info.pduSize = 0 ∨ info.smsc = none ∨ info.smscSize = 0 ∨
    0xfe < info.pduSize / 2 + info.smscSize

/-- What a message needs to be waiting: a PDU, and the token of a request. -/
structure Proper (info : RilRequestSendSmsInfo) : Prop where
  pdu_ne : info.pdu ≠ none
  token_ne : info.token ≠ rilTokenNull

theorem mem_freeBuffers {info : RilRequestSendSmsInfo} {again : Bool} {e : SmsEffect}
    (h : e ∈ info.freeBuffers again) : ∃ b, e = .free b again :=
  (List.mem_append.mp h).elim mem_freeBuffer mem_freeBuffer

theorem filterMap_freeBuffers {β : Type} (info : RilRequestSendSmsInfo) (again : Bool)
    (f : SmsEffect → Option β) (hf : ∀ b again, f (.free b again) = none) :
    (info.freeBuffers again).filterMap f = [] := filterMap_frees (fun _ => mem_freeBuffers) f hf

end RilRequestSendSmsInfo

mutual

/-- `ril_request_send_sms_next`; `none` when the recursion is deeper than the fuel. The buffers are freed
once more if the message has been refused. -/
def rilRequestSendSmsNext : ℕ → SmsData → Option (SmsData × List SmsEffect)
  | 0, _ => none
  | fuel + 1, s =>
    match s.outgoingSms with
    | [] => some (⟨rilTokenNull, []⟩, [])
    | info :: rest =>
      match info.pdu with
      | none => some (⟨rilTokenNull, rest⟩, info.smsc.toList.map (.free · false))
      | some _ => do
        let (s, out) ← rilRequestSendSmsComplete fuel ⟨info.token, rest⟩ info
        return (s, out ++ info.freeBuffers info.refused)

/-- `ril_request_send_sms_complete`; the error path frees buffers that the caller frees again. -/
def rilRequestSendSmsComplete : ℕ → SmsData → RilRequestSendSmsInfo →
    Option (SmsData × List SmsEffect)
  | 0, _, _ => none
  | fuel + 1, s, info =>
    if info.refused then do
      let (s, out) ← rilRequestSendSmsNext fuel s
      return (s, .complete ⟨info.token, .smsSendFailRetry, none⟩ :: (info.freeBuffers false ++ out))
    else some (s, [.tapiNettextSetNetBurst 0, .tapiNettextSend info])

end

/-- `ril_request_send_sms_register` -/
def rilRequestSendSmsRegister (s : SmsData) (info : RilRequestSendSmsInfo) : SmsData :=
  { s with outgoingSms := s.outgoingSms ++ [info] }

/-- The conversion of the arguments at the head of `ril_request_send_sms`: the message, or what the
error path frees. `data` is `none` for a null pointer, and lists the strings it points to. -/
def sendSmsInfo (t : RilToken) (smscNumber : CString) :
    Option (List (Option CString)) → Except (List SmsEffect) RilRequestSendSmsInfo
  | some (smscValue :: some pduValue :: _) =>
    let pduSize := string2dataSize pduValue
    if pduSize = 0 then .error []
    else match string2data pduValue with
      | none => .error []
      | some pdu =>
        let smscValue := smscValue.getD smscNumber
        match string2data smscValue with
        | none => .error (freeBuffer false (some pdu) pduSize)
        | some smsc =>
          let smscSize := string2dataSize smscValue
          if smscSize = 0 then .error (freeBuffer false (some pdu) pduSize)
          else .ok ⟨some pdu, pduSize, some smsc, smscSize, t⟩
  | _ => .error []

section Arguments

variable {t : RilToken} {smscNumber : CString} {data : Option (List (Option CString))}

theorem sendSmsInfo_eq_ok {info : RilRequestSendSmsInfo}
    (h : sendSmsInfo t smscNumber data = .ok info) : (∃ pdu, info.pdu = some pdu) ∧
      info.token = t := by
  unfold sendSmsInfo at h
  split at h
  · dsimp only at h
    split at h
    · cases h
    · split at h
      · cases h
      · split at h
        · cases h
        · split at h
          · cases h
          · obtain rfl := Except.ok.inj h
            exact ⟨⟨_, rfl⟩, rfl⟩
  · cases h

/-- A message that the request makes is refused for its size alone. -/
theorem sendSmsInfo_refused {info : RilRequestSendSmsInfo}
    (h : sendSmsInfo t smscNumber data = .ok info) :
    info.refused ↔ 0xfe < info.pduSize / 2 + info.smscSize := by
  unfold sendSmsInfo at h
  split at h
  case h_2 => cases h
  case h_1 =>
    dsimp only at h
    split at h
    case isTrue => cases h
    case isFalse hpduSize =>
      split at h
      case h_1 => cases h
      case h_2 =>
        split at h
        case h_1 => cases h
        case h_2 =>
          split at h
          case isTrue => cases h
          case isFalse hsmscSize =>
            obtain rfl := Except.ok.inj h
            simp [RilRequestSendSmsInfo.refused, hpduSize, hsmscSize]

theorem sendSmsInfo_eq_error {frees : List SmsEffect}
    (h : sendSmsInfo t smscNumber data = .error frees) : ∀ e ∈ frees, ∃ b, e = .free b false := by
  unfold sendSmsInfo at h
  split at h
  · dsimp only at h
    split at h
    · obtain rfl := Except.error.inj h
      simp
    · split at h
      · obtain rfl := Except.error.inj h
        simp
      · split at h
        · obtain rfl := Except.error.inj h
          exact fun e => mem_freeBuffer
        · split at h
          · obtain rfl := Except.error.inj h
            exact fun e => mem_freeBuffer
          · cases h
  · obtain rfl := Except.error.inj h
    simp

end Arguments

/-- `ril_request_send_sms`; `smscNumber` is `ril_data.smsc_number` at the time of the call. -/
def rilRequestSendSms (fuel : ℕ) (s : SmsData) (t : RilToken) (smscNumber : CString)
    (data : Option (List (Option CString))) : Option (SmsData × List SmsEffect) :=
  match sendSmsInfo t smscNumber data with
  | .error frees => do
    let (s, out) ← rilRequestSendSmsNext fuel s
    return (s, .complete ⟨t, .genericFailure, none⟩ :: (frees ++ out))
  | .ok info =>
    if s.tokenOutgoingSms ≠ rilTokenNull then some (rilRequestSendSmsRegister s info, [])
    else do
      let (s, out) ← rilRequestSendSmsComplete fuel { s with tokenOutgoingSms := t } info
      return (s, out ++ info.freeBuffers info.refused)

/-- The error code a send status is reported with. -/
def sendStatusErrno (status : UInt32) : RilErrno := if status = 0 then .success else .genericFailure

/-- `ipc_sms_send_status` -/
def ipcSmsSendStatus (fuel : ℕ) (s : SmsData) (status : UInt32) :
    Option (SmsData × List SmsEffect) := do
  let response : RilSmsResponse := ⟨0, none, if status = 0 then -1 else 500⟩
  let (t, out) ← rilRequestSendSmsNext fuel s
  return (t, .complete ⟨s.tokenOutgoingSms, sendStatusErrno status, some response⟩ :: out)

inductive SmsEvent
  | rilRequestSendSms (t : RequestToken) (smscNumber : CString) (data : Option (List (Option CString)))
  | ipcSmsSendStatus (status : UInt32)
deriving DecidableEq

def smsHandler (fuel : ℕ) (s : SmsData) : SmsEvent → Option (SmsData × List SmsEffect)
  | .rilRequestSendSms t smscNumber data => rilRequestSendSms fuel s t.1 smscNumber data
  | .ipcSmsSendStatus status => ipcSmsSendStatus fuel s status

/-- The handler of an event returns, with the state and the effects that the label says. A second `free`
of a buffer ends the run. -/
def SmsStep : Step SmsData (SmsEvent × List SmsEffect) :=
  fun s a t => (∃ fuel, smsHandler fuel s a.1 = some (t, a.2)) ∧ freesOnce a.2

end Mocha.Ril
