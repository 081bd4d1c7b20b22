import Mocha.Ril.CellInfo
import Mocha.Ril.DtmfAnswer
import Mocha.Ril.GprsChange
import Mocha.Ril.PinPacket
import Mocha.Ril.RadioState
import Mocha.Ril.SimIoQueue
import Mocha.Ril.SimOpen
import Mocha.Ril.SmscNumber
import Mocha.Ril.SmsDeliver
import Mocha.Ril.Ussd

/-! The telephony layer as one system (`mocha-ril.c`): requests, the callbacks that
`ril_install_ipc_callbacks` registers, and the states of the client, in any order, each of them on the
whole of `ril_data`. `RIL_LOCK` makes one of them follow the other. -/
namespace Mocha.Ril
open Mocha.Lib Mocha.Ipc

/-- `tapiNitzInfo`, as far as it is read. -/
structure TapiNitzInfo where
  bNetworkTimeAvail : UInt32
  year : UInt8
  month : UInt8
  day : UInt8
  hour : UInt8
  minute : UInt8
  second : UInt8
  tz : UInt8
  dls : UInt8
deriving DecidableEq

/-- An indication about the data connections, which brings in no token. -/
abbrev GprsIndication := { e : GprsEvent // e.token = none }

/-- The callbacks, with what the modem's packet says; events of the SIM that are read by offsets come with
the number of their bytes. `LBS_GET_POSITION_IND`, whose callback neither reads nor changes `ril_data`, is
left out. -/
inductive RilCallback
  | cpSystemStart (desc : CString) (datasize : UInt32)
  | networkRadioInfo (rxLevel : UInt8)
  | networkSelect (netInfo : TapiNetworkInfo)
  | networkCellInfo (cellInfo : TapiCellInfo)
  | networkNitzInfo (nitz : TapiNitzInfo)
  | networkSearchCnf (entries : List TapiNetSearchCnf)
  | networkSelectCnf (netInfo : TapiNetworkInfo)
  | calls (ind : CallIndication)
  | simOpen (ev : SimEvent) (len : ℕ) (stack : CString)
  | simStatus (simState : RilSimState)
  | simIoResponse (ev : SimEvent)
  | simSmscNumber (ev : SimEvent) (len : ℕ)
  | lockStatus (ev : SimEvent)
  | nettextIncoming (info : TapiNettextInfo)
  | nettextSend (status : UInt32)
  | ssUssd (fresh : ℕ → UInt8) (ssResp : TapiSsCallback)
  | ssError (data : Int32)
  | lbsState (lbsState : UInt32)
  | proto (ind : GprsIndication)

/-- The members of `GpsStatusValue` that are sent. -/
inductive GpsStatusValue
  | sessionBegin
  | sessionEnd
deriving DecidableEq, Repr

/-- `RIL_SignalStrength_v6`, as far as it is set. -/
structure RilSignalStrength where
  signalStrength : ℕ
  bitErrorRate : ℕ
deriving DecidableEq

inductive SystemEffect
  | identity (e : IdentityEffect)
  | signalStrength (ss : RilSignalStrength)
  | nitzTimeReceived (nitz : CString)
  | newSms (unsol : SmsUnsol) (pdu : CString)
  | onUssd (ussd : OnUssd)
  | srsGpsState (value : GpsStatusValue)

/-- A token of the framework, neither null nor the mark for a missing number. -/
abbrev FrameworkToken := SimIoToken

namespace FrameworkToken

def request (t : FrameworkToken) : RequestToken := ⟨t.1, t.2.1⟩

end FrameworkToken

/-- Requests, callbacks, changes of the state of the client by its thread, and reads of the IMEI. -/
inductive RilEvent
  | request (request : RilRequest) (t : FrameworkToken)
  | callback (c : RilCallback)
  | clientState (state : RilClientState)
  | loadSecData (data : List UInt8)

/-- The steps of the signal strength in `ipc_network_radio_info`. -/
def asuOfRxLevel (rxLevel : UInt8) : ℕ :=
  match rxLevel.toNat with
  | 10 => 1
  | 25 => 3
  | 45 => 5
  | 60 => 8
  | 75 => 12
  | 90 => 15
  | _ => 1

/-- `ipc_network_radio_info`; nothing is reported below the normal mode. -/
def ipcNetworkRadioInfo (s : RilData) (rxLevel : UInt8) : RilData × List SystemEffect :=
  match s.state.powerState with
  | .off | .lpm => (s, [])
  | .normal | .simInitComplete => (s, [.signalStrength ⟨asuOfRxLevel rxLevel, 99⟩])

/-- `%02u` -/
def paddedDecimal (n : UInt8) : CString :=
  if n.toNat < 10 then 0x30 :: decimal n.toNat else decimal n.toNat

def TapiNitzInfo.print (nitz : TapiNitzInfo) : CString :=
  paddedDecimal nitz.year ++ cString "/" ++ paddedDecimal nitz.month ++ cString "/" ++
    paddedDecimal nitz.day ++ cString "," ++ paddedDecimal nitz.hour ++ cString ":" ++
    paddedDecimal nitz.minute ++ cString ":" ++ paddedDecimal nitz.second ++ cString "+" ++
    paddedDecimal nitz.tz ++ cString "," ++ paddedDecimal nitz.dls

def ipcNetworkNitzInfo (s : RilData) (nitz : TapiNitzInfo) : RilData × List SystemEffect :=
  if nitz.bNetworkTimeAvail = 0 then (s, []) else (s, [.nitzTimeReceived nitz.print])

/-- `ipc_ss_error_response`, which prints the address of the packet for the cause. -/
def ipcSsErrorResponse (s : RilData) (data : Int32) : RilData × List SystemEffect :=
  ({ s with state := { s.state with ussdState := ussdTerminatedByNet } },
    [.onUssd ⟨decimal ussdTerminatedByNet, ⟨decimal data.toInt ++ [0x00], true⟩⟩])

def ipcLbsStateInd (s : RilData) (lbsState : UInt32) : RilData × List SystemEffect :=
  (s, [.srsGpsState (if lbsState = 1 then .sessionBegin else .sessionEnd)])

/-- The effects of a handler of `mocha-ril` as effects of the system. -/
def ofRil (r : RilData × List RilEffect) : RilData × List SystemEffect :=
  (r.1, r.2.map fun e => .identity (.ril e))

def ofIdentity (r : RilData × List IdentityEffect) : RilData × List SystemEffect :=
  (r.1, r.2.map .identity)

/-- `ipc_sms_send_status`, with the fuel that the waiting messages need. -/
def RilData.smsSendStatus (s : RilData) (status : UInt32) : RilData × List RilEffect :=
  s.inSms ((ipcSmsSendStatus s.sendSmsFuel s.outgoingSms status).getD (s.outgoingSms, []))

/-- The bytes of an event from an offset on. -/
def eventBytes (ev : SimEvent) (off n : ℕ) : List UInt8 := (List.range n).map fun i => ev ((off + i : ℕ) : ℤ)

/-- `ipc_sim_open`, within the bounds of the event and of the buffers of the IMSI. -/
def ipcSimOpenInBounds (s : RilData) (ev : SimEvent) (len : ℕ) (stack : CString) :
    Option (RilData × List IdentityEffect) :=
  (simOpened (eventBytes ev 0 len) (.replicate 14 0)).map fun _ => ipcSimOpen s ev stack

/-- The size of the headers in front of the record of an answer. -/
def simRecordOffset : ℕ := 17

/-- `ipc_sim_smsc_number`, within the bounds of the record and of `smsc_number`. -/
def ipcSimSmscNumberInBounds (s : SimIoData) (ev : SimEvent) (len : ℕ) :
    Option (SimIoData × List SimIoEffect) :=
  (smscNumberOf s.smscNumber (eventBytes ev simRecordOffset (len - simRecordOffset)) ev.dataBufLen).map
    fun _ => ipcSimSmscNumber s ev

def RilEffect.freesAgain : RilEffect → Bool
  | .sms e => e.freesAgain
  | _ => false

def SystemEffect.freesAgain : SystemEffect → Bool
  | .identity (.ril e) => e.freesAgain
  | _ => false

/-- A second `free` of a buffer ends the run. -/
def freedOnce (r : RilData × List SystemEffect) : Option (RilData × List SystemEffect) :=
  if r.2.all fun e => !e.freesAgain then some r else none

theorem freedOnce_eq_some {r r' : RilData × List SystemEffect} :
    freedOnce r = some r' ↔ r = r' ∧ ∀ e ∈ r.2, e.freesAgain = false := by
  unfold freedOnce
  split_ifs with h
  · simpa using fun _ => h
  · simpa using fun _ => h

/-- `ipc_invoke_ril_cb`; `none` where a callback writes outside of the arrays of `ril_data`, of a context of
a call or of its own, reads outside of the bytes of an event, or frees a buffer twice. -/
def ipcInvokeRilCb (s : RilData) : RilCallback → Option (RilData × List SystemEffect)
  | .cpSystemStart desc datasize => (ipcCpSystemStart s desc datasize).map ofIdentity
  | .networkRadioInfo rxLevel => some (ipcNetworkRadioInfo s rxLevel)
  | .networkSelect netInfo => (ipcNetworkSelect s netInfo).map ofRil
  | .networkCellInfo cellInfo =>
    some (ofRil ((ipcCellInfo ⟨s, 0⟩ cellInfo).1.ril, (ipcCellInfo ⟨s, 0⟩ cellInfo).2))
  | .networkNitzInfo nitz => some (ipcNetworkNitzInfo s nitz)
  | .networkSearchCnf entries => some (ofRil (ipcNetworkSearchCnf s entries))
  | .networkSelectCnf netInfo => some (ofRil (ipcNetworkSelectCnf s netInfo))
  | .calls ind => (callModuleIndicationInBounds s.calls ind).map fun r => ofRil (s.inCalls r)
  | .simOpen ev len stack => (ipcSimOpenInBounds s ev len stack).map ofIdentity
  | .simStatus simState => some (ofRil (ipcSimStatus s simState))
  | .simIoResponse ev => some (ofRil (s.inSimIo (ipcSimIoResponse s.simIo ev)))
  | .simSmscNumber ev len => (ipcSimSmscNumberInBounds s.simIo ev len).map fun r => ofRil (s.inSimIo r)
  | .lockStatus ev => some (ofRil (ipcLockStatus s ev))
  | .nettextIncoming info => (ipcIncomingSms info).map fun p => (s, [.newSms p.1 p.2])
  | .nettextSend status => freedOnce (ofRil (s.smsSendStatus status))
  | .ssUssd fresh ssResp => (ipcSsUssdResponse fresh s ssResp).map fun p =>
    (p.1, p.2.toList.map .onUssd)
  | .ssError data => some (ipcSsErrorResponse s data)
  | .lbsState lbsState => some (ipcLbsStateInd s lbsState)
  | .proto ind => some (ofRil (s.inGprs (gprsHandler s.gprs ind.1)))

/-- The number or the PIN of a request fits where it is copied to. -/
def RilRequest.InBounds (s : RilData) : RilRequest → Prop
  | .calls c => c.InBounds s.calls
  | .enterSimPin pointerLength pin => (ChvRequest.enterSimPin pointerLength pin).InPacket s
  | .enterSimPuk data => (ChvRequest.enterSimPuk data).InPacket s
  | .setFacilityLock data => (ChvRequest.setFacilityLock data).InPacket s
  | .changeSimPin data => (ChvRequest.changeSimPin data).InPacket s
  | _ => True

instance (s : RilData) : DecidablePred (RilRequest.InBounds s)
  | .calls c => inferInstanceAs (Decidable (c.InBounds s.calls))
  | .enterSimPin pointerLength pin =>
    inferInstanceAs (Decidable ((ChvRequest.enterSimPin pointerLength pin).InPacket s))
  | .enterSimPuk data => inferInstanceAs (Decidable ((ChvRequest.enterSimPuk data).InPacket s))
  | .setFacilityLock data => inferInstanceAs (Decidable ((ChvRequest.setFacilityLock data).InPacket s))
  | .changeSimPin data => inferInstanceAs (Decidable ((ChvRequest.changeSimPin data).InPacket s))
  | .getImei | .getImsi | .radioPower _ | .basebandVersion | .getSimStatus | .simIo _
  | .queryFacilityLock _ | .operator
  | .voiceRegistrationState | .dataRegistrationState | .queryAvailableNetworks
  | .setNetworkSelectionAutomatic | .setNetworkSelectionManual _ | .queryNetworkSelectionMode
  | .getPreferredNetworkType | .setPreferredNetworkType _ | .sendSms _ | .sendSmsExpectMore _
  | .smsAcknowledge | .setupDataCall _ _ _ | .deactivateDataCall _ | .lastDataCallFailCause | .dataCallList
  | .setMute _ | .sendUssd _ | .cancelUssd | .screenState _ | .other _ => .isTrue trivial

/-- An event is handled; `none` where the handler leaves its memory or frees a buffer twice. -/
def rilHandler (s : RilData) : RilEvent → Option (RilData × List SystemEffect)
  | .request request t =>
    if request.InBounds s then freedOnce (ofRil (rilOnRequest s request t.1)) else none
  | .callback c => ipcInvokeRilCb s c
  | .clientState state =>
    some ({ s with ipcPacketClient := s.ipcPacketClient.map fun c => { c with state := state } }, [])
  | .loadSecData data => some (loadSecData s data, [])

/-- One event is handled, within the bounds of the memory. -/
def RilStep : Step RilData (RilEvent × List SystemEffect) :=
  fun s a t => rilHandler s a.1 = some (t, a.2)

/-- The token that an event brings in. -/
def RilEvent.token : RilEvent → Option RilToken
  | .request _ t => some t.1
  | _ => none

/-- The token that a call of `ril_request_complete` is made with, in whichever module. -/
def RilEffect.answered : RilEffect → Option RilToken
  | .complete c => some c.token
  | .calls e => e.completed
  | .sms (.complete c) => some c.token
  | .gprs e => e.completion.map (·.token)
  | .simIo e => e.completed
  | _ => none

def SystemEffect.answered : SystemEffect → Option RilToken
  | .identity (.ril e) => e.answered
  | _ => none

/-- The tokens of the requests of a run, in order. -/
def rilIssued (tr : List (RilEvent × List SystemEffect)) : List RilToken :=
  (inputs tr).filterMap RilEvent.token

/-- The tokens that are completed along a run, in order. -/
def rilAnswered (tr : List (RilEvent × List SystemEffect)) : List RilToken :=
  (outputs tr).filterMap SystemEffect.answered

end Mocha.Ril
