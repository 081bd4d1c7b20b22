import Mocha.Ril.Network
import Mocha.Ril.Pin

/-! Requests from the telephony layer (`ril_on_request`), with the power of the radio (`pwr.c`). -/
namespace Mocha.Ril
open Mocha.Lib

def tapiNetworkOfflineModeOff : UInt8 := 0
def tapiNetworkOfflineModeOn : UInt8 := 1

/-- `network_start` -/
def networkStart (s : RilData) : RilData × List RilEffect :=
  let startInfo : TapiStartupNetworkInfo := {
    bAutoSelection := s.bAutoAttach
    bPoweronGprsAttach := 1
    networkOrder := 1
    serviceDomain := 0
    networkMode := s.state.netMode
    subscriptionMode := 0
    bFlightMode := 0
    unknown := 0x02 }
  let packets : List RilEffect := [.ipc (.tapiNetworkStartup startInfo),
    .ipc (.tapiNettextSetPreferredMemory 1), .ipc (.tapiNettextSetNetBurst 0)]
  if s.state.simState = .ready then ((ipcSimStatus s .ready).1, packets ++ (ipcSimStatus s .ready).2)
  else (s, packets)

def rilRequestRadioPower (s : RilData) (t : RilToken) (powerState : ℤ) : RilData × List RilEffect :=
  let success : List RilEffect :=
    [.complete ⟨t, .success, none⟩, .unsolicited .responseRadioStateChanged]
  if s.state.powerState = .off then (s, [.complete ⟨t, .radioNotAvailable, none⟩])
  else if powerState ≤ 0 then
    ({ s with state := { s.state with powerState := .lpm, radioState := .off } },
      .ipc (.tapiSetOfflineMode tapiNetworkOfflineModeOn) :: success)
  else
    let r := networkStart { s with state := { s.state with powerState := .normal, radioState := .on } }
    (r.1, .ipc (.tapiSetOfflineMode tapiNetworkOfflineModeOff) :: (r.2 ++ success))

/-- A request code with its payload. -/
inductive RilRequest
  | getImei
  | getImsi
  | radioPower (powerState : ℤ)
  | basebandVersion
  | getSimStatus
  | simIo (data : Option RilSimIoV6)
  | enterSimPin (pointerLength : ℕ) (pin : CString)
  | enterSimPuk (data : Option (List CString))
  | queryFacilityLock (data : Option (List CString))
  | setFacilityLock (data : Option (List CString))
  | changeSimPin (data : Option (List CString))
  | operator
  | voiceRegistrationState
  | dataRegistrationState
  | queryAvailableNetworks
  | setNetworkSelectionAutomatic
  | setNetworkSelectionManual (data : Option (CString × ℕ))
  | queryNetworkSelectionMode
  | getPreferredNetworkType
  | setPreferredNetworkType (data : Option ℤ)
  | sendSms (data : Option (List (Option CString)))
  | sendSmsExpectMore (data : Option (List (Option CString)))
  | smsAcknowledge
  | calls (c : CallModuleRequest)
  | setupDataCall (data : Option SetupDataCall) (allocated : Bool) (iface : ℤ)
  | deactivateDataCall (cid : Option CString)
  | lastDataCallFailCause
  | dataCallList
  | setMute (mute : ℤ)
  | sendUssd (data : CString)
  | cancelUssd
  | screenState (status : ℤ)
  | other (request : ℤ)
deriving DecidableEq

namespace RilData

/-! The handlers of the modules, on the part of `ril_data` that is theirs. -/

def inCalls (s : RilData) (r : CallModule × List CallModuleEffect) : RilData × List RilEffect :=
  ({ s with calls := r.1 }, r.2.map .calls)

def inSms (s : RilData) (r : SmsData × List SmsEffect) : RilData × List RilEffect :=
  ({ s with outgoingSms := r.1 }, r.2.map .sms)

def inGprs (s : RilData) (r : GprsData × List GprsEffect) : RilData × List RilEffect :=
  ({ s with gprs := r.1 }, r.2.map .gprs)

def inSimIo (s : RilData) (r : SimIoData × List SimIoEffect) : RilData × List RilEffect :=
  ({ s with simIo := r.1 }, r.2.map .simIo)

/-- The recursion of `ril_request_send_sms` ends within two calls for each message that waits. -/
def sendSmsFuel (s : RilData) : ℕ := 2 * s.outgoingSms.outgoingSms.length + 2

def sendSms (s : RilData) (t : RilToken) (data : Option (List (Option CString))) :
    RilData × List RilEffect :=
  s.inSms ((rilRequestSendSms s.sendSmsFuel s.outgoingSms t s.simIo.smscNumber data).getD
    (s.outgoingSms, []))

end RilData

/-- The switch of `ril_on_request`. -/
def rilRequestHandler (s : RilData) (t : RilToken) : RilRequest → RilData × List RilEffect
  | .getImei => rilRequestGetImei s t
  | .getImsi => rilRequestGetImsi s t
  | .radioPower powerState => rilRequestRadioPower s t powerState
  | .basebandVersion => rilRequestBasebandVersion s t
  | .getSimStatus => rilRequestGetSimStatus s t
  | .simIo data => s.inSimIo (rilRequestSimIo s.simIo t data)
  | .enterSimPin pointerLength pin => rilRequestEnterSimPin s t pointerLength pin
  | .enterSimPuk data => rilRequestEnterSimPuk s t data
  | .queryFacilityLock data => rilRequestQueryFacilityLock s t data
  | .setFacilityLock data => rilRequestSetFacilityLock s t data
  | .changeSimPin data => rilRequestChangeSimPin s t data
  | .operator => rilRequestOperator s t
  | .voiceRegistrationState => rilRequestVoiceRegistrationState s t
  | .dataRegistrationState => rilRequestDataRegistrationState s t
  | .queryAvailableNetworks => rilRequestQueryAvailableNetworks s t
  | .setNetworkSelectionAutomatic => rilRequestSetNetworkSelectionAutomatic s t
  | .setNetworkSelectionManual data => rilRequestSetNetworkSelectionManual s t data
  | .queryNetworkSelectionMode => rilRequestQueryNetworkSelectionMode s t
  | .getPreferredNetworkType => rilRequestGetPreferredNetworkType s t
  | .setPreferredNetworkType data => rilRequestSetPreferredNetworkType s t data
  | .sendSms data => s.sendSms t data
  | .sendSmsExpectMore data => s.sendSms t data
  | .smsAcknowledge => (s, [.complete ⟨t, .success, none⟩])
  | .calls c => s.inCalls (callModuleRequestHandler s.calls t c)
  | .setupDataCall data allocated iface =>
    s.inGprs (rilRequestSetupDataCall s.gprs t data allocated iface)
  | .deactivateDataCall cid => s.inGprs (rilRequestDeactivateDataCall s.gprs t cid)
  | .lastDataCallFailCause => s.inGprs (rilRequestLastDataCallFailCause s.gprs t)
  | .dataCallList => s.inGprs (rilRequestDataCallList s.gprs t)
  | .setMute mute => rilRequestSetMute s t mute
  | .sendUssd data => rilRequestSendUssd s t data
  | .cancelUssd => rilRequestCancelUssd s t
  | .screenState status => rilRequestScreenState s t status
  | .other _ => (s, [.complete ⟨t, .requestNotSupported, none⟩])

/-! The effects that are packets to the modem. -/

def CallModuleEffect.isPacket : CallModuleEffect → Bool
  | .control (.tapiCallSetup _) | .control (.tapiCallRelease ..) | .control (.tapiCallAnswer ..)
  | .control (.tapiCallHold _) | .control (.tapiCallActivate _) | .control (.tapiCallsSwap ..)
  | .tapiStartDtmf .. | .tapiStopDtmf _ => true
  | _ => false

def SmsEffect.isPacket : SmsEffect → Bool
  | .tapiNettextSetNetBurst _ | .tapiNettextSend _ => true
  | _ => false

def GprsEffect.isPacket : GprsEffect → Bool
  | .protoStartNetwork _ | .protoStopNetwork _ => true
  | _ => false

def SimIoEffect.isPacket : SimIoEffect → Bool
  | .request _ => true
  | _ => false

def RilEffect.isPacket : RilEffect → Bool
  | .ipc _ => true
  | .calls e => e.isPacket
  | .sms e => e.isPacket
  | .gprs e => e.isPacket
  | .simIo e => e.isPacket
  | _ => false

namespace RilData

/-- `ipc_send` drops a packet when the client or its data is null. -/
def ipcSend (s : RilData) (out : List RilEffect) : List RilEffect :=
  out.filter fun e => !e.isPacket || s.ipcPacketClient.any (·.hasData)

def rilModemCheck (s : RilData) : ℤ :=
  match s.ipcPacketClient with
  | none => -1
  | some client => if client.state ≠ .ready then -2 else 0

end RilData

/-- `ril_on_request`: the refusal does not keep the request from its handler. -/
def rilOnRequest (s : RilData) (request : RilRequest) (t : RilToken) : RilData × List RilEffect :=
  let refusal : List RilEffect :=
    if s.rilModemCheck < 0 then [.complete ⟨t, .radioNotAvailable, none⟩] else []
  let r := rilRequestHandler s t request
  (r.1, refusal ++ s.ipcSend r.2)

end Mocha.Ril
