import Mocha.Ril.CallModule
import Mocha.Ril.Gprs
import Mocha.Ril.SimIo
import Mocha.Ril.Sms

/-! `ril_data` as a whole (`mocha-ril.h`): the modules of calls, messages, data connections and SIM
I/O, and beside them the state of the modem, the tokens of the requests that wait in a variable, and
the list of networks. `cached_imei` of `mocha-ipc` is taken in. -/
namespace Mocha.Ril
open Mocha.Lib Mocha.Ipc

inductive RilClientState
  | null
  | created
  | ready
  | destroyed
  | error
deriving DecidableEq, Repr

/-- `struct ril_client`; `hasData` says that `data` is not null. -/
structure RilClient where
  state : RilClientState
  hasData : Bool
deriving DecidableEq

inductive RilRadioState
  | off
  | unavailable
  | simNotReady
  | simLockedOrAbsent
  | simReady
  | on
deriving DecidableEq, Repr

inductive RilSimState
  | absent
  | notReady
  | ready
  | pin
  | puk
  | blocked
  | networkPerso
  | networkSubsetPerso
  | corporatePerso
  | serviceProviderPerso
deriving DecidableEq, Repr

inductive ModemPowerState
  | off
  | lpm
  | normal
  | simInitComplete
deriving DecidableEq, Repr

/-- `struct ril_state` without the fields that belong to one of the modules. -/
structure RilState where
  radioState : RilRadioState
  simState : RilSimState
  powerState : ModemPowerState
  regState : ℕ
  act : ℕ
  ussdState : ℕ
  netMode : UInt32
  bPinLock : ℤ
  cellId : UInt32
  lacId : UInt16
  properPlmn : CString
  spn : CString
  name : CString
deriving DecidableEq

/-- `struct ril_tokens` without the tokens that belong to one of the modules. -/
structure RilTokens where
  pinStatus : RilToken
  pukStatus : RilToken
  getImei : RilToken
  getImsi : RilToken
  basebandVersion : RilToken
  queryAvailNetworks : RilToken
  networkSelection : RilToken
  setFacilityLock : RilToken
  changeSimPin : RilToken
deriving DecidableEq

/-- `tapiNetSearchCnf`, as far as it is read. -/
structure TapiNetSearchCnf where
  systemType : UInt8
  mnc : UInt16
  mcc : UInt16
  bForbidden : UInt32
  bCurrent : UInt32
  bAvailable : UInt32
  name : CString
deriving DecidableEq

/-- `struct ril_net_select` -/
structure RilNetSelect where
  plmn : CString
  netSelectEntry : TapiNetSearchCnf
deriving DecidableEq

structure RilData where
  ipcPacketClient : Option RilClient
  state : RilState
  tokens : RilTokens
  bAutoAttach : UInt32
  netSelectList : List RilNetSelect
  cachedSwVersion : CString
  cachedImsi : CString
  cachedImei : CString
  inDevice : UInt16
  outDevice : UInt16
  calls : CallModule
  outgoingSms : SmsData
  gprs : GprsData
  simIo : SimIoData
deriving DecidableEq

def sndInputMainMic : UInt16 := 0x100
def sndOutputEarpiece : UInt16 := 0x2
def sndTypeVoice : UInt8 := 0x11

/-- `ril_data_init`, without a configuration file. -/
def RilData.init : RilData where
  ipcPacketClient := none
  state := ⟨.off, .notReady, .off, 0, 0, 0, 0, 0, 0, 0, [], [], []⟩
  tokens := ⟨rilTokenNull, rilTokenNull, rilTokenNull, rilTokenNull, rilTokenNull, rilTokenNull,
    rilTokenNull, rilTokenNull, rilTokenNull⟩
  bAutoAttach := 1
  netSelectList := []
  cachedSwVersion := []
  cachedImsi := []
  cachedImei := []
  inDevice := sndInputMainMic
  outDevice := sndOutputEarpiece
  calls := .init
  outgoingSms := .init
  gprs := .init
  simIo := .init

/-- `tapiStartupNetworkInfo` -/
structure TapiStartupNetworkInfo where
  bAutoSelection : UInt32
  bPoweronGprsAttach : UInt32
  networkOrder : UInt8
  serviceDomain : UInt8
  networkMode : UInt32
  subscriptionMode : UInt8
  bFlightMode : UInt8
  unknown : UInt8
deriving DecidableEq

/-- `tapiSsResponse` -/
structure TapiSsResponse where
  rspType : UInt8
  indType : UInt8
  dcs : UInt8
  rspString : CString
deriving DecidableEq

/-- Calls of the functions of `mocha-ipc` that send a packet to the modem. -/
inductive IpcCall
  | simVerifyChv (hSim pinType : UInt8) (pin : CString)
  | simUnblockChv (hSim pinType : UInt8) (puk pin : CString)
  | simEnableChv (hSim pinType : UInt8) (pin : CString)
  | simDisableChv (hSim pinType : UInt8) (pin : CString)
  | simChangeChv (hSim pinType : UInt8) (oldPin newPin : CString)
  | simSendOemData (hSim packetType : UInt8)
  | tapiSetSelectionMode (mode : UInt8)
  | tapiNetworkSearch
  | tapiNetworkSelect (netSelect : TapiNetSearchCnf)
  | tapiNetworkReselect (mode : UInt8)
  | tapiNetworkSetMode (mode : UInt32)
  | tapiNetworkStartup (startInfo : TapiStartupNetworkInfo)
  | tapiSetOfflineMode (mode : UInt8)
  | tapiSetSubscriptionMode (mode : UInt8)
  | tapiNettextSetPreferredMemory (memory : ℕ)
  | tapiNettextSetNetBurst (burst : ℕ)
  | tapiNettextSetCbSettings
  | tapiSsSendUssdStringRequest (dcs : UInt8) (ussdStr : CString)
  | tapiSsUssdResp (r : TapiSsResponse)
  | soundSendSetMute (inDevice outDevice : UInt16) (inMuted outMuted soundType : UInt8)
  | ipcPowerMode (mode : ℕ)
  | drvSendPacket (type : UInt16) (status : UInt32)
deriving DecidableEq

/-- `RIL_CardStatus_v6`: the card, and the index of its application. -/
structure RilCardStatus where
  present : Bool
  subscriptionAppIndex : ℕ
deriving DecidableEq

/-- The responses of the handlers outside the modules. -/
inductive RilResponse
  | string (s : CString)
  | strings (ss : List (Option CString))
  | int (n : ℤ)
  | cardStatus (c : RilCardStatus)
deriving DecidableEq

/-- The unsolicited responses of the handlers outside the modules. -/
inductive RilUnsol
  | responseRadioStateChanged
  | responseSimStatusChanged
  | responseVoiceNetworkStateChanged
deriving DecidableEq, Repr

inductive RilEffect
  | complete (c : Completion RilResponse)
  | unsolicited (u : RilUnsol)
  | ipc (c : IpcCall)
  | saveRilConfig (bAutoAttach : UInt32)
  | calls (e : CallModuleEffect)
  | sms (e : SmsEffect)
  | gprs (e : GprsEffect)
  | simIo (e : SimIoEffect)
deriving DecidableEq

/-- One handler after another. -/
def andThen (r : RilData × List RilEffect) (f : RilData → RilData × List RilEffect) :
    RilData × List RilEffect :=
  ((f r.1).1, r.2 ++ (f r.1).2)

/-- The token that a call of `ril_request_complete` outside the modules is made with. -/
def RilEffect.completed : RilEffect → Option RilToken
  | .complete c => some c.token
  | _ => none

/-- The tokens that are completed, in order. -/
def completedTokens (out : List RilEffect) : List RilToken := out.filterMap RilEffect.completed

@[simp] theorem completedTokens_append (out out' : List RilEffect) :
    completedTokens (out ++ out') = completedTokens out ++ completedTokens out' :=
  List.filterMap_append

end Mocha.Ril
