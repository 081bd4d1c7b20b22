import Mocha.Ipc.Parse
import Mocha.Ril.System

/-! The callbacks of the telephony layer, as they read their structures out of the packets
(`ril_install_ipc_callbacks` of `mocha-ril.c`; `tapi_call.h`, `tapi_network.h`, `tapi_nettext.h`,
`tapi_ss.h`, `proto.h` and `lbs.h`). -/
namespace Mocha.Ril
open Mocha.Lib Mocha.Ipc

/-- What a callback finds beside its data: how far a string may reach, what stands on the stack and in
fresh memory, the address of the data, and whether a tunnel can be set up. -/
structure CallbackContext where
  limit : ℕ
  stack : CString
  fresh : ℕ → UInt8
  address : Int32
  threadStarted : Bool
  configured : Bool

/-- The string at an offset, if it ends within `limit` bytes. -/
def stringAt (mem : PacketMemory) (off : ℕ) : ℕ → Option CString
  | 0 => none
  | limit + 1 => if mem off = 0 then some [] else (stringAt mem (off + 1) limit).map (mem off :: ·)

/-- An array at an offset. -/
def arrayAt (mem : PacketMemory) (off n : ℕ) : List.Vector UInt8 n :=
  .ofFn fun i => mem ((off + i : ℕ) : ℤ)

/-! The structures, by the offsets of their members. -/

def TapiNetworkInfo.read (mem : PacketMemory) (limit : ℕ) : Option TapiNetworkInfo := do
  let name ← stringAt mem 28 limit
  let spn ← stringAt mem 68 limit
  return ⟨mem 0, mem 2, mem.word32 92, name, spn⟩

def TapiCellInfo.read (mem : PacketMemory) : TapiCellInfo where
  bCellChanged := mem.word32 0
  bRACChanged := mem.word32 4
  bLACChanged := mem.word32 8
  bPLMNChanged := mem.word32 12
  cellId := (mem 16, mem 17, mem 18, mem 19)
  racId := mem 20
  lacId := (mem 21, mem 22)
  plmnId := (mem 23, mem 24, mem 25)

def TapiNitzInfo.read (mem : PacketMemory) : TapiNitzInfo where
  bNetworkTimeAvail := mem.word32 4
  year := mem 96
  month := mem 97
  day := mem 98
  hour := mem 99
  minute := mem 100
  second := mem 101
  tz := mem 102
  dls := mem 103

def TapiNetSearchCnf.read (mem : PacketMemory) (limit : ℕ) : Option TapiNetSearchCnf := do
  let name ← stringAt mem 24 limit
  return ⟨mem 0, mem.word16 8, mem.word16 10, mem.word32 12, mem.word32 16, mem.word32 20, name⟩

/-- `sizeof(tapiNetSearchCnf)` -/
def sizeofTapiNetSearchCnf : ℕ := 88

/-- The entries of a search result, behind their number. -/
def readNetSearch (mem : PacketMemory) (limit : ℕ) : Option (List TapiNetSearchCnf) :=
  (List.range (mem 0).toNat).mapM fun i => TapiNetSearchCnf.read (mem.from (sizeofTapiNetSearchCnf * i + 4)) limit

def TapiCallInfo.read (mem : PacketMemory) (limit : ℕ) : Option TapiCallInfo := do
  let phoneNumber ← stringAt mem 6 limit
  return ⟨mem.word32 0, mem 4, phoneNumber⟩

def TapiNettextInfo.read (mem : PacketMemory) : TapiNettextInfo where
  msgType := mem 0
  tonFromNumber := mem 6
  szFromNumber := arrayAt mem 8 21
  npiToNumber := mem 29
  tonToNumber := mem 30
  lengthToNumber := mem 31
  szToNumber := arrayAt mem 32 24
  scTime := mem.word32 56
  npiSmsc := mem 61
  tonSmsc := mem 62
  lengthSmsc := mem 63
  smsc := arrayAt mem 64 24
  bUdhi := mem.word32 96
  bSrr := mem.word32 100
  dischargeTime := mem.word32 108
  statusReport := mem.word32 112
  validityValue := mem.word32 120
  bFlash := mem.word32 128
  alphabetType := mem 138
  classType := mem 139
  timeZone := mem.word32 140
  nUdh := mem 148
  messageLength := mem 149
  messageBody := arrayAt mem 150 160

def TapiSsCallback.read (mem : PacketMemory) : TapiSsCallback where
  ssType := mem 0
  dcs := mem 2
  strLen := mem.word32 4
  ussdStr := arrayAt mem 8 0xB8

def ProtoStartNetworkCnf.read (mem : PacketMemory) : ProtoStartNetworkCnf where
  contextId := mem.word32 4
  error := mem.word16 8
  localAddr := mem.word32 152
  dnsAddr1 := mem.word32 164
  dnsAddr2 := mem.word32 172

/-- A network frame of the modem, with the bytes behind its header. -/
def readDataInd (mem : PacketMemory) : GprsIndication :=
  ⟨.receiveDataInd (mem.word32 4) (mem.bytes 12 (mem.word32 8).toNat), rfl⟩

/-- `ipc_ril_cb_map` as `ril_install_ipc_callbacks` fills it, with the reading of the data; `mem` is the
memory from the pointer on, and `len` the number of its bytes in the packet. `some none` stands for a
type without a callback, and for `LBS_GET_POSITION_IND`. -/
def readCallback (ctx : CallbackContext) (mem : PacketMemory) (len : ℕ) :
    IpcRilCbType → Option (Option RilCallback)
  | .cpSystemStart =>
    (stringAt mem 0 ctx.limit).map fun desc => some (.cpSystemStart desc (UInt32.ofNat len))
  | .networkRadioInfo => some (some (.networkRadioInfo (mem 0)))
  | .networkSelect => (TapiNetworkInfo.read mem ctx.limit).map fun netInfo => some (.networkSelect netInfo)
  | .networkCellInfo => some (some (.networkCellInfo (.read mem)))
  | .networkNitzInfoInd => some (some (.networkNitzInfo (.read mem)))
  | .networkSearchCnf => (readNetSearch mem ctx.limit).map fun entries => some (.networkSearchCnf entries)
  | .networkSelectCnf =>
    (TapiNetworkInfo.read mem ctx.limit).map fun netInfo => some (.networkSelectCnf netInfo)
  | .callIncomingInd =>
    (TapiCallInfo.read mem ctx.limit).map fun callInfo => some (.calls (.incoming callInfo))
  | .callEndInd => some (some (.calls (.callEnd (mem.word32 0) (mem.word32 4))))
  | .callSetupInd => some (some (.calls (.setupInd (mem.word32 0))))
  | .callAlert => some (some (.calls (.alert (mem.word32 0))))
  | .callConnected => some (some (.calls (.connected (mem.word32 0))))
  | .callDtmfStart => some (some (.calls (.dtmfStart (mem.word32 4))))
  | .callDtmfStop => some (some (.calls (.dtmfStop (mem.word32 4))))
  | .callHold => some (some (.calls (.hold (mem.word32 0) (mem.word32 4))))
  | .callSwap => some (some (.calls (.swap (mem.word32 0) (mem.word32 4) (mem.word32 8))))
  | .callActivate => some (some (.calls (.activate (mem.word32 0) (mem.word32 4))))
  | .callError => some (some (.calls (.error (mem.word32 0) (mem.word32 4))))
  | .simOpen => some (some (.simOpen mem len ctx.stack))
  | .simIoResponse => some (some (.simIoResponse mem))
  | .simSmscNumber => some (some (.simSmscNumber mem len))
  | .lockStatus => some (some (.lockStatus mem))
  | .nettextIncoming => some (some (.nettextIncoming (.read mem)))
  | .nettextSendCallback => some (some (.nettextSend (mem.word32 4)))
  | .ssUssdCallback => some (some (.ssUssd ctx.fresh (.read mem)))
  | .ssError => some (some (.ssError ctx.address))
  | .lbsStateInd => some (some (.lbsState (mem.word32 0)))
  | .protoStartingNetworkInd => some (some (.proto ⟨.startingNetworkInd (mem.word16 12), rfl⟩))
  | .protoStartNetworkCnf =>
    some (some (.proto ⟨.startNetworkCnf (.read mem) ctx.threadStarted ctx.configured, rfl⟩))
  | .protoStopNetworkCnf => some (some (.proto ⟨.stopNetworkCnf (mem.word32 4), rfl⟩))
  | .protoStopNetworkInd => some (some (.proto ⟨.stopNetworkInd (mem.word32 4), rfl⟩))
  | .protoReceiveDataInd => some (some (.proto (readDataInd mem)))
  | .protoSuspendNetworkInd => some (some (.proto ⟨.suspendNetworkInd (mem.word32 4), rfl⟩))
  | .protoResumeNetworkInd => some (some (.proto ⟨.resumeNetworkInd (mem.word32 4), rfl⟩))
  | .networkSetSubscriptionMode | .networkOptError | .simStatus | .lbsGetPositionInd => some none

/-- `ril_sim_state`, by its number. -/
def rilSimState (simState : ℕ) : Option RilSimState :=
  [.absent, .notReady, .ready, .pin, .puk, .blocked, .networkPerso, .networkSubsetPerso, .corporatePerso,
    .serviceProviderPerso][simState]?

/-- The callback of a call of `ipc_invoke_ril_cb` with a number, which is that of `SIM_STATUS`. -/
def readNumber (type : IpcRilCbType) (data : ℕ) : Option RilCallback :=
  if type = .simStatus then (rilSimState data).map .simStatus else none

end Mocha.Ril
