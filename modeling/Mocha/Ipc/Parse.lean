import Mocha.Ipc.Lbs
import Mocha.Ipc.Proto
import Mocha.Ipc.SimFile
import Mocha.Ipc.TapiParse

/-! The parsers that `ipc_dispatch` calls, beside the one for TAPI (`sim.c`, `proto.c`, `lbs.c`, `misc.c`):
which callbacks they invoke and which packets they send. The header of a packet is in the packet;
whatever else is read may lie behind it, as a frame can be shorter than its buffer. -/
namespace Mocha.Ipc
open Mocha.Lib

/-- The memory around a packet, addressed from the first byte of its data. -/
abbrev PacketMemory := SimEvent

/-- The memory from an offset on. -/
def PacketMemory.from (mem : PacketMemory) (off : ℕ) : PacketMemory := fun i => mem (off + i)

/-- The `n` bytes at an offset. -/
def PacketMemory.bytes (mem : PacketMemory) (off n : ℕ) : List UInt8 :=
  (List.range n).map fun i => mem ((off + i : ℕ) : ℤ)

/-- The bytes stand in memory. -/
def PacketMemory.Holds (mem : PacketMemory) (bytes : List UInt8) : Prop :=
  ∀ (i : ℕ) (h : i < bytes.length), mem i = bytes[i]

/-- The offset of the subtypes of the SIM packets that carry events. -/
def simSubtypeDiff : UInt32 := 0x1D

def SimPacketHeader.ofBytes (l : List UInt8) : SimPacketHeader where
  type := UInt32.ofNat (wordAt 4 0 l)
  subType := UInt32.ofNat (wordAt 4 4 l)
  bufLen := UInt32.ofNat (wordAt 4 8 l)

/-- `sim_atk_send_packet` -/
def simAtkSendPacket (fresh : ℕ → UInt8) (atkType atkSubType atkBufLen : UInt32) (atkBuf : Block) :
    Option ModemIo :=
  headedPacket fresh fifoPktSim
    (leBytes 4 atkType.toNat ++ leBytes 4 atkSubType.toNat ++ leBytes 4 atkBufLen.toNat) atkBufLen atkBuf

/-! Members of `ril_sim_state`. -/

def simStatePin : ℕ := 3
def simStatePuk : ℕ := 4

/-- What `sim_parse_event` does with the event that the bytes begin with. -/
def SimAction.effects (fresh : ℕ → UInt8) (buf : List UInt8) : SimAction → Option (List IpcEffect)
  | .none => some []
  | .simOpen => some [.ipcInvokeRilCb .simOpen buf]
  | .simStatusPuk => some [.ipcInvokeRilCbNumber .simStatus simStatePuk]
  | .simStatusPin => some [.ipcInvokeRilCbNumber .simStatus simStatePin]
  | .lockStatus => some [.ipcInvokeRilCb .lockStatus buf]
  | .simSmscNumber => some [.ipcInvokeRilCb .simSmscNumber buf]
  | .simIoResponse => some [.ipcInvokeRilCb .simIoResponse buf]
  | .request r => do
    -- All members of the request are assigned.
    let call ← r.oemCall fresh 0
    let sent ← simSendOemData fresh call.hSim call.packetType call.data.bytes call.oemBufLen
    return sent.map .ipcSend

/-- `ipc_parse_sim`; a packet of the lowest subtypes is sent back. -/
def ipcParseSim (fresh : ℕ → UInt8) (mem : PacketMemory) (ipcFrame : ModemIo) :
    Option (List IpcEffect) := do
  let bytes ← Block.read ⟨ipcFrame.data, true⟩ 0 12
  let simHeader := SimPacketHeader.ofBytes bytes
  if simHeader.type ≠ 0 then return []
  else if simSubtypeDiff ≤ simHeader.subType then
    let diffedSubtype := simHeader.subType - simSubtypeDiff
    if simSubtypeDiff ≤ diffedSubtype then return []
    else
      let effects ← (simParseEvent (mem.from 12)).effects fresh (ipcFrame.data.drop 12)
      if diffedSubtype = 1 ∨ diffedSubtype = 2 then
        let packet ← simAtkSendPacket fresh 0x1 0x31 0x2 ⟨[0x00, 0x00], true⟩
        return effects ++ [.ipcSend packet]
      else return effects
  else if simHeader.subType = 0 then return []
  else
    -- The length is cut to one byte.
    let packet ← simSendOemReq fresh ⟨mem.bytes 12 (max 5 simHeader.bufLen.toUInt8.toNat), true⟩
      simHeader.bufLen.toUInt8
    return [.ipcSend packet]

/-! Members of `enum PROTO_PACKET_API_ID`. -/

def protoPacketStartingNetworkInd : UInt16 := 5
def protoPacketStartNetworkCnf : UInt16 := 6
def protoPacketStopNetworkCnf : UInt16 := 8
def protoPacketStopNetworkInd : UInt16 := 9
def protoPacketSuspendNetworkInd : UInt16 := 0xA
def protoPacketResumeNetworkInd : UInt16 := 0xB
def protoPacketReceiveDataInd : UInt16 := 0xE
def protoPacketDsNetworkInd : UInt16 := 0x10
def protoPacketDsNetworkResp : UInt16 := 0x11

/-- The callback for a type of packet. -/
def protoCallback (type : UInt16) : Option IpcRilCbType :=
  List.lookup type [(protoPacketStartingNetworkInd, IpcRilCbType.protoStartingNetworkInd),
    (protoPacketStartNetworkCnf, .protoStartNetworkCnf), (protoPacketStopNetworkCnf, .protoStopNetworkCnf),
    (protoPacketStopNetworkInd, .protoStopNetworkInd),
    (protoPacketSuspendNetworkInd, .protoSuspendNetworkInd),
    (protoPacketResumeNetworkInd, .protoResumeNetworkInd),
    (protoPacketReceiveDataInd, .protoReceiveDataInd)]

/-- `proto_ds_network_resp` -/
def protoDsNetworkResp (fresh : ℕ → UInt8) (buf : Block) : Option ModemIo :=
  protoSendPacket fresh ⟨protoPacketDsNetworkResp, 8⟩ buf

def ipcParseProto (fresh : ℕ → UInt8) (mem : PacketMemory) (ipcFrame : ModemIo) :
    Option (List IpcEffect) := do
  let bytes ← Block.read ⟨ipcFrame.data, true⟩ 0 4
  let rxHeader := ProtoPacketHeader.ofBytes bytes
  if rxHeader.type = protoPacketDsNetworkInd then
    let packet ← protoDsNetworkResp fresh ⟨mem.bytes 4 8, true⟩
    return [.ipcSend packet]
  else return (protoCallback rxHeader.type).toList.map (.ipcInvokeRilCb · (ipcFrame.data.drop 4))

/-! Members of `enum LBS_PKT_TYPE`. -/

def lbsPktGetPositionInd : UInt32 := 0x16
def lbsPktCancelPositionInd : UInt32 := 0x17
def lbsPktStateInd : UInt32 := 0x1D
def lbsPktXtraInjectDataInd : UInt32 := 0x27

def LbsPacketHeader.ofBytes (l : List UInt8) : LbsPacketHeader where
  type := UInt32.ofNat (wordAt 4 0 l)
  size := UInt32.ofNat (wordAt 4 4 l)
  subType := UInt32.ofNat (wordAt 4 8 l)

def ipcParseLbs (ipcFrame : ModemIo) : Option (List IpcEffect) := do
  let bytes ← Block.read ⟨ipcFrame.data, true⟩ 0 12
  let rxHeader := LbsPacketHeader.ofBytes bytes
  if rxHeader.type = lbsPktGetPositionInd then
    return [.ipcInvokeRilCb .lbsGetPositionInd (ipcFrame.data.drop 12)]
  else if rxHeader.type = lbsPktCancelPositionInd then return []
  else if rxHeader.type = lbsPktStateInd then
    return [.ipcInvokeRilCb .lbsStateInd (ipcFrame.data.drop 12)]
  else if rxHeader.type = lbsPktXtraInjectDataInd then return []
  else if HexDumpInside ipcFrame.data (rxHeader.size + 12) then return []
  else none

theorem length_eq_datasize {data : List UInt8} (h : data.length < 2 ^ 32) :
    data.length = (UInt32.ofNat data.length).toNat := (UInt32.toNat_ofNat_of_lt' h).symm

/-- A packet for `ipc_send` of given bytes. -/
def packetOf (cmd : UInt32) (data : List UInt8) (h : data.length < 2 ^ 32) : ModemIo :=
  ⟨frameMagic, cmd, UInt32.ofNat data.length, data, length_eq_datasize h⟩

def ipcSendDebugLevel (debugLevel : UInt32) : ModemIo :=
  packetOf fifoPktDvbHDebugLevel (leBytes 4 debugLevel.toNat) (by simp)

/-- The packet of `FIFO_PKT_BOOT` that `ipc_send_lpm_mode` and `ipc_boot8_mode` fill in. -/
def bootPacket (state mode : UInt32) : ModemIo :=
  packetOf fifoPktBoot (leBytes 4 state.toNat ++ leBytes 4 mode.toNat) (by simp)

def ipcSendLpmMode (lpmEnabled : UInt32) : ModemIo := bootPacket 0xB lpmEnabled
def ipcBoot8Mode (mode : UInt32) : ModemIo := bootPacket 0x8 mode
def ipcPowerMode (mode : UInt32) : ModemIo := packetOf fifoPktBoot (leBytes 4 mode.toNat) (by simp)

/-- `fake_apps_version` -/
def fakeAppsVersion : List UInt8 := "S8530JPKA1".toList.map fun c => UInt8.ofNat c.toNat

def ipcSendLazyFwVer : ModemIo :=
  packetOf fifoPktBoot (leBytes 4 0xC ++ Block.padTo 20 fakeAppsVersion) (by decide)

def ipcParseDbgLevel : List IpcEffect :=
  [.ipcSend (ipcSendDebugLevel 0), .ipcSend (ipcSendLpmMode 0), .syssecSendImei,
    .ipcSend ipcSendLazyFwVer]

/-- `ipc_parse_system`, which hands on the frame. -/
def ipcParseSystem (ipcFrame : ModemIo) : List IpcEffect :=
  [.ipcInvokeRilCb .cpSystemStart ipcFrame.data]

/-- What is done with a packet by the code of its case. -/
def ipcParse (fresh : ℕ → UInt8) (mem : PacketMemory) (d : Delivery) : Option (List IpcEffect) :=
  match d.handler with
  | .ipcParseSim => ipcParseSim fresh mem d.packet
  | .ipcParseProto => ipcParseProto fresh mem d.packet
  | .ipcParseTapi => ipcParseTapi fresh d.packet
  | .ipcParseLbs => ipcParseLbs d.packet
  | .ipcParseSystem => some (ipcParseSystem d.packet)
  | .ipcParseDbgLevel => some ipcParseDbgLevel
  | .ipcParseBoot | .unused | .notYetHandled => some []
  | .ipcParseFm | .ipcParseSound | .ipcParseDrv | .ipcParseDbg | .ipcParseBt | .ipcParseTm => some [.parsed d]

end Mocha.Ipc
