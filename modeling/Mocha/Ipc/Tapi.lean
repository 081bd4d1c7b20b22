import Mocha.Ipc.Frame

/-! TAPI packets (`tapi.c`, `include/tapi.h`) and the calls that send them (`tapi_call.c`,
`tapi_network.c`, `tapi_nettext.c`, `tapi_ss.c`, `tapi_at.c`). -/
namespace Mocha.Ipc
open Mocha.Lib

/-! Services. -/

def tapiTypeCall : UInt16 := 0
def tapiTypeNettext : UInt16 := 1
def tapiTypeNetwork : UInt16 := 2
def tapiTypeSs : UInt16 := 3
def tapiTypeAt : UInt16 := 4
def tapiTypeDmh : UInt16 := 5
def tapiTypeConfig : UInt16 := 6

/-! Members of `enum TAPI_CALL_TYPE`. -/

namespace TapiCallType

def apireq : UInt16 := 0x0
def setup : UInt16 := 0x1
def answer : UInt16 := 0x2
def release : UInt16 := 0x3
def startDtmf : UInt16 := 0x4
def stopDtmf : UInt16 := 0x5
def activate : UInt16 := 0x8
def hold : UInt16 := 0x9
def swap : UInt16 := 0xA
def setupInd : UInt16 := 0x13
def incomingInd : UInt16 := 0x14
def alertInd : UInt16 := 0x15
def connectedInd : UInt16 := 0x16
def connectingInd : UInt16 := 0x17
def endInd : UInt16 := 0x18
def startDtmfCnf : UInt16 := 0x19
def stopDtmfCnf : UInt16 := 0x1A
def holdCnf : UInt16 := 0x1B
def swapCnf : UInt16 := 0x1C
def activateCnf : UInt16 := 0x1D
def ssNotifyInd : UInt16 := 0x2B
def connectedNumberInd : UInt16 := 0x32
def errorInd : UInt16 := 0x34

end TapiCallType

/-! Members of `enum TAPI_NETTEXT_TYPE`. -/

namespace TapiNettextType

def send : UInt16 := 0x37
def setMemAvail : UInt16 := 0x3A
def setPreferredMem : UInt16 := 0x3B
def setBurst : UInt16 := 0x3D
def setCbSetting : UInt16 := 0x3E
def sendCallback : UInt16 := 0x40
def incoming : UInt16 := 0x42

end TapiNettextType

/-! Members of `enum TAPI_NETWORK_TYPE`. -/

namespace TapiNetworkType

def init : UInt16 := 0x45
def startup : UInt16 := 0x46
def shutdown : UInt16 := 0x47
def setOfflineMode : UInt16 := 0x48
def select : UInt16 := 0x49
def reselect : UInt16 := 0x4A
def search : UInt16 := 0x4C
def setSelectionMode : UInt16 := 0x4D
def setMode : UInt16 := 0x51
def setSubscriptionMode : UInt16 := 0x52
def selectCnf : UInt16 := 0x53
def selectInd : UInt16 := 0x54
def searchCnf : UInt16 := 0x55
def radioInfo : UInt16 := 0x57
def commonError : UInt16 := 0x58
def cellInfo : UInt16 := 0x59
def nitzInfoInd : UInt16 := 0x5B

end TapiNetworkType

/-! Members of `enum TAPI_SS_TYPE` and `enum TAPI_AT_TYPE`. -/

namespace TapiSsType

def sendUssdStringReq : UInt16 := 0x68
def commonErrorInd : UInt16 := 0x77
def ussdCnf : UInt16 := 0x86
def ussdInd : UInt16 := 0x87
def ussdRsp : UInt16 := 0x88

end TapiSsType

namespace TapiAtType

def init : UInt16 := 0xA3

end TapiAtType

/-- `struct tapiPacketHeader` -/
@[ext]
structure TapiPacketHeader where
  tapiService : UInt16
  tapiServiceFunction : UInt16
  len : UInt32
deriving DecidableEq

def TapiPacketHeader.toBytes (h : TapiPacketHeader) : List UInt8 :=
  leBytes 2 h.tapiService.toNat ++ leBytes 2 h.tapiServiceFunction.toNat ++ leBytes 4 h.len.toNat

def TapiPacketHeader.ofBytes (l : List UInt8) : TapiPacketHeader where
  tapiService := UInt16.ofNat (wordAt 2 0 l)
  tapiServiceFunction := UInt16.ofNat (wordAt 2 2 l)
  len := UInt32.ofNat (wordAt 4 4 l)

/-- `struct tapiPacket` -/
structure TapiPacket where
  header : TapiPacketHeader
  buf : Block
deriving DecidableEq

/-- The bytes of a packet come behind its header, if there are any. -/
def copyBehind (fifobuf : Block) (header : List UInt8) (len : UInt32) (buf : Block) : Option Block :=
  if len = 0 then some fifobuf
  else (buf.read 0 len.toNat).bind fun bytes => fifobuf.memcpy header.length bytes

/-- A packet of a header and `len` bytes of a buffer; `fresh` is what `malloc` returns. -/
def headedPacket (fresh : ℕ → UInt8) (cmd : UInt32) (header : List UInt8) (len : UInt32)
    (buf : Block) : Option ModemIo := do
  let bufLen := len + UInt32.ofNat header.length
  let fifobuf ← (Block.malloc fresh bufLen.toNat).memcpy 0 header
  let fifobuf ← copyBehind fifobuf header len buf
  modemPacket cmd bufLen fifobuf

/-- `tapi_send_packet` -/
def tapiSendPacket (fresh : ℕ → UInt8) (tapiReq : TapiPacket) : Option ModemIo :=
  headedPacket fresh fifoPktTapi tapiReq.header.toBytes tapiReq.header.len tapiReq.buf

section Packet

theorem TapiPacketHeader.toBytes_length (h : TapiPacketHeader) : h.toBytes.length = 8 := by
  simp [toBytes]

/-- A header is read back from the start of a packet. -/
theorem TapiPacketHeader.ofBytes_toBytes (h : TapiPacketHeader) (rest : List UInt8) :
    ofBytes (h.toBytes ++ rest) = h := by
  have hservice : wordAt 2 0 (h.toBytes ++ rest) = h.tapiService.toNat := by
    simp only [toBytes, List.append_assoc]
    exact wordAt_field 0 [] _ rfl h.tapiService.toNat_lt
  have hfunction : wordAt 2 2 (h.toBytes ++ rest) = h.tapiServiceFunction.toNat := by
    rw [toBytes, List.append_assoc _ (leBytes 4 h.len.toNat)]
    exact wordAt_field 2 _ _ (by simp) h.tapiServiceFunction.toNat_lt
  have hlen : wordAt 4 4 (h.toBytes ++ rest) = h.len.toNat :=
    wordAt_field 4 _ rest (by simp) h.len.toNat_lt
  unfold ofBytes
  rw [hservice, hfunction, hlen, UInt16.ofNat_toNat, UInt16.ofNat_toNat, UInt32.ofNat_toNat]

variable (fresh : ℕ → UInt8) (cmd : UInt32) {header : List UInt8} {len : UInt32} {buf : Block}

/-- The packet is the header and the bytes behind it. -/
theorem headedPacket_eq (hsize : header.length + len.toNat < 2 ^ 32)
    (hbuf : len = 0 ∨ buf.live ∧ len.toNat ≤ buf.bytes.length) : ∃ packet,
      headedPacket fresh cmd header len buf = some packet ∧ packet.magic = frameMagic ∧
        packet.cmd = cmd ∧ packet.data = header ++ buf.bytes.take len.toNat := by
  have hbufLen : (len + UInt32.ofNat header.length).toNat = header.length + len.toNat := by
    rw [UInt32.toNat_add, UInt32.toNat_ofNat_of_lt' (by omega : header.length < 2 ^ 32)]
    omega
  have hfits : len.toNat ≤ buf.bytes.length := by
    rcases hbuf with rfl | ⟨-, hfits⟩
    · exact Nat.zero_le _
    · exact hfits
  have hlength : (header ++ buf.bytes.take len.toNat).length =
      (Block.malloc fresh (len + UInt32.ofNat header.length).toNat).bytes.length := by
    rw [List.length_append, List.length_take_of_le hfits, Block.malloc_length, hbufLen]
  have hfilled : ((Block.malloc fresh (len + UInt32.ofNat header.length).toNat).memcpy 0 header).bind
      (copyBehind · header len buf) = some ⟨header ++ buf.bytes.take len.toNat, true⟩ := by
    rw [← Block.memcpy_whole rfl hlength]
    unfold copyBehind
    split_ifs with hzero
    · rw [Option.bind_fun_some, hzero, UInt32.toNat_zero, List.take_zero, List.append_nil]
    · have hlive := (hbuf.resolve_left hzero).1
      rw [buf.read_eq hlive (by omega), List.drop_zero, ← Block.memcpy_append, Nat.zero_add]
      rfl
  obtain ⟨packet, hpacket, hmagic, hcmd, -, hdata⟩ :=
    modemPacket_eq cmd (len + UInt32.ofNat header.length) ⟨header ++ buf.bytes.take len.toNat, true⟩
      rfl (by rw [hlength, Block.malloc_length])
  refine ⟨packet, ?_, hmagic, hcmd, ?_⟩
  · unfold headedPacket
    simp only [Option.bind_eq_bind, ← Option.bind_assoc, hfilled, Option.bind_some, hpacket]
  · rw [hdata, List.take_of_length_le]
    rw [hlength, Block.malloc_length]

/-- Nothing else is sent: the sum has room in its word, and the buffer has the bytes. -/
theorem headedPacket_isSome_iff (len : UInt32) (buf : Block) (hheader : 0 < header.length)
    (hsmall : header.length < 2 ^ 32) : (headedPacket fresh cmd header len buf).isSome ↔
      header.length + len.toNat < 2 ^ 32 ∧ (len = 0 ∨ buf.live ∧ len.toNat ≤ buf.bytes.length) := by
  constructor
  · intro h
    obtain ⟨packet, hpacket⟩ := Option.isSome_iff_exists.mp h
    obtain ⟨fifobuf, hcopy, hrest⟩ := Option.bind_eq_some_iff.mp hpacket
    obtain ⟨filled, hfilled, -⟩ := Option.bind_eq_some_iff.mp hrest
    obtain ⟨-, -, -, hle, -⟩ := Block.memcpy_eq_some hcopy
    rw [Block.malloc_length, Nat.zero_add, UInt32.toNat_add, UInt32.toNat_ofNat_of_lt' hsmall] at hle
    have hlen := len.toNat_lt
    refine ⟨by omega, ?_⟩
    unfold copyBehind at hfilled
    split_ifs at hfilled with hzero
    · exact .inl hzero
    · obtain ⟨bytes, hread, -⟩ := Option.bind_eq_some_iff.mp hfilled
      unfold Block.read at hread
      split_ifs at hread with hbuf
      exact .inr ⟨hbuf.1, by omega⟩
  · rintro ⟨hsize, hbuf⟩
    obtain ⟨packet, hpacket, -⟩ := headedPacket_eq fresh cmd hsize hbuf
    rw [hpacket]
    rfl

variable {fresh} in
/-- A packet that is sent is its header and the bytes of its buffer. -/
theorem tapiSendPacket_data {r : TapiPacket} {p : ModemIo} (h : tapiSendPacket fresh r = some p) :
    p.magic = frameMagic ∧ p.cmd = fifoPktTapi ∧
      p.data = r.header.toBytes ++ r.buf.bytes.take r.header.len.toNat ∧
        r.header.len.toNat ≤ r.buf.bytes.length := by
  have hsome : (tapiSendPacket fresh r).isSome := by
    rw [h]
    rfl
  have hheader := r.header.toBytes_length
  obtain ⟨hsize, hbuf⟩ :=
    (headedPacket_isSome_iff fresh fifoPktTapi _ _ (by omega) (by omega)).mp hsome
  obtain ⟨packet, hpacket, hmagic, hcmd, hdata⟩ := headedPacket_eq fresh fifoPktTapi hsize hbuf
  obtain rfl : packet = p := Option.some.inj (hpacket.symm.trans h)
  refine ⟨hmagic, hcmd, hdata, ?_⟩
  rcases hbuf with hzero | ⟨-, hfits⟩
  · rw [hzero]
    exact Nat.zero_le _
  · exact hfits

end Packet

end Mocha.Ipc
