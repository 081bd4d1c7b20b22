import Mocha.Ipc.Frame

/-! The PROTO packets that the library sends (`proto.c`, `include/proto.h`). -/
namespace Mocha.Ipc
open Mocha.Lib

def protoPacketStartNetwork : UInt16 := 3
def protoPacketSendData : UInt16 := 0xD

/-- `struct protoPacketHeader` -/
@[ext]
structure ProtoPacketHeader where
  type : UInt16
  len : UInt16
deriving DecidableEq

def ProtoPacketHeader.toBytes (h : ProtoPacketHeader) : List UInt8 :=
  leBytes 2 h.type.toNat ++ leBytes 2 h.len.toNat

def ProtoPacketHeader.ofBytes (l : List UInt8) : ProtoPacketHeader where
  type := UInt16.ofNat (wordAt 2 0 l)
  len := UInt16.ofNat (wordAt 2 2 l)

/-- The bytes of the packet come behind its header, if there are any. -/
def protoCopyBuf (fifobuf buf : Block) (len : UInt16) : Option Block :=
  if len = 0 then some fifobuf
  else (buf.read 0 len.toNat).bind fun bytes => fifobuf.memcpy 4 bytes

/-- `proto_send_packet`; `fresh` is what `malloc` returns. -/
def protoSendPacket (fresh : ℕ → UInt8) (header : ProtoPacketHeader) (buf : Block) : Option ModemIo := do
  let bufLen : UInt32 := header.len.toUInt32 + 4
  let fifobuf := Block.malloc fresh bufLen.toNat
  let fifobuf ← fifobuf.memcpy 0 header.toBytes
  let fifobuf ← protoCopyBuf fifobuf buf header.len
  modemPacket fifoPktProto bufLen fifobuf

/-- `protoTransferDataBuf`, without the bytes behind it. -/
@[ext]
structure ProtoTransferDataBuf where
  opMode : UInt16
  protoType : UInt16
  contextId : UInt32
  netBufLen : UInt32
deriving DecidableEq

def ProtoTransferDataBuf.ofBytes (l : List UInt8) : ProtoTransferDataBuf where
  opMode := UInt16.ofNat (wordAt 2 0 l)
  protoType := UInt16.ofNat (wordAt 2 2 l)
  contextId := UInt32.ofNat (wordAt 4 4 l)
  netBufLen := UInt32.ofNat (wordAt 4 8 l)

def ProtoTransferDataBuf.toBytes (h : ProtoTransferDataBuf) : List UInt8 :=
  leBytes 2 h.opMode.toNat ++ leBytes 2 h.protoType.toNat ++ leBytes 4 h.contextId.toNat ++
    leBytes 4 h.netBufLen.toNat

/-- `proto_send_data`; `fresh` is what its two calls of `malloc` return. -/
def protoSendData (fresh : Fin 2 → ℕ → UInt8) (opMode protoType : UInt16) (contextId netBufLen : UInt32)
    (netBuf : Block) : Option ModemIo := do
  let size := 12 + netBufLen
  let buf := Block.malloc (fresh 0) size.toNat
  let buf ← buf.memcpy 0 (leBytes 2 opMode.toNat)
  let buf ← buf.memcpy 2 (leBytes 2 protoType.toNat)
  let buf ← buf.memcpy 4 (leBytes 4 contextId.toNat)
  let buf ← buf.memcpy 8 (leBytes 4 netBufLen.toNat)
  let bytes ← netBuf.read 0 netBufLen.toNat
  let buf ← buf.memcpy 12 bytes
  protoSendPacket (fresh 1) ⟨protoPacketSendData, size.toUInt16⟩ buf

section Packet

theorem ProtoPacketHeader.toBytes_length (h : ProtoPacketHeader) : h.toBytes.length = 4 := by
  simp [toBytes]

theorem ProtoTransferDataBuf.toBytes_length (h : ProtoTransferDataBuf) : h.toBytes.length = 12 := by
  simp [toBytes]

/-- A header is read back from the start of a packet. -/
theorem ProtoPacketHeader.ofBytes_toBytes (h : ProtoPacketHeader) (rest : List UInt8) :
    ofBytes (h.toBytes ++ rest) = h := by
  have htype : wordAt 2 0 (h.toBytes ++ rest) = h.type.toNat := by
    rw [toBytes, List.append_assoc]
    exact wordAt_field 0 [] _ rfl h.type.toNat_lt
  have hlen : wordAt 2 2 (h.toBytes ++ rest) = h.len.toNat :=
    wordAt_field 2 (leBytes 2 h.type.toNat) rest (by simp) h.len.toNat_lt
  unfold ofBytes
  rw [htype, hlen, UInt16.ofNat_toNat, UInt16.ofNat_toNat]

theorem ProtoTransferDataBuf.ofBytes_toBytes (h : ProtoTransferDataBuf) (rest : List UInt8) :
    ofBytes (h.toBytes ++ rest) = h := by
  have hopMode : wordAt 2 0 (h.toBytes ++ rest) = h.opMode.toNat := by
    simp only [toBytes, List.append_assoc]
    exact wordAt_field 0 [] _ rfl h.opMode.toNat_lt
  have hprotoType : wordAt 2 2 (h.toBytes ++ rest) = h.protoType.toNat := by
    simp only [toBytes, List.append_assoc]
    rw [← List.append_assoc]
    exact wordAt_field 2 _ _ (by simp) h.protoType.toNat_lt
  have hcontextId : wordAt 4 4 (h.toBytes ++ rest) = h.contextId.toNat := by
    rw [toBytes, List.append_assoc _ (leBytes 4 h.netBufLen.toNat)]
    exact wordAt_field 4 _ _ (by simp) h.contextId.toNat_lt
  have hnetBufLen : wordAt 4 8 (h.toBytes ++ rest) = h.netBufLen.toNat :=
    wordAt_field 8 _ rest (by simp) h.netBufLen.toNat_lt
  unfold ofBytes
  rw [hopMode, hprotoType, hcontextId, hnetBufLen, UInt16.ofNat_toNat, UInt16.ofNat_toNat,
    UInt32.ofNat_toNat, UInt32.ofNat_toNat]

/-- The packet is its header and the bytes of the buffer. -/
theorem protoSendPacket_eq (fresh : ℕ → UInt8) (header : ProtoPacketHeader) (buf : Block)
    (hlive : buf.live) (hfits : header.len.toNat ≤ buf.bytes.length) : ∃ packet,
      protoSendPacket fresh header buf = some packet ∧ packet.magic = frameMagic ∧
        packet.cmd = fifoPktProto ∧
          packet.data = header.toBytes ++ buf.bytes.take header.len.toNat := by
  have hbufLen : (header.len.toUInt32 + 4).toNat = 4 + header.len.toNat := by
    have hlt := header.len.toNat_lt
    rw [UInt32.toNat_add, UInt16.toNat_toUInt32]
    change (header.len.toNat + 4) % 2 ^ 32 = _
    omega
  have hlength : (header.toBytes ++ buf.bytes.take header.len.toNat).length =
      (Block.malloc fresh (header.len.toUInt32 + 4).toNat).bytes.length := by
    rw [List.length_append, header.toBytes_length, List.length_take_of_le hfits, Block.malloc_length,
      hbufLen]
  have hfilled : ((Block.malloc fresh (header.len.toUInt32 + 4).toNat).memcpy 0 header.toBytes).bind
      (protoCopyBuf · buf header.len) = some ⟨header.toBytes ++ buf.bytes.take header.len.toNat, true⟩ := by
    rw [← Block.memcpy_whole rfl hlength]
    unfold protoCopyBuf
    split_ifs with hzero
    · rw [Option.bind_fun_some, hzero, UInt16.toNat_zero, List.take_zero, List.append_nil]
    · rw [buf.read_eq hlive (by omega), List.drop_zero, ← Block.memcpy_append, header.toBytes_length]
      rfl
  obtain ⟨packet, hpacket, hmagic, hcmd, -, hdata⟩ :=
    modemPacket_eq fifoPktProto (header.len.toUInt32 + 4)
      ⟨header.toBytes ++ buf.bytes.take header.len.toNat, true⟩ rfl
      (by rw [hlength, Block.malloc_length])
  refine ⟨packet, ?_, hmagic, hcmd, ?_⟩
  · unfold protoSendPacket
    simp only [Option.bind_eq_bind, ← Option.bind_assoc, hfilled, Option.bind_some, hpacket]
  · rw [hdata, List.take_of_length_le]
    rw [hlength, Block.malloc_length]

/-- The members of the header, written one after the other. -/
theorem memcpy_transfer (b : Block) (h : ProtoTransferDataBuf) :
    (((b.memcpy 0 (leBytes 2 h.opMode.toNat)).bind (·.memcpy 2 (leBytes 2 h.protoType.toNat))).bind
      (·.memcpy 4 (leBytes 4 h.contextId.toNat))).bind (·.memcpy 8 (leBytes 4 h.netBufLen.toNat)) =
        b.memcpy 0 h.toBytes := by
  rw [ProtoTransferDataBuf.toBytes, ← Block.memcpy_append, ← Block.memcpy_append,
    ← Block.memcpy_append]
  simp only [List.length_append, leBytes_length, Nat.zero_add, Nat.reduceAdd]

/-- The network frame goes out with its header, if all of it is in the buffer. -/
theorem protoSendData_eq (fresh : Fin 2 → ℕ → UInt8) (opMode protoType : UInt16) (contextId : UInt32)
    (netBufLen : UInt32) (netBuf : Block) (hlive : netBuf.live)
    (hfits : netBufLen.toNat ≤ netBuf.bytes.length) (hlen : netBufLen.toNat < 2 ^ 16 - 12) :
    ∃ packet, protoSendData fresh opMode protoType contextId netBufLen netBuf = some packet ∧
      packet.magic = frameMagic ∧ packet.cmd = fifoPktProto ∧
        packet.data =
          (ProtoPacketHeader.mk protoPacketSendData (UInt16.ofNat (12 + netBufLen.toNat))).toBytes ++
            ((ProtoTransferDataBuf.mk opMode protoType contextId netBufLen).toBytes ++
              netBuf.bytes.take netBufLen.toNat) := by
  have hsize : (12 + netBufLen).toNat = 12 + netBufLen.toNat := by
    rw [UInt32.toNat_add]
    change (12 + netBufLen.toNat) % 2 ^ 32 = _
    omega
  have hsize' : (12 + netBufLen).toUInt16 = UInt16.ofNat (12 + netBufLen.toNat) := by
    rw [← UInt16.toNat_inj, UInt32.toNat_toUInt16, hsize, UInt16.toNat_ofNat']
  let header : ProtoTransferDataBuf := ⟨opMode, protoType, contextId, netBufLen⟩
  have hbytes : (netBuf.bytes.take netBufLen.toNat).length = netBufLen.toNat :=
    List.length_take_of_le hfits
  have hlength : (header.toBytes ++ netBuf.bytes.take netBufLen.toNat).length =
      12 + netBufLen.toNat := by
    rw [List.length_append, header.toBytes_length, hbytes]
  have hwhole := Block.memcpy_whole (b := Block.malloc (fresh 0) (12 + netBufLen).toNat) rfl
    (hlength.trans (by rw [Block.malloc_length, hsize]))
  have hread : netBuf.read 0 netBufLen.toNat = some (netBuf.bytes.take netBufLen.toNat) :=
    netBuf.read_eq hlive (by omega)
  obtain ⟨packet, hpacket, hmagic, hcmd, hdata⟩ := protoSendPacket_eq (fresh 1)
    ⟨protoPacketSendData, (12 + netBufLen).toUInt16⟩
    ⟨header.toBytes ++ netBuf.bytes.take netBufLen.toNat, true⟩ rfl (by
      rw [hlength, hsize', UInt16.toNat_ofNat']
      exact Nat.mod_le ..)
  have hheader := memcpy_transfer (Block.malloc (fresh 0) (12 + netBufLen).toNat) header
  have hfilled := Block.memcpy_append (Block.malloc (fresh 0) (12 + netBufLen).toNat) 0 header.toBytes
    (netBuf.bytes.take netBufLen.toNat)
  rw [← hheader, hwhole, header.toBytes_length] at hfilled
  refine ⟨packet, ?_, hmagic, hcmd, ?_⟩
  · rw [← hpacket]
    unfold protoSendData
    simp only [Option.bind_eq_bind, hread, Option.bind_some, ← Option.bind_assoc]
    rw [hfilled, Option.bind_some]
  · rw [hdata, hsize', UInt16.toNat_ofNat_of_lt' (by omega : 12 + netBufLen.toNat < 2 ^ 16),
      List.take_of_length_le hlength.le]

/-- There is no room for the header when the sum has no room in its word. -/
theorem protoSendData_eq_none (fresh : Fin 2 → ℕ → UInt8) (opMode protoType : UInt16)
    (contextId : UInt32) {netBufLen : UInt32} (netBuf : Block) (hsize : (12 + netBufLen).toNat < 12) :
    protoSendData fresh opMode protoType contextId netBufLen netBuf = none := by
  have hheader := memcpy_transfer (Block.malloc (fresh 0) (12 + netBufLen).toNat)
    ⟨opMode, protoType, contextId, netBufLen⟩
  have hnone : (Block.malloc (fresh 0) (12 + netBufLen).toNat).memcpy 0
      (ProtoTransferDataBuf.mk opMode protoType contextId netBufLen).toBytes = none := by
    rw [Block.memcpy_eq_none_iff, ProtoTransferDataBuf.toBytes_length, Block.malloc_length]
    omega
  rw [hnone] at hheader
  unfold protoSendData
  simp only [Option.bind_eq_bind, ← Option.bind_assoc]
  rw [hheader, Option.bind_none, Option.bind_none]

end Packet

end Mocha.Ipc
