import Mocha.Ipc.Sim
import Mocha.Lib.Block

/-! `sim_send_oem_data` and `sim_send_oem_req` (`mocha-ipc/sim.c`), which put two headers before the data
of a request to the SIM. Allocations are taken to succeed. -/
namespace Mocha.Ipc
open Mocha.Lib

/-! Members of `enum SIM_OEM_REQUEST_TYPE`. -/

def simOemRequestUpdateFileBinary : UInt8 := 8
def simOemRequestUpdateFileRecord : UInt8 := 9
def simOemRequestVerifyChv : UInt8 := 11
def simOemRequestSearchRecord : UInt8 := 18

/-- `struct simPacketHeader`: 12 bytes. -/
structure SimPacketHeader where
  type : UInt32
  subType : UInt32
  bufLen : UInt32
deriving DecidableEq

def SimPacketHeader.toBytes (h : SimPacketHeader) : List UInt8 :=
  leBytes 4 h.type.toNat ++ leBytes 4 h.subType.toNat ++ leBytes 4 h.bufLen.toNat

/-- `struct oemSimPacketHeader`: 9 bytes. -/
structure OemSimPacketHeader where
  hSim : UInt32
  type : UInt8
  oemBufLen : UInt32
deriving DecidableEq

def OemSimPacketHeader.toBytes (h : OemSimPacketHeader) : List UInt8 :=
  leBytes 4 h.hSim.toNat ++ [h.type] ++ leBytes 4 h.oemBufLen.toNat

theorem SimPacketHeader.toBytes_length (h : SimPacketHeader) : h.toBytes.length = 12 := by
  simp [toBytes]

theorem OemSimPacketHeader.toBytes_length (h : OemSimPacketHeader) : h.toBytes.length = 9 := by
  simp [toBytes]

/-- `((struct oemSimPacketHeader *)simBuf)->type` -/
theorem OemSimPacketHeader.toBytes_type (h : OemSimPacketHeader) (rest : List UInt8) :
    (h.toBytes ++ rest)[4]? = some h.type := by
  rw [toBytes, List.append_assoc, List.append_assoc,
    List.getElem?_append_right (by rw [leBytes_length]), leBytes_length]
  rfl

/-- `sim_send_oem_req`: the request that is handed to `ipc_send`. The length comes in a byte. -/
def simSendOemReq (fresh : ℕ → UInt8) (simBuf : Block) (simBufLen : UInt8) : Option ModemIo := do
  let type : UInt8 ← simBuf.bytes[4]?
  let header : SimPacketHeader := ⟨0, type.toUInt32, simBufLen.toUInt32⟩
  let bufLen := header.bufLen + 12
  let fifobuf ← (Block.malloc fresh bufLen.toNat).memcpy 0 header.toBytes
  let bytes ← simBuf.read 0 header.bufLen.toNat
  let fifobuf ← fifobuf.memcpy 12 bytes
  if h : fifobuf.bytes.length = bufLen.toNat then
    some ⟨frameMagic, fifoPktSim, bufLen, fifobuf.bytes, h⟩
  else none

/-- `if(oemBufLen) memcpy(simBuf + sizeof(struct oemSimPacketHeader), dataBuf, oemBufLen)`; `dataBuf` is what
can be read at the pointer, `[]` when it is null. -/
def copyOemData (simBuf : Block) (dataBuf : List UInt8) (oemBufLen : UInt32) : Option Block :=
  if oemBufLen ≠ 0 then do
    let data ← Block.read ⟨dataBuf, true⟩ 0 oemBufLen.toNat
    simBuf.memcpy 9 data
  else some simBuf

/-- `sim_send_oem_data`: the requests that are handed to `ipc_send`. -/
def simSendOemData (fresh : ℕ → UInt8) (hSim packetType : UInt8) (dataBuf : List UInt8)
    (oemBufLen : UInt32) : Option (List ModemIo) :=
  if hSim = 0 then some []
  else do
    let oemHeader : OemSimPacketHeader := ⟨hSim.toUInt32, packetType, oemBufLen⟩
    let simBufLen := oemBufLen + 9 + 1
    let simBuf ← (Block.malloc (fun _ => 0x00) simBufLen.toNat).memcpy 0 oemHeader.toBytes
    let simBuf ← copyOemData simBuf dataBuf oemBufLen
    let request ← simSendOemReq fresh simBuf simBufLen.toUInt8
    return [request]

/-- The frame of a request: both headers, the data and one byte more. -/
def oemFrame (hSim packetType : UInt8) (data : List UInt8) : List UInt8 :=
  SimPacketHeader.toBytes ⟨0, packetType.toUInt32, UInt32.ofNat (data.length + 10)⟩ ++
    OemSimPacketHeader.toBytes ⟨hSim.toUInt32, packetType, UInt32.ofNat data.length⟩ ++ data ++ [0x00]

/-- One frame goes out, and it is the one of the request. -/
def SendsOemFrame (fresh : ℕ → UInt8) (hSim packetType : UInt8) (data : List UInt8) : Prop :=
  ∃ frame, simSendOemData fresh hSim packetType data (UInt32.ofNat data.length) = some [frame] ∧
    frame.magic = frameMagic ∧ frame.cmd = fifoPktSim ∧ frame.data = oemFrame hSim packetType data ∧
    frame.datasize.toNat = data.length + 22

theorem simSendOemReq_eq (fresh : ℕ → UInt8) {simBuf : Block} {type : UInt8} (hlive : simBuf.live)
    (htype : simBuf.bytes[4]? = some type) {simBufLen : UInt8}
    (hlen : simBufLen.toNat ≤ simBuf.bytes.length) : ∃ frame,
      simSendOemReq fresh simBuf simBufLen = some frame ∧ frame.magic = frameMagic ∧
        frame.cmd = fifoPktSim ∧ frame.data =
          SimPacketHeader.toBytes ⟨0, type.toUInt32, simBufLen.toUInt32⟩ ++
            simBuf.bytes.take simBufLen.toNat := by
  have hbyte := simBufLen.toNat_lt
  have hsize : (simBufLen.toUInt32 + 12).toNat = 12 + simBufLen.toNat := by
    rw [UInt32.toNat_add, UInt8.toNat_toUInt32]
    change (simBufLen.toNat + 12) % 2 ^ 32 = _
    omega
  let header : SimPacketHeader := ⟨0, type.toUInt32, simBufLen.toUInt32⟩
  have hheader := header.toBytes_length
  let bytes := simBuf.bytes.take simBufLen.toNat
  have hbytes : bytes.length = simBufLen.toNat := List.length_take_of_le hlen
  let memory := (Block.malloc fresh (simBufLen.toUInt32 + 12).toNat).bytes
  have hmemory : memory.length = 12 + simBufLen.toNat := (Block.malloc_length ..).trans hsize
  have hrest : (memory.drop header.toBytes.length).length = bytes.length := by
    rw [List.length_drop]
    omega
  have hcopy : (Block.malloc fresh (simBufLen.toUInt32 + 12).toNat).memcpy 0 header.toBytes =
      some ⟨header.toBytes ++ memory.drop header.toBytes.length, true⟩ :=
    Block.memcpy_behind [] (show header.toBytes.length ≤ memory.length by omega)
  have hread : simBuf.read 0 simBufLen.toNat = some bytes := simBuf.read_eq hlive (by omega)
  have hfill := Block.memcpy_behind header.toBytes hrest.ge
  rw [← hrest, List.drop_length, List.append_nil, hheader] at hfill
  have hdata : (header.toBytes ++ bytes).length = (simBufLen.toUInt32 + 12).toNat := by
    rw [List.length_append, hheader, hbytes, hsize]
  refine ⟨⟨frameMagic, fifoPktSim, simBufLen.toUInt32 + 12, _, hdata⟩, ?_, rfl, rfl, rfl⟩
  unfold simSendOemReq
  rw [htype, Option.bind_eq_bind, Option.bind_some]
  dsimp only
  rw [hcopy, Option.bind_eq_bind, Option.bind_some, UInt8.toNat_toUInt32, hread, Option.bind_eq_bind,
    Option.bind_some, hheader, hfill, Option.bind_some, dif_pos]

/-- Behind the data there is the redundant byte. -/
theorem copyOemData_eq {header dataBuf : List UInt8} (hheader : header.length = 9) {oemBufLen : UInt32}
    (hread : oemBufLen.toNat ≤ dataBuf.length) :
    copyOemData ⟨header ++ List.replicate (oemBufLen.toNat + 1) 0x00, true⟩ dataBuf oemBufLen =
      some ⟨header ++ (dataBuf.take oemBufLen.toNat ++ [0x00]), true⟩ := by
  have hdata : (dataBuf.take oemBufLen.toNat).length = oemBufLen.toNat := List.length_take_of_le hread
  unfold copyOemData
  split_ifs with hne
  · have hone : (List.replicate (oemBufLen.toNat + 1) (0x00 : UInt8)).drop oemBufLen.toNat = [0x00] := by
      rw [List.drop_replicate, Nat.add_sub_cancel_left]
      rfl
    have hfits : (dataBuf.take oemBufLen.toNat).length ≤
        (List.replicate (oemBufLen.toNat + 1) (0x00 : UInt8)).length := by
      rw [hdata, List.length_replicate]
      omega
    have hbehind := Block.memcpy_behind header hfits
    rw [hdata, hone, hheader] at hbehind
    rw [Block.read_eq rfl (show 0 + oemBufLen.toNat ≤ dataBuf.length by omega), Option.bind_eq_bind,
      Option.bind_some]
    exact hbehind
  · have hzero : oemBufLen.toNat = 0 := by simpa using congrArg UInt32.toNat (not_not.mp hne)
    rw [hzero, List.take_zero]
    rfl

/-- What goes out: the length in the first header, and with it the bytes behind it, modulo 256. -/
theorem simSendOemData_eq (fresh : ℕ → UInt8) {hSim : UInt8} (hSid : hSim ≠ 0) (packetType : UInt8)
    {dataBuf : List UInt8} {oemBufLen : UInt32} (hread : oemBufLen.toNat ≤ dataBuf.length)
    (hlen : oemBufLen.toNat + 22 < 2 ^ 32) : ∃ frame,
      simSendOemData fresh hSim packetType dataBuf oemBufLen = some [frame] ∧
        frame.magic = frameMagic ∧ frame.cmd = fifoPktSim ∧ frame.data =
          SimPacketHeader.toBytes ⟨0, packetType.toUInt32, (oemBufLen + 9 + 1).toUInt8.toUInt32⟩ ++
            (OemSimPacketHeader.toBytes ⟨hSim.toUInt32, packetType, oemBufLen⟩ ++
              (dataBuf.take oemBufLen.toNat ++ [0x00])).take ((oemBufLen.toNat + 10) % 256) := by
  let header : OemSimPacketHeader := ⟨hSim.toUInt32, packetType, oemBufLen⟩
  have hheader := header.toBytes_length
  let data := dataBuf.take oemBufLen.toNat
  have hdata : data.length = oemBufLen.toNat := List.length_take_of_le hread
  have hsize : (oemBufLen + 9 + 1).toNat = 9 + (oemBufLen.toNat + 1) := by
    rw [UInt32.toNat_add, UInt32.toNat_add]
    change ((oemBufLen.toNat + 9) % 2 ^ 32 + 1) % 2 ^ 32 = _
    omega
  have hcopy : (Block.malloc (fun _ => 0x00) (oemBufLen + 9 + 1).toNat).memcpy 0 header.toBytes =
      some ⟨header.toBytes ++ List.replicate (oemBufLen.toNat + 1) 0x00, true⟩ := by
    have hfits : header.toBytes.length ≤ (List.replicate (oemBufLen + 9 + 1).toNat (0x00 : UInt8)).length := by
      rw [List.length_replicate]
      omega
    have hfirst := Block.memcpy_behind [] hfits
    rw [List.nil_append, List.nil_append, List.drop_replicate, hsize, hheader,
      Nat.add_sub_cancel_left] at hfirst
    rwa [Block.malloc, List.map_const', List.length_range, hsize]
  have hbyte : (oemBufLen + 9 + 1).toUInt8.toNat = (oemBufLen.toNat + 10) % 256 := by
    rw [UInt32.toNat_toUInt8, hsize]
    omega
  let simBuf : Block := ⟨header.toBytes ++ (data ++ [0x00]), true⟩
  have hlength : simBuf.bytes.length = oemBufLen.toNat + 10 := by
    rw [List.length_append, List.length_append, hheader, hdata, List.length_singleton]
    omega
  have hfits : (oemBufLen + 9 + 1).toUInt8.toNat ≤ simBuf.bytes.length := by
    rw [hbyte, hlength]
    exact Nat.mod_le ..
  have htype : simBuf.bytes[4]? = some packetType := header.toBytes_type _
  have hlive : simBuf.live := rfl
  obtain ⟨frame, hframe, hmagic, hcmd, hbytes⟩ := simSendOemReq_eq fresh hlive htype hfits
  rw [hbyte] at hbytes
  refine ⟨frame, ?_, hmagic, hcmd, hbytes⟩
  unfold simSendOemData
  rw [if_neg hSid]
  dsimp only
  rw [hcopy, Option.bind_eq_bind, Option.bind_some, copyOemData_eq hheader hread, Option.bind_some,
    hframe]
  rfl

section Size

variable (fresh : ℕ → UInt8) {hSim : UInt8} {packetType : UInt8} {data : List UInt8}

theorem toNat_ofNat_length (hlen : data.length + 22 < 2 ^ 32) :
    (UInt32.ofNat data.length).toNat = data.length :=
  UInt32.toNat_ofNat_of_lt' (show data.length < 2 ^ 32 by omega)

/-- The length of the frame counts no more than what the byte can hold. -/
theorem SendsOemFrame.length_le (hSid : hSim ≠ 0) (hlen : data.length + 22 < 2 ^ 32)
    (h : SendsOemFrame fresh hSim packetType data) : data.length ≤ 245 := by
  have hn := toNat_ofNat_length hlen
  obtain ⟨frame, hframe, -, -, hbytes⟩ := simSendOemData_eq fresh hSid packetType hn.le (by rwa [hn])
  obtain ⟨frame', hframe', -, -, -, hsize⟩ := h
  obtain rfl : frame = frame' := by simpa using hframe.symm.trans hframe'
  have hlength := frame.data_length
  rw [hbytes, hsize, hn, List.length_append, SimPacketHeader.toBytes_length, List.length_take] at hlength
  have hmod := Nat.mod_lt (data.length + 10) (show 0 < 256 by norm_num)
  omega

/-- A frame that the byte can count goes out whole. -/
theorem SendsOemFrame.of_length_le (hSid : hSim ≠ 0) (hle : data.length ≤ 245) :
    SendsOemFrame fresh hSim packetType data := by
  have hlen : data.length + 22 < 2 ^ 32 := by omega
  have hn := toNat_ofNat_length hlen
  obtain ⟨frame, hframe, hmagic, hcmd, hbytes⟩ :=
    simSendOemData_eq fresh hSid packetType hn.le (by rwa [hn])
  have hword : (UInt32.ofNat data.length + 9 + 1).toUInt8.toUInt32 = UInt32.ofNat (data.length + 10) := by
    apply UInt32.toNat_inj.mp
    rw [UInt8.toNat_toUInt32, UInt32.toNat_toUInt8, UInt32.toNat_add, UInt32.toNat_add, hn,
      UInt32.toNat_ofNat_of_lt' (show data.length + 10 < 2 ^ 32 by omega)]
    change ((data.length + 9) % 2 ^ 32 + 1) % 2 ^ 32 % 2 ^ 8 = _
    omega
  have hheader (h : OemSimPacketHeader) : (h.toBytes ++ (data ++ [0x00])).length = data.length + 10 := by
    rw [List.length_append, List.length_append, h.toBytes_length, List.length_singleton]
    omega
  rw [hword, hn, List.take_length, Nat.mod_eq_of_lt (by omega),
    List.take_of_length_le (hheader _).le] at hbytes
  have hwhole : frame.data = oemFrame hSim packetType data := by
    rw [hbytes, oemFrame, List.append_assoc, List.append_assoc]
  refine ⟨frame, hframe, hmagic, hcmd, hwhole, ?_⟩
  rw [← frame.data_length, hbytes, List.length_append, SimPacketHeader.toBytes_length, hheader]
  omega

/-- **A request to the SIM** goes out as one whole frame if its data has at most 245 bytes. -/
theorem sendsOemFrame_iff (hSid : hSim ≠ 0) (hlen : data.length + 22 < 2 ^ 32) :
    SendsOemFrame fresh hSim packetType data ↔ data.length ≤ 245 :=
  ⟨SendsOemFrame.length_le fresh hSid hlen, SendsOemFrame.of_length_le fresh hSid⟩

theorem sendsOemFrame_verifyChv : SendsOemFrame (fun _ => 0) 4 simOemRequestVerifyChv
    (List.replicate 10 0) :=
  (sendsOemFrame_iff (fun _ => 0) (by decide) (by decide)).mpr (by decide)

/-- For 246 bytes the length in the first header is 0, and nothing stands behind it. -/
theorem not_sendsOemFrame_long : ¬∀ (hSim packetType : UInt8) (data : List UInt8), hSim ≠ 0 →
    data.length + 22 < 2 ^ 32 → SendsOemFrame (fun _ => 0) hSim packetType data := by
  intro h
  have hlen : (List.replicate 246 (0 : UInt8)).length = 246 := List.length_replicate
  have hframe := h 4 simOemRequestUpdateFileBinary (List.replicate 246 0) (by decide) (by omega)
  have hle := hframe.length_le _ (by decide) (by omega)
  omega

end Size

end Mocha.Ipc
