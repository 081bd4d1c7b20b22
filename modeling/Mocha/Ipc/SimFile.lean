import Mocha.Ipc.SimOem

/-! The file requests to the SIM (`mocha-ipc/sim.c`): the structures of `sim.h` byte for byte, and what
each request gives to `sim_send_oem_data`. -/
namespace Mocha.Ipc
open Mocha.Lib

def simOemRequestGetFileInfo : UInt8 := 3
def simOemRequestReadFileBinary : UInt8 := 6
def simOemRequestReadFileRecord : UInt8 := 7

/-! Sizes of the packed structures. -/

def sizeofSimDataRequest : UInt32 := 42
def sizeofSimUpdateFile : UInt32 := 16
def sizeofSimSearchRecord : UInt32 := 17

def SimDataRequest.toBytes (d : SimDataRequest) : List UInt8 :=
  leBytes 2 d.fileId.toNat ++ [d.fileStructure] ++ leBytes 4 d.unk0.toNat ++
    leBytes 4 d.recordIndex.toNat ++ leBytes 4 d.unk1.toNat ++ leBytes 4 d.unk2.toNat ++
    [d.simInd2] ++ leBytes 2 d.size.toNat ++ leBytes 4 d.unk3.toNat ++ leBytes 4 d.unk4.toNat ++
    leBytes 4 d.unk5.toNat ++ leBytes 4 d.unk6.toNat ++ leBytes 4 d.unk7.toNat

def SimUpdateFile.toBytes (d : SimUpdateFile) : List UInt8 :=
  leBytes 2 d.fileId.toNat ++ [d.fileStructure] ++ leBytes 4 d.unk0.toNat ++
    leBytes 4 d.recordIndex.toNat ++ [d.simInd2] ++ leBytes 4 d.bufLen.toNat

/-- `stack` is what stands in a word that is never assigned. -/
def SimSearchRecord.toBytes (stack : UInt32) (d : SimSearchRecord) : List UInt8 :=
  leBytes 2 d.fileId.toNat ++ [d.unk0] ++ leBytes 4 (d.unk1.getD stack).toNat ++
    leBytes 4 d.recordIndex.toNat ++ [d.simInd2] ++ [d.unk2] ++ leBytes 4 d.recordSize.toNat

theorem SimDataRequest.toBytes_length (d : SimDataRequest) :
    d.toBytes.length = sizeofSimDataRequest.toNat := by
  simp [toBytes]
  rfl

theorem SimUpdateFile.toBytes_length (d : SimUpdateFile) :
    d.toBytes.length = sizeofSimUpdateFile.toNat := by
  simp [toBytes]
  rfl

theorem SimSearchRecord.toBytes_length (stack : UInt32) (d : SimSearchRecord) :
    (d.toBytes stack).length = sizeofSimSearchRecord.toNat := by
  simp [toBytes]
  rfl

/-- A call of `sim_send_oem_data`, with the buffer that `dataBuf` points to. -/
structure OemDataCall where
  hSim : UInt8
  packetType : UInt8
  data : Block
  oemBufLen : UInt32

/-- The bytes that `sim_send_oem_data` is told to send; `none` when they go beyond the buffer. -/
def OemDataCall.payload (c : OemDataCall) : Option (List UInt8) := c.data.read 0 c.oemBufLen.toNat

/-- A buffer for a structure and `bufLen` bytes, with copies of both. -/
def requestBuffer (fresh : ℕ → UInt8) (size : UInt32) (simData : List UInt8) (bufLen : UInt32)
    (dataBuf : List UInt8) : Option Block := do
  let data ← (Block.malloc fresh (size + bufLen).toNat).memcpy 0 simData
  let bytes ← Block.read ⟨dataBuf, true⟩ 0 bufLen.toNat
  data.memcpy size.toNat bytes

section Requests

variable (fresh : ℕ → UInt8) (hSim : UInt8)

def simReadFileRecord (simData : SimDataRequest) : Option OemDataCall := do
  let data ← (Block.malloc fresh sizeofSimDataRequest.toNat).memcpy 0 simData.toBytes
  return ⟨hSim, simOemRequestReadFileRecord, data, sizeofSimDataRequest⟩

def simReadFileBinary (simData : SimDataRequest) : Option OemDataCall := do
  let data ← (Block.malloc fresh sizeofSimDataRequest.toNat).memcpy 0 simData.toBytes
  return ⟨hSim, simOemRequestReadFileBinary, data, sizeofSimDataRequest⟩

def simGetFileInfo (simDataType : UInt16) : Option OemDataCall := do
  let data ← (Block.malloc fresh 2).memcpy 0 (leBytes 2 simDataType.toNat)
  return ⟨hSim, simOemRequestGetFileInfo, data, 2⟩

def simUpdateFileRecord (simData : SimUpdateFile) (dataBuf : List UInt8) : Option OemDataCall := do
  let data ← requestBuffer fresh sizeofSimUpdateFile simData.toBytes simData.bufLen dataBuf
  return ⟨hSim, simOemRequestUpdateFileRecord, data, sizeofSimUpdateFile + simData.bufLen + 5⟩

/-- The length is that of another structure. -/
def simUpdateFileBinary (simData : SimUpdateFile) (dataBuf : List UInt8) : Option OemDataCall := do
  let data ← requestBuffer fresh sizeofSimUpdateFile simData.toBytes simData.bufLen dataBuf
  return ⟨hSim, simOemRequestUpdateFileBinary, data, sizeofSimDataRequest + simData.bufLen + 5⟩

def simSearchFileRecord (stack : UInt32) (simData : SimSearchRecord) (dataBuf : List UInt8)
    (bufLen : UInt8) : Option OemDataCall := do
  let data ← requestBuffer fresh sizeofSimSearchRecord (simData.toBytes stack) bufLen.toUInt32 dataBuf
  return ⟨hSim, simOemRequestSearchRecord, data, sizeofSimSearchRecord + bufLen.toUInt32 + 5⟩

end Requests

namespace SimRequest

/-- The call that a request makes. -/
def oemCall (fresh : ℕ → UInt8) (stack : UInt32) : SimRequest → Option OemDataCall
  | simGetFileInfo hSim simDataType => Ipc.simGetFileInfo fresh hSim simDataType
  | simReadFileRecord hSim simData => Ipc.simReadFileRecord fresh hSim simData
  | simReadFileBinary hSim simData => Ipc.simReadFileBinary fresh hSim simData
  | simUpdateFileRecord hSim simData dataBuf =>
    Ipc.simUpdateFileRecord fresh hSim simData (dataBuf.getD [])
  | simUpdateFileBinary hSim simData dataBuf =>
    Ipc.simUpdateFileBinary fresh hSim simData (dataBuf.getD [])
  | simSearchFileRecord hSim simData dataBuf bufLen =>
    Ipc.simSearchFileRecord fresh hSim stack simData (dataBuf.getD []) bufLen

/-- The structure of a request. -/
def simData (stack : UInt32) : SimRequest → List UInt8
  | simGetFileInfo _ simDataType => leBytes 2 simDataType.toNat
  | simReadFileRecord _ simData => simData.toBytes
  | simReadFileBinary _ simData => simData.toBytes
  | simUpdateFileRecord _ simData _ => simData.toBytes
  | simUpdateFileBinary _ simData _ => simData.toBytes
  | simSearchFileRecord _ simData _ _ => simData.toBytes stack

end SimRequest

theorem malloc_memcpy (fresh : ℕ → UInt8) {n : ℕ} {l : List UInt8} (hlength : l.length = n) :
    (Block.malloc fresh n).memcpy 0 l = some ⟨l, true⟩ := by
  have hmemory : (Block.malloc fresh n).bytes.length = l.length :=
    (Block.malloc_length fresh n).trans hlength.symm
  have hcopy := Block.memcpy_behind [] hmemory.ge
  rwa [← hmemory, List.drop_length, List.append_nil] at hcopy

/-- The requests without data send their structure, and nothing from outside of it. -/
theorem SimRequest.payload_simData (fresh : ℕ → UInt8) (stack : UInt32) {r : SimRequest}
    (h : r matches .simGetFileInfo .. | .simReadFileRecord .. | .simReadFileBinary ..) :
    ∃ call, r.oemCall fresh stack = some call ∧ call.payload = some (r.simData stack) := by
  have hpayload {l : List UInt8} {n : UInt32} (hlength : l.length = n.toNat) (hSim type : UInt8) :
      (OemDataCall.mk hSim type ⟨l, true⟩ n).payload = some l := by
    unfold OemDataCall.payload
    rw [Block.read_eq rfl (show 0 + n.toNat ≤ l.length by omega), List.drop_zero, ← hlength, List.take_length]
  cases r with
  | simGetFileInfo hSim simDataType =>
    have hlength := leBytes_length 2 simDataType.toNat
    refine ⟨⟨hSim, simOemRequestGetFileInfo, ⟨_, true⟩, 2⟩, ?_, hpayload hlength hSim _⟩
    rw [oemCall, Ipc.simGetFileInfo, malloc_memcpy fresh hlength]
    rfl
  | simReadFileRecord hSim simData =>
    refine ⟨⟨hSim, simOemRequestReadFileRecord, ⟨_, true⟩, sizeofSimDataRequest⟩, ?_,
      hpayload simData.toBytes_length hSim _⟩
    rw [oemCall, Ipc.simReadFileRecord, malloc_memcpy fresh simData.toBytes_length]
    rfl
  | simReadFileBinary hSim simData =>
    refine ⟨⟨hSim, simOemRequestReadFileBinary, ⟨_, true⟩, sizeofSimDataRequest⟩, ?_,
      hpayload simData.toBytes_length hSim _⟩
    rw [oemCall, Ipc.simReadFileBinary, malloc_memcpy fresh simData.toBytes_length]
    rfl
  | _ => cases h

/-- The payload is the structure, the data and nothing but zeros. -/
def OemDataCall.Carries (c : OemDataCall) (simData data : List UInt8) : Prop :=
  ∃ n, c.payload = some (simData ++ data ++ List.replicate n 0x00)

section Bounds

variable {fresh : ℕ → UInt8} {size bufLen : UInt32} {simData dataBuf : List UInt8}

/-- The buffer has room for both copies, so that its size has not wrapped around. -/
theorem requestBuffer_length {data : Block}
    (h : requestBuffer fresh size simData bufLen dataBuf = some data) :
    data.bytes.length = (size + bufLen).toNat ∧ size.toNat + bufLen.toNat ≤ data.bytes.length ∧
      bufLen.toNat ≤ dataBuf.length := by
  obtain ⟨first, hfirst, h⟩ := Option.bind_eq_some_iff.mp h
  obtain ⟨bytes, hread, hcopy⟩ := Option.bind_eq_some_iff.mp h
  obtain ⟨-, -, hlength, -, -⟩ := Block.memcpy_eq_some hfirst
  obtain ⟨-, -, hlength', hfits, -⟩ := Block.memcpy_eq_some hcopy
  unfold Block.read at hread
  split_ifs at hread with hin
  have hin : 0 + bufLen.toNat ≤ dataBuf.length := hin.2
  have hbytes : bytes.length = bufLen.toNat := by
    rw [← Option.some.inj hread, List.drop_zero]
    exact List.length_take_of_le (by omega)
  rw [Block.malloc_length] at hlength
  exact ⟨hlength'.trans hlength, by omega, by omega⟩

/-- A payload of any other length than the buffer's is not what was put into it. -/
theorem not_carries {call : OemDataCall} (hsize : simData.length = size.toNat)
    (hbuf : requestBuffer fresh size simData bufLen dataBuf = some call.data)
    (hne : call.oemBufLen ≠ size + bufLen) : ¬call.Carries simData dataBuf := by
  rintro ⟨n, hpayload⟩
  obtain ⟨hlength, hfits, hread⟩ := requestBuffer_length hbuf
  unfold OemDataCall.payload Block.read at hpayload
  split_ifs at hpayload with hin
  have htotal := congrArg List.length (Option.some.inj hpayload)
  rw [List.drop_zero, List.length_take_of_le (by omega), List.length_append, List.length_append, hsize]
    at htotal
  have hle : (size + bufLen).toNat ≤ size.toNat + bufLen.toNat := by
    rw [UInt32.toNat_add]
    exact Nat.mod_le ..
  exact hne (UInt32.toNat_inj.mp (by omega))

theorem add_ne_self {x k : UInt32} (hk : k ≠ 0) : x + k ≠ x := by
  intro h
  have hk' : k.toNat ≠ 0 := fun hzero => hk (UInt32.toNat_inj.mp hzero)
  have hsum := congrArg UInt32.toNat h
  rw [UInt32.toNat_add] at hsum
  have hx := x.toNat_lt
  have hlt := k.toNat_lt
  omega

variable {stack : UInt32} {hSim : UInt8} {call : OemDataCall}

/-- Five bytes more than the buffer has. -/
theorem simUpdateFileRecord_not_carries {simData : SimUpdateFile}
    (h : simUpdateFileRecord fresh hSim simData dataBuf = some call) :
    ¬call.Carries simData.toBytes dataBuf := by
  obtain ⟨data, hbuf, hcall⟩ := Option.bind_eq_some_iff.mp h
  obtain rfl := Option.some.inj hcall
  exact not_carries simData.toBytes_length hbuf (add_ne_self (by decide))

theorem simUpdateFileBinary_length (bufLen : UInt32) :
    sizeofSimDataRequest + bufLen + 5 = sizeofSimUpdateFile + bufLen + 5 + 26 := by
  apply UInt32.toNat_inj.mp
  simp only [UInt32.toNat_add, sizeofSimDataRequest, sizeofSimUpdateFile, UInt32.reduceToNat]
  omega

/-- And 26 bytes more for the larger structure. -/
theorem simUpdateFileBinary_not_carries {simData : SimUpdateFile}
    (h : simUpdateFileBinary fresh hSim simData dataBuf = some call) :
    ¬call.Carries simData.toBytes dataBuf := by
  obtain ⟨data, hbuf, hcall⟩ := Option.bind_eq_some_iff.mp h
  obtain rfl := Option.some.inj hcall
  refine not_carries simData.toBytes_length hbuf ?_
  change sizeofSimDataRequest + simData.bufLen + 5 ≠ _
  rw [simUpdateFileBinary_length, UInt32.add_assoc]
  exact add_ne_self (by decide)

theorem simSearchFileRecord_not_carries {simData : SimSearchRecord} {bufLen : UInt8}
    (h : simSearchFileRecord fresh hSim stack simData dataBuf bufLen = some call) :
    ¬call.Carries (simData.toBytes stack) dataBuf := by
  obtain ⟨data, hbuf, hcall⟩ := Option.bind_eq_some_iff.mp h
  obtain rfl := Option.some.inj hcall
  exact not_carries (simData.toBytes_length stack) hbuf (add_ne_self (by decide))

end Bounds

end Mocha.Ipc
