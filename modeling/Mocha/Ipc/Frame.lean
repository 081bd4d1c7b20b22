import Mocha.Lib.Block
import Mocha.Lib.Bytes

/-! Modem frames (`include/radio.h`, `include/types.h`) and the sender of `wave_ipc.c`, which cuts
packets longer than one frame into a header frame and fragments. -/
namespace Mocha.Ipc
open Mocha.Lib

/-! FIFO packet types, as far as `ipc_dispatch` knows them. -/

def fifoPktSim : UInt32 := 2
def fifoPktProto : UInt32 := 3
def fifoPktTapi : UInt32 := 4
def fifoPktFile : UInt32 := 6
def fifoPktSound : UInt32 := 9
def fifoPktBoot : UInt32 := 15
def fifoPktSystem : UInt32 := 17
def fifoPktDebug : UInt32 := 25
def fifoPktFifoInternal : UInt32 := 30
def fifoPktDvbHDebugLevel : UInt32 := 46
def fifoPktLbs : UInt32 := 50
def fifoPktBluetooth : UInt32 := 0x91
def fifoPktTestmode : UInt32 := 0x92
def fifoPktDrv : UInt32 := 0x93

/-- `MAX_SINGLE_FRAME_DATA` -/
def maxSingleFrameData : ℕ := 0xFF4

def frameMagic : UInt32 := 0xCAFECAFE

/-- `struct modem_io` with the `datasize` bytes its data pointer refers to. -/
@[ext]
structure ModemIo where
  magic : UInt32
  cmd : UInt32
  datasize : UInt32
  data : List UInt8
  data_length : data.length = datasize.toNat
deriving DecidableEq

/-- The packet for `ipc_send`, which reads `datasize` bytes at the data pointer. -/
def modemPacket (cmd datasize : UInt32) (data : Block) : Option ModemIo := do
  let bytes ← data.read 0 datasize.toNat
  if h : bytes.length = datasize.toNat then some ⟨frameMagic, cmd, datasize, bytes, h⟩ else none

theorem modemPacket_eq (cmd datasize : UInt32) (data : Block) (hlive : data.live)
    (hfits : datasize.toNat ≤ data.bytes.length) : ∃ packet,
      modemPacket cmd datasize data = some packet ∧ packet.magic = frameMagic ∧ packet.cmd = cmd ∧
        packet.datasize = datasize ∧ packet.data = data.bytes.take datasize.toNat := by
  have hread : data.read 0 datasize.toNat = some (data.bytes.take datasize.toNat) :=
    data.read_eq hlive (by omega)
  have hlength : (data.bytes.take datasize.toNat).length = datasize.toNat := List.length_take_of_le hfits
  refine ⟨⟨frameMagic, cmd, datasize, data.bytes.take datasize.toNat, hlength⟩, ?_, rfl, rfl, rfl, rfl⟩
  unfold modemPacket
  rw [hread, Option.bind_eq_bind, Option.bind_some, dif_pos hlength]

/-- The three words of a multi-frame header: `struct multiPacketHeader` for the sender,
`multiFrameHeader` for the receiver. -/
@[ext]
structure MultiFrameHeader where
  unknown : UInt32
  size : UInt32
  type : UInt32
deriving DecidableEq

def MultiFrameHeader.toBytes (h : MultiFrameHeader) : List UInt8 :=
  leBytes 4 h.unknown.toNat ++ leBytes 4 h.size.toNat ++ leBytes 4 h.type.toNat

def MultiFrameHeader.ofBytes (l : List UInt8) : MultiFrameHeader where
  unknown := UInt32.ofNat (wordAt 4 0 l)
  size := UInt32.ofNat (wordAt 4 4 l)
  type := UInt32.ofNat (wordAt 4 8 l)

theorem MultiFrameHeader.toBytes_length (h : MultiFrameHeader) : h.toBytes.length = 0xC := by
  simp [toBytes]

private theorem word_lt (x : UInt32) : x.toNat < 256 ^ 4 := x.toNat_lt

/-- The two sides lay the header out alike. -/
theorem MultiFrameHeader.ofBytes_toBytes (h : MultiFrameHeader) : ofBytes h.toBytes = h := by
  obtain ⟨unknown, size, type⟩ := h
  have h0 := wordAt_field 0 [] (leBytes 4 size.toNat ++ leBytes 4 type.toNat) rfl (word_lt unknown)
  have h1 := wordAt_field 4 (leBytes 4 unknown.toNat) (leBytes 4 type.toNat)
    (leBytes_length 4 unknown.toNat) (word_lt size)
  have h2 := wordAt_field 8 (leBytes 4 unknown.toNat ++ leBytes 4 size.toNat) [] (by simp)
    (word_lt type)
  simp only [List.nil_append, List.append_nil, List.append_assoc] at h0 h1 h2
  simp only [ofBytes, toBytes, List.append_assoc, h0, h1, h2, UInt32.ofNat_toNat]

/-- A frame of `FIFO_PKT_FIFO_INTERNAL` as `wave_ipc_send` fills it in. -/
def internalFrame (data : List UInt8) (h : data.length < 2 ^ 32) : ModemIo where
  magic := frameMagic
  cmd := fifoPktFifoInternal
  datasize := UInt32.ofNat data.length
  data := data
  data_length := (UInt32.toNat_ofNat_of_lt' h).symm

/-- The size of the next fragment in the sending loop of `wave_ipc_send`. -/
def fragmentSize (leftData : ℤ) : ℕ :=
  if (maxSingleFrameData : ℤ) < leftData then maxSingleFrameData else leftData.toNat

theorem fragmentSize_le (leftData : ℤ) : fragmentSize leftData ≤ maxSingleFrameData := by
  unfold fragmentSize; split_ifs <;> omega

/-- The sending loop of `wave_ipc_send`. `data` is what `multi_packet.data` still points to; that
it holds the bytes still to send is carried along, so nothing behind the packet is read. -/
def waveIpcSendLoop (data : List UInt8) (leftData : ℤ) (h : leftData ≤ data.length) :
    List ModemIo :=
  if 0 < leftData then
    internalFrame (data.take (fragmentSize leftData))
      (by have := fragmentSize_le leftData
          rw [List.length_take]; unfold maxSingleFrameData at this; omega) ::
      waveIpcSendLoop (data.drop maxSingleFrameData) (leftData - maxSingleFrameData)
        (by rw [List.length_drop]; omega)
  else []
termination_by leftData.toNat
decreasing_by unfold maxSingleFrameData; omega

theorem toInt_toInt32 (x : UInt32) :
    x.toInt32.toInt = if x.toNat < 2 ^ 31 then (x.toNat : ℤ) else x.toNat - 2 ^ 32 := by
  rw [← Int32.toInt_toBitVec, UInt32.toBitVec_toInt32, BitVec.toInt_eq_toNat_cond,
    UInt32.toNat_toBitVec]
  split_ifs <;> omega

/-- The frames `wave_ipc_send` writes, in order; `left_data` is an `int32_t`. -/
def waveIpcSend (ipcFrame : ModemIo) : List ModemIo :=
  if maxSingleFrameData < ipcFrame.datasize.toNat then
    let multiHeader : MultiFrameHeader := ⟨0x02, ipcFrame.datasize, ipcFrame.cmd⟩
    internalFrame multiHeader.toBytes (by rw [multiHeader.toBytes_length]; decide) ::
      waveIpcSendLoop ipcFrame.data ipcFrame.datasize.toInt32.toInt
        (by rw [toInt_toInt32, ipcFrame.data_length]; split_ifs <;> omega)
  else [ipcFrame]

/-- What the sending loop writes for a whole packet. -/
def fragments (data : List UInt8) : List ModemIo := waveIpcSendLoop data data.length le_rfl

theorem internalFrame_datasize (data : List UInt8) (h : data.length < 2 ^ 32) :
    (internalFrame data h).datasize.toNat = data.length := UInt32.toNat_ofNat_of_lt' h

theorem internalFrame_congr {a b : List UInt8} (h : a = b) (ha : a.length < 2 ^ 32)
    (hb : b.length < 2 ^ 32) : internalFrame a ha = internalFrame b hb := by subst h; rfl

theorem waveIpcSendLoop_congr {data : List UInt8} {left left' : ℤ} (hl : left = left')
    (h : left ≤ data.length) (h' : left' ≤ data.length) :
    waveIpcSendLoop data left h = waveIpcSendLoop data left' h' := by subst hl; rfl

theorem fragments_single {data : List UInt8} (hne : data ≠ [])
    (hle : data.length ≤ maxSingleFrameData) :
    fragments data = [internalFrame data (by unfold maxSingleFrameData at hle; omega)] := by
  have hpos := List.length_pos_iff.mpr hne
  have hsize : fragmentSize data.length = data.length := by
    rw [fragmentSize, if_neg (by omega), Int.toNat_natCast]
  rw [fragments, waveIpcSendLoop, if_pos (by omega), waveIpcSendLoop, if_neg (by omega)]
  congr 1
  exact internalFrame_congr (by rw [hsize, List.take_length]) _ _

theorem fragments_cons {data : List UInt8} (hgt : maxSingleFrameData < data.length) :
    fragments data = internalFrame (data.take maxSingleFrameData)
        (by rw [List.length_take]; unfold maxSingleFrameData; omega) ::
      fragments (data.drop maxSingleFrameData) := by
  have hsize : fragmentSize data.length = maxSingleFrameData := by
    rw [fragmentSize, if_pos (by omega)]
  rw [fragments, waveIpcSendLoop, if_pos (by omega)]
  congr 1
  · exact internalFrame_congr (by rw [hsize]) _ _
  · exact waveIpcSendLoop_congr (by rw [List.length_drop]; omega) _ _

/-- The fragments of a packet, all but the last of full size, carry its bytes in order. -/
theorem fragments_spec (data : List UInt8) (hne : data ≠ []) :
    ∃ init last, fragments data = init ++ [last] ∧
      (∀ f ∈ init, f.data.length = maxSingleFrameData) ∧
      last.data.length = (data.length - 1) % maxSingleFrameData + 1 ∧
      (∀ f ∈ fragments data, f.cmd = fifoPktFifoInternal) ∧
      (fragments data).flatMap (·.data) = data := by
  induction hn : data.length using Nat.strong_induction_on generalizing data with
  | _ n ih =>
    have hpos := List.length_pos_iff.mpr hne
    by_cases hle : data.length ≤ maxSingleFrameData
    · refine ⟨[], _, fragments_single hne hle, by simp, ?_, ?_, ?_⟩
      · rw [Nat.mod_eq_of_lt (by omega)]
        change data.length = _
        omega
      · simp [fragments_single hne hle, internalFrame]
      · simp [fragments_single hne hle, internalFrame]
    · have hgt : maxSingleFrameData < data.length := by omega
      have hmax : 0 < maxSingleFrameData := by decide
      have hlen : (data.drop maxSingleFrameData).length = n - maxSingleFrameData := by
        rw [List.length_drop, hn]
      obtain ⟨init, last, hf, hinit, hlast, hcmd, hdata⟩ := ih _ (by omega)
        (data.drop maxSingleFrameData) (List.length_pos_iff.mp (by omega)) hlen
      rw [fragments_cons hgt]
      refine ⟨_ :: init, last, by rw [hf, List.cons_append], ?_, ?_, ?_, ?_⟩
      · intro f hmem
        rcases List.mem_cons.mp hmem with rfl | hmem
        · simp only [internalFrame, List.length_take]; omega
        · exact hinit f hmem
      · rw [hlast, show n - 1 = (n - maxSingleFrameData - 1) + maxSingleFrameData by omega,
          Nat.add_mod_right]
      · intro f hmem
        rcases List.mem_cons.mp hmem with rfl | hmem
        · rfl
        · exact hcmd f hmem
      · rw [List.flatMap_cons, hdata]
        exact List.take_append_drop _ _

end Mocha.Ipc
