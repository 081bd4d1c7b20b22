import Mathlib.Algebra.BigOperators.Ring.List
import Mocha.Ipc.Frame

/-! `wave_ipc_send` (`wave_ipc.c`) with the one structure that it fills in again for each frame, and
the pointer in it. A frame is written by reading what its pointer refers to. -/
namespace Mocha.Ipc
open Mocha.Lib

/-- Where `multi_packet.data` points to: the header from `malloc`, or the packet's data, at an offset
that may lie behind its end. -/
inductive DataPointer
  | multiHeader
  | packetData (offset : ℕ)
deriving DecidableEq

/-- The variables of `wave_ipc_send`, with the memory of the caller, the header until it is freed, and
the frames that have been written. -/
structure SendState where
  ipcFrame : ModemIo
  multiHeader : Option (List UInt8)
  magic : UInt32
  cmd : UInt32
  datasize : UInt32
  data : DataPointer
  leftData : ℤ
  written : List ModemIo

namespace SendState

/-- The bytes from the pointer to the end of what it points into. -/
def pointee (s : SendState) : Option (List UInt8) :=
  match s.data with
  | .multiHeader => s.multiHeader
  | .packetData offset =>
    if offset ≤ s.ipcFrame.data.length then some (s.ipcFrame.data.drop offset) else none

/-- `send_packet(client, &multi_packet)`; `none` for a read outside of the memory. -/
def sendPacket (s : SendState) : Option SendState :=
  match s.pointee with
  | none => none
  | some bytes =>
    if h : s.datasize.toNat ≤ bytes.length then
      some { s with written := s.written ++ [⟨s.magic, s.cmd, s.datasize,
        bytes.take s.datasize.toNat, List.length_take_of_le h⟩] }
    else none

/-- `multi_packet.data += MAX_SINGLE_FRAME_DATA` -/
def advance (s : SendState) : SendState :=
  match s.data with
  | .multiHeader => s
  | .packetData offset => { s with data := .packetData (offset + maxSingleFrameData) }

/-- The loop. The remainder stays above `-MAX_SINGLE_FRAME_DATA`, so that it does not overflow. -/
def sendLoop (s : SendState) : Option SendState :=
  if 0 < s.leftData then do
    let datasize : UInt32 :=
      if (maxSingleFrameData : ℤ) < s.leftData then UInt32.ofNat maxSingleFrameData
      else UInt32.ofNat s.leftData.toNat
    let t ← sendPacket { s with datasize := datasize }
    sendLoop { t.advance with leftData := s.leftData - maxSingleFrameData }
  else some s
termination_by s.leftData.toNat
decreasing_by
  unfold maxSingleFrameData
  omega

end SendState

/-- `wave_ipc_send`, with the variables as they are at the end. -/
def waveIpcSendMemory (ipcFrame : ModemIo) : Option SendState :=
  let s : SendState := ⟨ipcFrame, none, 0, 0, 0, .packetData 0, 0, []⟩
  if maxSingleFrameData < ipcFrame.datasize.toNat then do
    let multiHeader : MultiFrameHeader := ⟨0x02, ipcFrame.datasize, ipcFrame.cmd⟩
    let s ← SendState.sendPacket { s with
      multiHeader := some multiHeader.toBytes
      magic := frameMagic
      cmd := fifoPktFifoInternal
      datasize := 0x0C
      data := .multiHeader }
    SendState.sendLoop { s with
      multiHeader := none
      leftData := ipcFrame.datasize.toInt32.toInt
      data := .packetData 0 }
  else some { s with written := [ipcFrame] }

section

variable {s : SendState}

theorem internalFrame_eq {datasize : UInt32} {data : List UInt8} (h : data.length = datasize.toNat)
    (hlt : data.length < 2 ^ 32) :
    ⟨frameMagic, fifoPktFifoInternal, datasize, data, h⟩ = internalFrame data hlt := by
  have hsize : UInt32.ofNat data.length = datasize := by rw [h, UInt32.ofNat_toNat]
  ext1
  · rfl
  · rfl
  · exact hsize.symm
  · rfl

/-- The variables while the fragments are written: the pointer is at an offset of the caller's data. -/
structure SendState.Fragmenting (s : SendState) (ipcFrame : ModemIo) (offset : ℕ)
    (written : List ModemIo) : Prop where
  ipcFrame : s.ipcFrame = ipcFrame
  magic : s.magic = frameMagic
  cmd : s.cmd = fifoPktFifoInternal
  data : s.data = .packetData offset
  written : s.written = written

theorem SendState.Fragmenting.advance {p : ModemIo} {offset : ℕ} {written : List ModemIo}
    (h : s.Fragmenting p offset written) (leftData : ℤ) :
    SendState.Fragmenting { s.advance with leftData := leftData } p (offset + maxSingleFrameData)
      written := by
  have hadvance : s.advance = { s with data := .packetData (offset + maxSingleFrameData) } := by
    rw [SendState.advance, h.data]
  rw [hadvance]
  exact ⟨h.ipcFrame, h.magic, h.cmd, rfl, h.written⟩

/-- A fragment is read from the caller's data and written. -/
theorem SendState.Fragmenting.sendPacket {p : ModemIo} {offset n : ℕ} {written : List ModemIo}
    (h : s.Fragmenting p offset written) (hn : s.datasize.toNat = n)
    (hread : offset + n ≤ p.data.length) (hlt : ((p.data.drop offset).take n).length < 2 ^ 32) :
    ∃ t, s.sendPacket = some t ∧
      t.Fragmenting p offset (written ++ [internalFrame ((p.data.drop offset).take n) hlt]) := by
  subst hn
  have hlength : s.datasize.toNat ≤ (p.data.drop offset).length := by
    rw [List.length_drop]
    omega
  have hpointee : s.pointee = some (p.data.drop offset) := by
    rw [SendState.pointee, h.data, h.ipcFrame]
    exact if_pos (by omega)
  unfold SendState.sendPacket
  rw [hpointee]
  dsimp only
  rw [dif_pos hlength]
  refine ⟨_, rfl, h.ipcFrame, h.magic, h.cmd, h.data, ?_⟩
  simp only [h.magic, h.cmd, h.written]
  rw [internalFrame_eq]

/-- The loop ends, and writes what is left behind the pointer. -/
theorem SendState.Fragmenting.sendLoop {p : ModemIo} {offset : ℕ} {written : List ModemIo}
    {rest : List UInt8} (h : s.Fragmenting p offset written) (hrest : p.data.drop offset = rest)
    (hleft : s.leftData ≤ rest.length) : ∃ t, s.sendLoop = some t ∧ t.ipcFrame = p ∧
      t.written = written ++ waveIpcSendLoop rest s.leftData hleft := by
  induction hn : s.leftData.toNat using Nat.strong_induction_on generalizing s offset rest written with
  | _ n ih =>
    rw [SendState.sendLoop, waveIpcSendLoop]
    by_cases hpos : 0 < s.leftData
    · have hsize := fragmentSize_le s.leftData
      have hlength : rest.length = p.data.length - offset := by rw [← hrest, List.length_drop]
      have hread : offset + fragmentSize s.leftData ≤ p.data.length := by
        unfold fragmentSize at hsize ⊢
        split_ifs at hsize ⊢ <;> omega
      have hdatasize : (if (maxSingleFrameData : ℤ) < s.leftData then UInt32.ofNat maxSingleFrameData
          else UInt32.ofNat s.leftData.toNat).toNat = fragmentSize s.leftData := by
        rw [fragmentSize, ← apply_ite UInt32.ofNat]
        exact UInt32.toNat_ofNat_of_lt' (hsize.trans_lt (by decide))
      have hsmall : ((p.data.drop offset).take (fragmentSize s.leftData)).length < 2 ^ 32 := by
        rw [List.length_take]
        unfold maxSingleFrameData at hsize
        omega
      rw [if_pos hpos, if_pos hpos]
      dsimp only
      generalize (if (maxSingleFrameData : ℤ) < s.leftData then UInt32.ofNat maxSingleFrameData
        else UInt32.ofNat s.leftData.toNat) = datasize at hdatasize ⊢
      have hs : SendState.Fragmenting { s with datasize := datasize } p offset written :=
        ⟨h.ipcFrame, h.magic, h.cmd, h.data, h.written⟩
      obtain ⟨t, hsend, ht⟩ := hs.sendPacket hdatasize hread hsmall
      rw [hsend, Option.bind_eq_bind, Option.bind_some]
      have hrest' : p.data.drop (offset + maxSingleFrameData) = rest.drop maxSingleFrameData := by
        rw [← hrest, List.drop_drop]
      have hleft' : s.leftData - maxSingleFrameData ≤ (rest.drop maxSingleFrameData).length := by
        rw [List.length_drop]
        omega
      obtain ⟨u, hloop, hcaller, hwritten⟩ := ih (s.leftData - maxSingleFrameData).toNat
        (by unfold maxSingleFrameData; omega) (ht.advance (s.leftData - maxSingleFrameData)) hrest'
        hleft' rfl
      refine ⟨u, hloop, hcaller, ?_⟩
      rw [hwritten, List.append_assoc, List.singleton_append]
      subst hrest
      rfl
    · rw [if_neg hpos, if_neg hpos]
      exact ⟨s, rfl, h.ipcFrame, by rw [h.written, List.append_nil]⟩

/-- The header is read from the memory that `malloc` returned for it. -/
theorem sendPacket_header {mfHeader : MultiFrameHeader} (hmagic : s.magic = frameMagic)
    (hcmd : s.cmd = fifoPktFifoInternal) (hdata : s.data = .multiHeader)
    (hheader : s.multiHeader = some mfHeader.toBytes) (hsize : s.datasize = 0x0C)
    (hlt : mfHeader.toBytes.length < 2 ^ 32) :
    ∃ t, s.sendPacket = some t ∧ t.ipcFrame = s.ipcFrame ∧ t.magic = frameMagic ∧
      t.cmd = fifoPktFifoInternal ∧ t.written = s.written ++ [internalFrame mfHeader.toBytes hlt] := by
  have hlength : s.datasize.toNat = mfHeader.toBytes.length := by
    rw [mfHeader.toBytes_length, hsize]
    rfl
  have hpointee : s.pointee = some mfHeader.toBytes := by rw [SendState.pointee, hdata, hheader]
  unfold SendState.sendPacket
  rw [hpointee]
  dsimp only
  rw [dif_pos hlength.le]
  refine ⟨_, rfl, rfl, hmagic, hcmd, ?_⟩
  have htake : mfHeader.toBytes.take s.datasize.toNat = mfHeader.toBytes := by
    rw [hlength, List.take_length]
  simp only [hmagic, hcmd, htake]
  rw [internalFrame_eq]

/-- The header, and then the loop. -/
theorem waveIpcSendMemory_eq (p : ModemIo) :
    ∃ t, waveIpcSendMemory p = some t ∧ t.ipcFrame = p ∧ t.written = waveIpcSend p := by
  unfold waveIpcSendMemory waveIpcSend
  dsimp only
  by_cases hgt : maxSingleFrameData < p.datasize.toNat
  · have hleft : p.datasize.toInt32.toInt ≤ p.data.length := by
      rw [toInt_toInt32, p.data_length]
      split_ifs <;> omega
    rw [if_pos hgt, if_pos hgt]
    obtain ⟨t, hsend, hcaller, hmagic, hcmd, hwritten⟩ := sendPacket_header
      (s := ⟨p, some (MultiFrameHeader.toBytes ⟨0x02, p.datasize, p.cmd⟩), frameMagic,
        fifoPktFifoInternal, 0x0C, .multiHeader, 0, []⟩) rfl rfl rfl rfl rfl
      (by rw [MultiFrameHeader.toBytes_length]; decide)
    rw [hsend, Option.bind_eq_bind, Option.bind_some]
    have hfragmenting : SendState.Fragmenting { t with
        multiHeader := none
        leftData := p.datasize.toInt32.toInt
        data := .packetData 0 } p 0 _ := ⟨hcaller, hmagic, hcmd, rfl, hwritten⟩
    exact hfragmenting.sendLoop rfl hleft
  · rw [if_neg hgt, if_neg hgt]
    exact ⟨_, rfl, rfl, rfl⟩

/-- **What `wave_ipc_send` writes for a packet of more than one frame**: a header of 12 bytes, and as
many fragments as the data need, all of full size but the last. It reads no byte behind the data and
leaves the packet as it was. -/
theorem waveIpcSend_frames {p : ModemIo} (hgt : maxSingleFrameData < p.datasize.toNat)
    (hlt : p.datasize.toNat < 2 ^ 31) :
    ∃ t header init last, waveIpcSendMemory p = some t ∧ t.ipcFrame = p ∧
      t.written = header :: (init ++ [last]) ∧
      (header.cmd = fifoPktFifoInternal ∧ header.datasize = 0xC ∧
        header.data = leBytes 4 2 ++ leBytes 4 p.datasize.toNat ++ leBytes 4 p.cmd.toNat) ∧
      (init ++ [last]).length = (p.datasize.toNat + maxSingleFrameData - 1) / maxSingleFrameData ∧
      (∀ f ∈ init ++ [last], f.cmd = fifoPktFifoInternal) ∧
      (∀ f ∈ init, f.datasize.toNat = maxSingleFrameData) ∧
      (1 ≤ last.datasize.toNat ∧ last.datasize.toNat ≤ maxSingleFrameData) ∧
      (init ++ [last]).flatMap (·.data) = p.data := by
  have hlength : (MultiFrameHeader.toBytes ⟨0x02, p.datasize, p.cmd⟩).length < 2 ^ 32 := by
    rw [MultiFrameHeader.toBytes_length]
    decide
  have hne : p.data ≠ [] := by
    intro hnil
    have hsize := p.data_length
    rw [hnil, List.length_nil] at hsize
    omega
  obtain ⟨t, hsend, hcaller, hwritten⟩ := waveIpcSendMemory_eq p
  obtain ⟨init, last, hfragments, hinit, hlast, hcmd, hdata⟩ := fragments_spec p.data hne
  rw [hfragments] at hcmd hdata
  have hframes : waveIpcSend p = internalFrame _ hlength :: (init ++ [last]) := by
    rw [← hfragments, waveIpcSend, if_pos hgt]
    refine congrArg _ (waveIpcSendLoop_congr ?_ _ _)
    rw [toInt_toInt32, if_pos hlt, p.data_length]
  have hsize : last.datasize.toNat = (p.datasize.toNat - 1) % maxSingleFrameData + 1 := by
    rw [← last.data_length, hlast, p.data_length]
  have hmax : 0 < maxSingleFrameData := by decide
  have hmod := Nat.mod_lt (p.datasize.toNat - 1) hmax
  refine ⟨t, _, init, last, hsend, hcaller, hwritten.trans hframes, ⟨rfl, ?_, rfl⟩, ?_, hcmd, ?_, ?_,
    hdata⟩
  · rw [← UInt32.toNat_inj, internalFrame_datasize, MultiFrameHeader.toBytes_length]
    rfl
  · have hfull : (init.map fun f => f.data.length).sum = init.length * maxSingleFrameData := by
      rw [List.sum_eq_card_nsmul _ maxSingleFrameData, List.length_map, nsmul_eq_mul, Nat.cast_id]
      intro n hn
      obtain ⟨f, hf, rfl⟩ := List.mem_map.mp hn
      exact hinit f hf
    have htotal := congrArg List.length hdata
    rw [List.length_flatMap, List.map_append, List.sum_append, hfull, List.map_singleton,
      List.sum_singleton, hlast, p.data_length] at htotal
    rw [List.length_append, List.length_singleton]
    unfold maxSingleFrameData at *
    omega
  · intro f hf
    rw [← f.data_length]
    exact hinit f hf
  · omega

/-- The data fill two frames. -/
theorem waveIpcSend_frames_twoFull :
    ∃ t header init last, waveIpcSendMemory ⟨frameMagic, fifoPktTapi, 8168, List.replicate 8168 0,
        List.length_replicate⟩ = some t ∧
      t.written = header :: (init ++ [last]) ∧ header.datasize = 0xC ∧
      (init ++ [last]).length = 2 ∧ (init ++ [last]).flatMap (·.data) = List.replicate 8168 0 := by
  obtain ⟨t, header, init, last, hsend, -, hwritten, ⟨-, hsize, -⟩, hcount, -, -, -, hdata⟩ :=
    waveIpcSend_frames (p := ⟨frameMagic, fifoPktTapi, 8168, List.replicate 8168 0,
      List.length_replicate⟩) (by decide) (by decide)
  exact ⟨t, header, init, last, hsend, hwritten, hsize, hcount, hdata⟩

end

end Mocha.Ipc
