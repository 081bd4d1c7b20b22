import Mocha.Ril.Data
import Mocha.Ril.Srs

/-! What the server does with a message of the SRS socket (`srs_dispatch` and the handlers of
`srs.c`, `snd.c`, `gps.c`). Only the ping looks whether its data are there. -/
namespace Mocha.Ril
open Mocha.Lib

def srsControlPing : UInt16 := 0x0101
def srsSndSetVolumeCmd : UInt16 := 0x0201
def srsSndSetAudioPathCmd : UInt16 := 0x0202
def srsSnd1micNsCtrlCmd : UInt16 := 0x0203
def srsSndPcmIfCtrlCmd : UInt16 := 0x0204
def srsGpsInitCmd : UInt16 := 0x0301
def srsGpsNavigationModeCmd : UInt16 := 0x0302
def srsGpsDeleteData : UInt16 := 0x0307
def srsGpsHello : UInt16 := 0x03FF

def srsControlCaffe : ℕ := 0xCAFFE

def lbsPktInit : UInt32 := 0x0
def lbsPktGetPosition : UInt32 := 0x1
def lbsPktCancelPosition : UInt32 := 0x2
def lbsPktDeleteGpsData : UInt32 := 0x5

/-- What the handlers do besides changing `ril_data`. -/
inductive SrsEffect
  | setGpsClient
  | srsSend (command : UInt16) (data : List UInt8)
  | soundSendSetVolume (outDevice : UInt16) (inMuted outMuted : UInt8) (soundType oemVolume : UInt16)
  | soundSendSetPath (inDevice outDevice : UInt16) (inMuted outMuted : UInt8)
      (soundType oemVolume : UInt16)
  | soundSendSetMute (inDevice outDevice : UInt16) (inMuted outMuted : UInt8) (soundType : UInt16)
  | soundSend1micNsCtrl (enabled : UInt8)
  | soundSendPcmIfCtrl (enabled : UInt8)
  | lbsSendPacket (type : UInt32) (words : List UInt32)
deriving DecidableEq

/-- The word at an offset of `message->data`; `none` where the pointer is null or the word is not
inside the data. -/
def SrsMessage.dataWord (m : SrsMessage) (w off : ℕ) : Option ℕ :=
  m.data.bind fun data => if off + w ≤ data.length then some (wordAt w off data) else none

def srsControlPingHandler (m : SrsMessage) : Option (List SrsEffect) :=
  if m.data = none ∨ m.length < 4 then some []
  else do
    let caffe ← m.dataWord 4 0
    pure (if caffe = srsControlCaffe then [.srsSend srsControlPing (leBytes 4 caffe)] else [])

def srsSndSetVolume (m : SrsMessage) : Option (List SrsEffect) := do
  let outDevice ← m.dataWord 2 0
  let soundType ← m.dataWord 2 2
  let volume ← m.dataWord 4 4
  pure [.soundSendSetVolume (.ofNat outDevice) 0 0 (.ofNat soundType) (.ofNat volume)]

/-- `srs_snd_set_audio_path`; the two bytes before the sound type are not read. -/
def srsSndSetAudioPath (s : RilData) (m : SrsMessage) : Option (RilData × List SrsEffect) := do
  let soundType ← m.dataWord 2 6
  let inDevice ← m.dataWord 2 0
  let outDevice ← m.dataWord 2 2
  pure ({ s with inDevice := .ofNat inDevice, outDevice := .ofNat outDevice },
    [.soundSendSetPath (.ofNat inDevice) (.ofNat outDevice) 0 0 (.ofNat soundType) 6,
      .soundSendSetMute (.ofNat inDevice) (.ofNat outDevice) 0 0 (.ofNat soundType)])

def srsSnd1micNsCtrl (m : SrsMessage) : Option (List SrsEffect) := do
  let enabled ← m.dataWord 1 0
  pure [.soundSend1micNsCtrl (.ofNat enabled)]

def srsSndPcmIfCtrl (m : SrsMessage) : Option (List SrsEffect) := do
  let enabled ← m.dataWord 1 0
  pure [.soundSendPcmIfCtrl (.ofNat enabled)]

def srsGpsInit (m : SrsMessage) : Option (List SrsEffect) := do
  let enabled ← m.dataWord 1 0
  pure [.lbsSendPacket lbsPktInit [if enabled = 1 then 1 else 0]]

/-- The `lbsGetPosition` that is asked for. -/
def lbsPositionRequest : List UInt32 := [0x1, 0x1, 0x4, 0x2, 0xff, 0x03E8, 0x01F4, 0x3, 0x1]

def srsGpsNavigationMode (m : SrsMessage) : Option (List SrsEffect) := do
  let enabled ← m.dataWord 1 0
  pure [if enabled = 1 then .lbsSendPacket lbsPktGetPosition lbsPositionRequest
    else .lbsSendPacket lbsPktCancelPosition []]

/-- `srs_dispatch`; `none` where a handler reads outside the data of the message. -/
def srsDispatch (s : RilData) (m : SrsMessage) : Option (RilData × List SrsEffect) :=
  if m.command = srsControlPing then (srsControlPingHandler m).map (s, ·)
  else if m.command = srsGpsHello then some (s, [.setGpsClient])
  else if m.command = srsSndSetVolumeCmd then (srsSndSetVolume m).map (s, ·)
  else if m.command = srsSndSetAudioPathCmd then srsSndSetAudioPath s m
  else if m.command = srsSnd1micNsCtrlCmd then (srsSnd1micNsCtrl m).map (s, ·)
  else if m.command = srsSndPcmIfCtrlCmd then (srsSndPcmIfCtrl m).map (s, ·)
  else if m.command = srsGpsInitCmd then (srsGpsInit m).map (s, ·)
  else if m.command = srsGpsNavigationModeCmd then (srsGpsNavigationMode m).map (s, ·)
  else if m.command = srsGpsDeleteData then some (s, [.lbsSendPacket lbsPktDeleteGpsData []])
  else some (s, [])

/-- The bytes of its data that the handler of a command reads without looking whether they are
there. -/
def srsPayloadSize (command : UInt16) : ℕ :=
  if command = srsSndSetVolumeCmd ∨ command = srsSndSetAudioPathCmd then 8
  else if command = srsSnd1micNsCtrlCmd ∨ command = srsSndPcmIfCtrlCmd ∨ command = srsGpsInitCmd ∨
      command = srsGpsNavigationModeCmd then 1
  else 0

/-- The positions of the received buffer that `srs_client_recv` copies. -/
def srsClientRecvReads (chunk : List UInt8) : List ℕ :=
  let length := ((SrsHeader.ofBytes chunk).length - srsHeaderSize.toUInt32).toInt32
  (List.range length.toNatClampNeg).map (srsHeaderSize + ·)

/-- Handling a received chunk reads only what was received. -/
structure ReadsReceived (heap : ℕ → UInt8) (s : RilData) (chunk : List UInt8) : Prop where
  copied : ∀ i ∈ srsClientRecvReads chunk, i < chunk.length
  handled : ∀ m, srsClientRecv heap chunk = some m → (srsDispatch s m).isSome

/-- The payload that the header announces has arrived, and is as long as its handler takes it to
be. -/
def PayloadArrived (chunk : List UInt8) : Prop :=
  let header := SrsHeader.ofBytes chunk
  let length := (header.length - srsHeaderSize.toUInt32).toInt32.toNatClampNeg
  srsHeaderSize + length ≤ chunk.length ∧ srsPayloadSize (srsCommand header) ≤ length

instance (chunk : List UInt8) : Decidable (PayloadArrived chunk) := by
  unfold PayloadArrived
  infer_instance

section

variable {heap : ℕ → UInt8} {s : RilData} {m : SrsMessage} {chunk : List UInt8}

theorem dataWord_isSome (m : SrsMessage) {w : ℕ} (hw : 0 < w) (off : ℕ) :
    (m.dataWord w off).isSome ↔ off + w ≤ (m.data.getD []).length := by
  unfold SrsMessage.dataWord
  cases m.data with
  | none => simp [Nat.ne_of_gt hw]
  | some data => simp

/-- The ping reads inside its data whatever they are. -/
theorem srsControlPingHandler_isSome (hlength : m.length.toNatClampNeg ≤ (m.data.getD []).length) :
    (srsControlPingHandler m).isSome := by
  unfold srsControlPingHandler
  split_ifs with h
  · rfl
  · have hfour : 4 ≤ m.length.toNatClampNeg := by
      have hle : ¬m.length.toInt < 4 := fun hlt => h (.inr (Int32.lt_iff_toInt_lt.mpr hlt))
      rw [Int32.toNatClampNeg]
      omega
    have hword : (m.dataWord 4 0).isSome := (dataWord_isSome m (by decide) 0).mpr (by omega)
    obtain ⟨caffe, hcaffe⟩ := Option.isSome_iff_exists.mp hword
    rw [hcaffe]
    rfl

/-- A handler that goes on after reading a word of its data. -/
theorem dataWord_bind_isSome {α : Type} {w : ℕ} (hw : 0 < w) (off : ℕ) {f : ℕ → Option α}
    {q : Prop} (hf : ∀ word, (f word).isSome ↔ q) :
    (m.dataWord w off >>= f).isSome ↔ off + w ≤ (m.data.getD []).length ∧ q := by
  rw [← dataWord_isSome m hw off]
  cases m.dataWord w off with
  | none => exact iff_of_false Bool.false_ne_true fun h => Bool.false_ne_true h.1
  | some word => exact (hf word).trans (and_iff_right rfl).symm

theorem srsSndSetVolume_isSome : (srsSndSetVolume m).isSome ↔ 8 ≤ (m.data.getD []).length := by
  unfold srsSndSetVolume
  rw [dataWord_bind_isSome (by decide) 0 fun _ => dataWord_bind_isSome (by decide) 2 fun _ =>
    dataWord_bind_isSome (by decide) 4 fun _ => iff_of_true rfl trivial, and_true]
  omega

theorem srsSndSetAudioPath_isSome :
    (srsSndSetAudioPath s m).isSome ↔ 8 ≤ (m.data.getD []).length := by
  unfold srsSndSetAudioPath
  rw [dataWord_bind_isSome (by decide) 6 fun _ => dataWord_bind_isSome (by decide) 0 fun _ =>
    dataWord_bind_isSome (by decide) 2 fun _ => iff_of_true rfl trivial, and_true]
  omega

/-- The four handlers that read a switch. -/
theorem dataByte_isSome {f : ℕ → SrsEffect} :
    ((do let enabled ← m.dataWord 1 0; pure [f enabled] : Option (List SrsEffect))).isSome ↔
      1 ≤ (m.data.getD []).length := by
  rw [dataWord_bind_isSome (by decide) 0 fun _ => iff_of_true rfl trivial, and_true]

/-- **A message is handled** inside its data exactly if these are as long as its handler takes them
to be. -/
theorem srsDispatch_isSome (hlength : m.length.toNatClampNeg ≤ (m.data.getD []).length) :
    (srsDispatch s m).isSome ↔ srsPayloadSize m.command ≤ (m.data.getD []).length := by
  unfold srsDispatch srsPayloadSize
  by_cases hping : m.command = srsControlPing
  · rw [if_pos hping, hping, Option.isSome_map]
    exact iff_of_true (srsControlPingHandler_isSome hlength) (Nat.zero_le _)
  rw [if_neg hping]
  by_cases hhello : m.command = srsGpsHello
  · rw [if_pos hhello, hhello]
    exact iff_of_true rfl (Nat.zero_le _)
  rw [if_neg hhello]
  by_cases hvolume : m.command = srsSndSetVolumeCmd
  · rw [if_pos hvolume, if_pos (.inl hvolume), Option.isSome_map, srsSndSetVolume_isSome]
  rw [if_neg hvolume]
  by_cases hpath : m.command = srsSndSetAudioPathCmd
  · rw [if_pos hpath, if_pos (.inr hpath), srsSndSetAudioPath_isSome]
  rw [if_neg hpath, if_neg (not_or.mpr ⟨hvolume, hpath⟩)]
  by_cases hmic : m.command = srsSnd1micNsCtrlCmd
  · rw [if_pos hmic, if_pos (.inl hmic), Option.isSome_map]
    exact dataByte_isSome
  rw [if_neg hmic]
  by_cases hpcm : m.command = srsSndPcmIfCtrlCmd
  · rw [if_pos hpcm, if_pos (.inr (.inl hpcm)), Option.isSome_map]
    exact dataByte_isSome
  rw [if_neg hpcm]
  by_cases hgps : m.command = srsGpsInitCmd
  · rw [if_pos hgps, if_pos (.inr (.inr (.inl hgps))), Option.isSome_map]
    exact dataByte_isSome
  rw [if_neg hgps]
  by_cases hmode : m.command = srsGpsNavigationModeCmd
  · rw [if_pos hmode, if_pos (.inr (.inr (.inr hmode))), Option.isSome_map]
    exact dataByte_isSome
  have hnone : ¬(m.command = srsSnd1micNsCtrlCmd ∨ m.command = srsSndPcmIfCtrlCmd ∨
      m.command = srsGpsInitCmd ∨ m.command = srsGpsNavigationModeCmd) := by tauto
  rw [if_neg hmode, if_neg hnone]
  split_ifs <;> exact iff_of_true rfl (Nat.zero_le _)

/-- What the server takes for the data of a message are the buffer's bytes at the positions that it
copies. -/
theorem srsClientRecv_getD {m : SrsMessage} (h : srsClientRecv heap chunk = some m) :
    m.command = srsCommand (.ofBytes chunk) ∧
      m.data.getD [] = (srsClientRecvReads chunk).map (recvBuffer heap chunk) ∧
      m.length.toNatClampNeg = (srsClientRecvReads chunk).length := by
  unfold srsClientRecv at h
  split_ifs at h with hshort
  obtain rfl := Option.some.inj h
  refine ⟨rfl, ?_, ?_⟩
  · unfold srsClientRecvReads
    dsimp only
    split_ifs with hpos
    · rw [Option.getD_some, List.map_map]
      rfl
    · have hzero : ((SrsHeader.ofBytes chunk).length -
          srsHeaderSize.toUInt32).toInt32.toNatClampNeg = 0 := by
        rw [Int32.lt_iff_toInt_lt] at hpos
        rw [Int32.toNatClampNeg]
        exact Int.toNat_eq_zero.mpr (not_lt.mp hpos)
      rw [hzero]
      rfl
  · simp [srsClientRecvReads]

/-- **Only received bytes are read** exactly if the payload that the header announces has arrived
and is as long as the handler of the command takes it to be. -/
theorem readsReceived_iff (hchunk : srsHeaderSize ≤ chunk.length) :
    ReadsReceived heap s chunk ↔ PayloadArrived chunk := by
  have hcopied : (∀ i ∈ srsClientRecvReads chunk, i < chunk.length) ↔
      srsHeaderSize + (srsClientRecvReads chunk).length ≤ chunk.length := by
    unfold srsClientRecvReads
    simp only [List.mem_map, List.mem_range, forall_exists_index, and_imp,
      forall_apply_eq_imp_iff₂, List.length_map, List.length_range]
    constructor
    · intro h
      rcases Nat.eq_zero_or_pos ((SrsHeader.ofBytes chunk).length -
        srsHeaderSize.toUInt32).toInt32.toNatClampNeg with hzero | hpos
      · rw [hzero]
        exact hchunk
      · have hlast := h _ (Nat.sub_lt hpos Nat.one_pos)
        omega
    · intro h i hi
      omega
  obtain ⟨m, hm⟩ : ∃ m, srsClientRecv heap chunk = some m := by
    unfold srsClientRecv
    rw [if_neg (not_lt.mpr hchunk)]
    exact ⟨_, rfl⟩
  obtain ⟨hcommand, hdata, hlength⟩ := srsClientRecv_getD hm
  have hsize : (m.data.getD []).length = (srsClientRecvReads chunk).length := by
    rw [hdata, List.length_map]
  have hhandled := srsDispatch_isSome (s := s) (hlength.trans hsize.symm).le
  rw [hsize, hcommand] at hhandled
  have hreads : (srsClientRecvReads chunk).length = ((SrsHeader.ofBytes chunk).length -
      srsHeaderSize.toUInt32).toInt32.toNatClampNeg := by
    simp [srsClientRecvReads]
  rw [PayloadArrived, ← hreads, ← hcopied, ← hhandled]
  constructor
  · intro h
    exact ⟨h.copied, h.handled m hm⟩
  · intro h
    refine ⟨h.1, fun m' hm' => ?_⟩
    obtain rfl := Option.some.inj (hm.symm.trans hm')
    exact h.2

/-- A volume with all of its eight bytes. -/
theorem readsReceived_volume :
    ReadsReceived (fun _ => 0) .init [14, 0, 0, 0, 2, 1, 2, 0, 0x11, 0, 5, 0, 0, 0] :=
  (readsReceived_iff (by decide)).mpr (by decide)

/-- A volume without data: the null pointer is read through. -/
theorem not_readsReceived_empty :
    ¬∀ (heap : ℕ → UInt8) (s : RilData) (chunk : List UInt8), srsHeaderSize ≤ chunk.length →
      chunk.length ≤ srsDataMaxSize → ReadsReceived heap s chunk := by
  intro h
  have hempty := (h (fun _ => 0) .init [6, 0, 0, 0, 2, 1] (by decide) (by decide)).handled
    ⟨srsSndSetVolumeCmd, 0, none⟩ (by decide)
  exact absurd hempty (by decide)

end

end Mocha.Ril
