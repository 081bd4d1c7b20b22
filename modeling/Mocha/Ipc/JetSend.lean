import Mocha.Ipc.Jet
import Mocha.Lib.Block

/-! Packets to the modem of the Jet (`jet_ipc.c`), and the bytes that are written for them read back by
rounds of `ipc_read_loop`. The header of a packet that is cut is freed before it is sent. -/
namespace Mocha.Ipc
open Mocha.Lib

/-- `struct modem_io` as `jet_ipc_send` has it, with a pointer into a block. -/
structure JetPacket where
  magic : UInt32
  cmd : UInt32
  datasize : UInt32
  data : Block
  offset : ℕ
deriving DecidableEq

namespace JetPacket

/-- The bytes that the data pointer refers to are there. -/
def Readable (p : JetPacket) : Prop :=
  p.data.live ∧ p.offset + p.datasize.toNat ≤ p.data.bytes.length

/-- `struct fifoPacketHeader`, as `send_packet` fills it in. -/
def header (p : JetPacket) : List UInt8 :=
  leBytes 4 p.magic.toNat ++ leBytes 4 p.cmd.toNat ++ leBytes 4 p.datasize.toNat

def payload (p : JetPacket) : List UInt8 := (p.data.bytes.drop p.offset).take p.datasize.toNat

end JetPacket

/-- `send_packet`: the bytes that are handed to `write`. -/
def jetSendPacket (fresh : ℕ → UInt8) (ipcFrame : JetPacket) : Option (List UInt8) := do
  let frameLength : UInt32 := 12 + ipcFrame.datasize
  let frame ← (Block.malloc fresh frameLength.toNat).memcpy 0 ipcFrame.header
  let bytes ← ipcFrame.data.read ipcFrame.offset ipcFrame.datasize.toNat
  let frame ← frame.memcpy 12 bytes
  frame.read 0 frameLength.toNat

/-- The loop of `jet_ipc_send`. -/
def jetIpcSendLoop (fresh : ℕ → UInt8) (multiPacket : JetPacket) (leftData : ℤ) :
    Option (List (List UInt8)) :=
  if 0 < leftData then do
    let datasize : UInt32 :=
      if (maxSingleFrameData : ℤ) < leftData then UInt32.ofNat maxSingleFrameData
      else UInt32.ofNat leftData.toNat
    let multiPacket := { multiPacket with datasize := datasize }
    let frame ← jetSendPacket fresh multiPacket
    let frames ← jetIpcSendLoop fresh
      { multiPacket with offset := multiPacket.offset + maxSingleFrameData }
      (leftData - maxSingleFrameData)
    return frame :: frames
  else some []
termination_by leftData.toNat
decreasing_by
  unfold maxSingleFrameData
  omega

/-- `jet_ipc_send`: the bytes of each call of `write`. -/
def jetIpcSend (fresh : ℕ → UInt8) (ipcFrame : JetPacket) : Option (List (List UInt8)) :=
  if maxSingleFrameData < ipcFrame.datasize.toNat then do
    let multiHeader ← (Block.malloc fresh 12).memcpy 0
      (MultiFrameHeader.toBytes ⟨0x02, ipcFrame.datasize, ipcFrame.cmd⟩)
    let multiHeader ← multiHeader.free
    let multiPacket : JetPacket := ⟨frameMagic, fifoPktFifoInternal, 0x0C, multiHeader, 0⟩
    let frame ← jetSendPacket fresh multiPacket
    let frames ← jetIpcSendLoop fresh
      { multiPacket with data := ipcFrame.data, offset := ipcFrame.offset }
      ipcFrame.datasize.toInt32.toInt
    return frame :: frames
  else (jetSendPacket fresh ipcFrame).map ([·])

/-- The most that one `read` returns. -/
def ssizeMax : ℕ := 2 ^ 31 - 1

/-- A `read` of a device that has these bytes and returns as many as it is asked for. -/
def deviceRead (bytes : List UInt8) (n : ℕ) : DeviceRead :=
  some ⟨bytes.take (min n ssizeMax), by
    rw [List.length_take]
    unfold ssizeMax
    omega⟩

theorem deviceRead_bytes (bytes : List UInt8) (n : ℕ) :
    (deviceRead bytes n).map Subtype.val = some (bytes.take (min n ssizeMax)) := rfl

/-- The reads of a call of `jet_ipc_recv`. -/
def deviceRound (bytes : List UInt8) : JetReads :=
  ⟨deviceRead bytes 12, deviceRead (bytes.drop 12) (wordAt 4 8 (bytes.take 12))⟩

/-- The reads of some calls, each of what the ones before have left. -/
def deviceRounds : ℕ → List UInt8 → List JetReads
  | 0, _ => []
  | n + 1, bytes =>
    deviceRound bytes ::
      deviceRounds n (bytes.drop (12 + min (wordAt 4 8 (bytes.take 12)) ssizeMax))

/-- What a frame says, without where its data are. -/
def JetFrame.content (f : JetFrame) :
    Option UInt32 × Option UInt32 × Option UInt32 × Option (List UInt8) :=
  (f.magic, f.cmd, f.datasize, f.data.bind HeapBlock.bytes)

def JetPacket.content (p : JetPacket) :
    Option UInt32 × Option UInt32 × Option UInt32 × Option (List UInt8) :=
  (some p.magic, some p.cmd, some p.datasize, some p.payload)

section

variable {fresh : ℕ → UInt8} {p : JetPacket}

theorem JetPacket.header_length (p : JetPacket) : p.header.length = 12 := by simp [header]

theorem JetPacket.Readable.payload_length (h : p.Readable) : p.payload.length = p.datasize.toNat := by
  rw [payload, List.length_take, List.length_drop]
  have hlength := h.2
  omega

/-- A single frame is its header and its data. -/
theorem jetSendPacket_eq (fresh : ℕ → UInt8) (h : p.Readable)
    (hsize : p.datasize.toNat ≤ maxSingleFrameData) :
    jetSendPacket fresh p = some (p.header ++ p.payload) := by
  have hheader := p.header_length
  have hpayload := h.payload_length
  unfold maxSingleFrameData at hsize
  have hlength : (12 + p.datasize).toNat = 12 + p.datasize.toNat := by
    rw [UInt32.toNat_add]
    change (12 + p.datasize.toNat) % 2 ^ 32 = _
    omega
  have hframe : (p.header ++ p.payload).length = (12 + p.datasize).toNat := by
    rw [List.length_append, hheader, hpayload, hlength]
  have hread : p.data.read p.offset p.datasize.toNat = some p.payload := Block.read_eq h.1 h.2
  have hwhole : (Block.malloc fresh (12 + p.datasize).toNat).memcpy 0 (p.header ++ p.payload) =
      some ⟨p.header ++ p.payload, true⟩ :=
    Block.memcpy_whole rfl (hframe.trans (Block.malloc_length ..).symm)
  have hfilled := (Block.memcpy_append _ 0 p.header p.payload).trans hwhole
  rw [hheader] at hfilled
  have hwritten : Block.read ⟨p.header ++ p.payload, true⟩ 0 (12 + p.datasize).toNat =
      some (p.header ++ p.payload) := by
    rw [Block.read_eq rfl (Nat.le_of_eq (by rw [Nat.zero_add, hframe])), List.drop_zero, ← hframe,
      List.take_length]
  unfold jetSendPacket
  simp only [Option.bind_eq_bind, hread, Option.bind_some, ← Option.bind_assoc]
  rw [hfilled, Option.bind_some, hwritten]

/-- A freed block is not sent. -/
theorem jetSendPacket_freed (h : p.data.live = false) : jetSendPacket fresh p = none := by
  have hread : p.data.read p.offset p.datasize.toNat = none := by
    unfold Block.read
    rw [h]
    exact if_neg fun hlive => nomatch hlive.1
  unfold jetSendPacket
  simp [hread]

/-- A packet that needs more than one frame is not sent. -/
theorem jetIpcSend_long (hsize : maxSingleFrameData < p.datasize.toNat) : jetIpcSend fresh p = none := by
  unfold jetIpcSend
  rw [if_pos hsize]
  refine Option.bind_eq_none_iff.mpr fun multiHeader hcopied => ?_
  refine Option.bind_eq_none_iff.mpr fun freed hfree => ?_
  refine Option.bind_eq_none_iff.mpr fun frame hframe => ?_
  have hlive : freed.live = false := by
    unfold Block.free at hfree
    split_ifs at hfree
    obtain rfl := Option.some.inj hfree
    rfl
  rw [jetSendPacket_freed hlive] at hframe
  cases hframe

theorem jetIpcSend_short (fresh : ℕ → UInt8) (h : p.Readable)
    (hsize : p.datasize.toNat ≤ maxSingleFrameData) :
    jetIpcSend fresh p = some [p.header ++ p.payload] := by
  unfold jetIpcSend
  rw [if_neg (not_lt.mpr hsize), jetSendPacket_eq fresh h hsize]
  rfl

theorem JetPacket.header_words (p : JetPacket) : wordAt 4 0 p.header = p.magic.toNat ∧
    wordAt 4 4 p.header = p.cmd.toNat ∧ wordAt 4 8 p.header = p.datasize.toNat := by
  have hmagic := wordAt_field 0 [] (leBytes 4 p.cmd.toNat ++ leBytes 4 p.datasize.toNat) rfl
    (show p.magic.toNat < 256 ^ 4 from p.magic.toNat_lt)
  have hcmd := wordAt_field 4 (leBytes 4 p.magic.toNat) (leBytes 4 p.datasize.toNat) (by simp)
    (show p.cmd.toNat < 256 ^ 4 from p.cmd.toNat_lt)
  have hdatasize := wordAt_field 8 (leBytes 4 p.magic.toNat ++ leBytes 4 p.cmd.toNat) [] (by simp)
    (show p.datasize.toNat < 256 ^ 4 from p.datasize.toNat_lt)
  rw [List.nil_append, ← List.append_assoc] at hmagic
  rw [List.append_nil] at hdatasize
  exact ⟨hmagic, hcmd, hdatasize⟩

variable {rest : List UInt8}

/-- The reads of a round for a packet at the start of the bytes. -/
theorem deviceRounds_cons (h : p.Readable) (hsize : p.datasize.toNat ≤ maxSingleFrameData) (n : ℕ)
    (rest : List UInt8) : ∃ r, deviceRounds (n + 1) (p.header ++ p.payload ++ rest) =
      r :: deviceRounds n rest ∧ r.header.map Subtype.val = some p.header ∧
        r.payload.map Subtype.val = some p.payload := by
  have hheader := p.header_length
  have hpayload := h.payload_length
  have htake : (p.header ++ p.payload ++ rest).take 12 = p.header := by
    rw [List.append_assoc, List.take_left' hheader]
  have hdrop : (p.header ++ p.payload ++ rest).drop 12 = p.payload ++ rest := by
    rw [List.append_assoc, List.drop_left' hheader]
  have hleft : min (wordAt 4 8 p.header) ssizeMax = p.datasize.toNat := by
    rw [p.header_words.2.2]
    unfold maxSingleFrameData at hsize
    unfold ssizeMax
    omega
  have hrest : (p.header ++ p.payload ++ rest).drop (12 + p.datasize.toNat) = rest := by
    refine List.drop_left' ?_
    rw [List.length_append, hheader, hpayload]
  refine ⟨deviceRound (p.header ++ p.payload ++ rest), ?_, ?_, ?_⟩
  · rw [deviceRounds, htake, hleft, hrest]
  · exact congrArg some htake
  · unfold deviceRound
    rw [deviceRead_bytes, htake, hdrop, hleft, List.take_left' hpayload]

/-- A packet is received from its reads. -/
theorem jetIpcRecv_content (s : JetReader) {r : JetReads} (h : p.Readable) (hmagic : p.magic = frameMagic)
    (hheader : r.header.map Subtype.val = some p.header)
    (hpayload : r.payload.map Subtype.val = some p.payload) :
    (jetIpcRecv s r).resp.content = p.content := by
  obtain ⟨hmagicWord, hcmd, hdatasize⟩ := p.header_words
  have hnum : ∀ {d : DeviceRead} {l : List UInt8}, d.map Subtype.val = some l →
      d.numRead = UInt32.ofNat l.length := by
    intro d l hd
    obtain ⟨a, rfl, rfl⟩ := Option.map_eq_some_iff.mp hd
    rfl
  unfold jetIpcRecv
  dsimp only
  rw [hnum hheader, hnum hpayload, hheader, hpayload, Option.getD_some, hmagicWord, hcmd, hdatasize,
    p.header_length, h.payload_length, UInt32.ofNat_toNat, UInt32.ofNat_toNat, UInt32.ofNat_toNat,
    if_pos ⟨rfl, hmagic⟩, if_pos rfl]
  rfl

/-- The frames of short packets are received one by one. -/
theorem deviceRounds_received {packets : List JetPacket} (hread : ∀ p ∈ packets, p.Readable)
    (hmagic : ∀ p ∈ packets, p.magic = frameMagic)
    (hsize : ∀ p ∈ packets, p.datasize.toNat ≤ maxSingleFrameData) (s : JetReader) :
    (outputs (exec ipcReadRound s (deviceRounds packets.length
      (packets.flatMap fun p => p.header ++ p.payload))).1).map JetFrame.content =
        packets.map JetPacket.content := by
  induction packets generalizing s with
  | nil => rfl
  | cons p packets ih =>
    obtain ⟨hreadp, hreads⟩ := List.forall_mem_cons.mp hread
    obtain ⟨hmagicp, hmagics⟩ := List.forall_mem_cons.mp hmagic
    obtain ⟨hsizep, hsizes⟩ := List.forall_mem_cons.mp hsize
    obtain ⟨r, hrounds, hheader, hpayload⟩ := deviceRounds_cons hreadp hsizep packets.length
      (packets.flatMap fun p => p.header ++ p.payload)
    have hcontent := jetIpcRecv_content s hreadp hmagicp hheader hpayload
    rw [List.flatMap_cons, List.length_cons, hrounds, List.map_cons, ← hcontent,
      ← ih hreads hmagics hsizes (jetIpcRecv s r)]
    rfl

/-- The packets that are sent, all of them, are the short ones. -/
theorem mapM_jetIpcSend (fresh : ℕ → UInt8) {packets : List JetPacket}
    (hread : ∀ p ∈ packets, p.Readable) {writes : List (List (List UInt8))} :
    packets.mapM (jetIpcSend fresh) = some writes ↔
      (∀ p ∈ packets, p.datasize.toNat ≤ maxSingleFrameData) ∧
        writes = packets.map fun p => [p.header ++ p.payload] := by
  induction packets generalizing writes with
  | nil =>
    rw [List.mapM_nil]
    refine ⟨fun h => ⟨fun p hp => absurd hp List.not_mem_nil, (Option.some.inj h).symm⟩, ?_⟩
    rintro ⟨-, rfl⟩
    rfl
  | cons p packets ih =>
    obtain ⟨hreadp, hreads⟩ := List.forall_mem_cons.mp hread
    rw [List.mapM_cons, List.forall_mem_cons, List.map_cons]
    by_cases hsize : p.datasize.toNat ≤ maxSingleFrameData
    · rw [jetIpcSend_short fresh hreadp hsize, and_iff_right hsize, Option.bind_eq_bind,
        Option.bind_some, Option.bind_eq_bind, Option.bind_eq_some_iff]
      constructor
      · rintro ⟨rest, hrest, hwrites⟩
        obtain ⟨hsizes, rfl⟩ := (ih hreads).mp hrest
        exact ⟨hsizes, (Option.some.inj hwrites).symm⟩
      · rintro ⟨hsizes, rfl⟩
        exact ⟨_, (ih hreads).mpr ⟨hsizes, rfl⟩, rfl⟩
    · rw [jetIpcSend_long (not_le.mp hsize)]
      exact iff_of_false (fun h => nomatch h) fun h => hsize h.1.1

/-- **The packets of the Jet.** They are sent without touching memory that was freed just when each of
them fits one frame, and then the bytes that are written give the same packets to `ipc_read_loop`. -/
theorem jet_sent_received (fresh : ℕ → UInt8) {packets : List JetPacket}
    (hread : ∀ p ∈ packets, p.Readable) (hmagic : ∀ p ∈ packets, p.magic = frameMagic) :
    ((packets.mapM (jetIpcSend fresh)).isSome ↔
        ∀ p ∈ packets, p.datasize.toNat ≤ maxSingleFrameData) ∧
      ∀ writes, packets.mapM (jetIpcSend fresh) = some writes → ∀ s,
        (outputs (exec ipcReadRound s
          (deviceRounds packets.length (writes.flatMap List.flatten))).1).map JetFrame.content =
            packets.map JetPacket.content := by
  constructor
  · rw [Option.isSome_iff_exists]
    constructor
    · rintro ⟨writes, hwrites⟩
      exact ((mapM_jetIpcSend fresh hread).mp hwrites).1
    · intro hsize
      exact ⟨_, (mapM_jetIpcSend fresh hread).mpr ⟨hsize, rfl⟩⟩
  · intro writes hwrites s
    obtain ⟨hsize, rfl⟩ := (mapM_jetIpcSend fresh hread).mp hwrites
    have hbytes : (packets.map fun p => [p.header ++ p.payload]).flatMap List.flatten =
        packets.flatMap fun p => p.header ++ p.payload := by
      rw [List.flatMap_map]
      exact List.flatMap_congr fun p _ => List.append_nil _
    rw [hbytes]
    exact deviceRounds_received hread hmagic hsize s

end

/-- Two packets of a byte each. -/
theorem jet_sent_received_two :
    let packets : List JetPacket := [⟨frameMagic, fifoPktTapi, 1, ⟨[7], true⟩, 0⟩,
      ⟨frameMagic, fifoPktSound, 1, ⟨[8, 9], true⟩, 1⟩]
    ((packets.mapM (jetIpcSend fun _ => 0)).isSome ↔
        ∀ p ∈ packets, p.datasize.toNat ≤ maxSingleFrameData) ∧
      ∀ writes, packets.mapM (jetIpcSend fun _ => 0) = some writes → ∀ s,
        (outputs (exec ipcReadRound s
          (deviceRounds packets.length (writes.flatMap List.flatten))).1).map JetFrame.content =
            packets.map JetPacket.content := by
  intro packets
  refine jet_sent_received (fun _ => 0) (fun p hp => ?_) (fun p hp => ?_)
  · obtain rfl | rfl := List.mem_pair.mp hp <;> exact ⟨rfl, by decide⟩
  · obtain rfl | rfl := List.mem_pair.mp hp <;> rfl

end Mocha.Ipc
