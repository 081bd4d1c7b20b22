import Mocha.Ipc.Frame
import Mocha.Lib.Run

/-! Frames from the modem of the Jet (`jet_ipc.c`) and the loop that dispatches them
(`mocha-ril/ipc.c`). `jet_ipc_recv` returns 0 also where it leaves the frame of its caller as it
was. The descriptor of the device is taken to be valid, and readable in each round of the loop. -/
namespace Mocha.Ipc
open Mocha.Lib

/-- `SIZ_PACKET_HEADER` -/
def sizPacketHeader : ℕ := 0x0C

/-- What a `read` of the device returns: an error, or some bytes. -/
abbrev DeviceRead := Option { l : List UInt8 // l.length < 2 ^ 31 }

/-- The result of the `read` as an unsigned number. -/
def DeviceRead.numRead : DeviceRead → UInt32
  | none => 0xFFFFFFFF
  | some l => UInt32.ofNat l.1.length

/-- The two reads of one call of `jet_ipc_recv`, of which the second may not take place. -/
structure JetReads where
  header : DeviceRead
  payload : DeviceRead
deriving DecidableEq

/-- A block from `malloc`, by its number, with its bytes if any were written. -/
structure HeapBlock where
  number : ℕ
  bytes : Option (List UInt8)
deriving DecidableEq

/-- `struct modem_io` as the caller of `jet_ipc_recv` has it; `none` for what was never set. -/
structure JetFrame where
  magic : Option UInt32
  cmd : Option UInt32
  datasize : Option UInt32
  data : Option HeapBlock
deriving DecidableEq

/-- The frame of `ipc_read_loop`, and how often `malloc` was called. -/
structure JetReader where
  resp : JetFrame
  mallocs : ℕ
deriving DecidableEq

def JetReader.init : JetReader := ⟨⟨none, none, none, none⟩, 0⟩

/-- `jet_ipc_recv`. The payload is read into a block of its own and then copied. -/
def jetIpcRecv (s : JetReader) (r : JetReads) : JetReader :=
  let header := (r.header.map Subtype.val).getD []
  if r.header.numRead = UInt32.ofNat sizPacketHeader ∧ UInt32.ofNat (wordAt 4 0 header) = frameMagic then
    let left := UInt32.ofNat (wordAt 4 8 header)
    if r.payload.numRead = left then
      { resp := {
          magic := some (UInt32.ofNat (wordAt 4 0 header))
          cmd := some (UInt32.ofNat (wordAt 4 4 header))
          datasize := some left
          data := some ⟨s.mallocs + 1, r.payload.map Subtype.val⟩ }
        mallocs := s.mallocs + 2 }
    else { s with mallocs := s.mallocs + 1 }
  else s

/-- One round of `ipc_read_loop`, with the frame that it hands to `ipc_dispatch`. The data are freed
afterwards, and the pointer to them stays in the frame. -/
def ipcReadRound (s : JetReader) (r : JetReads) : JetReader × List JetFrame :=
  let s := jetIpcRecv s r
  (s, [s.resp])

/-- The frame was read completely by these reads: a header with the right magic and all of the
payload, each field being set from it. -/
structure ReadBy (r : JetReads) (f : JetFrame) : Prop where
  frame : ∃ (magic cmd datasize : UInt32) (payload : List UInt8) (number : ℕ),
    r.header.map Subtype.val =
        some (leBytes 4 magic.toNat ++ leBytes 4 cmd.toNat ++ leBytes 4 datasize.toNat) ∧
      magic = frameMagic ∧ r.payload.map Subtype.val = some payload ∧
      payload.length = datasize.toNat ∧
      f = ⟨some magic, some cmd, some datasize, some ⟨number, some payload⟩⟩

/-- What the loop should keep to: each round dispatches one frame, which was read in this round, and
no two of them have the same data. -/
structure JetFresh (tr : List (JetReads × List JetFrame)) : Prop where
  read : ∀ a ∈ tr, ∃ f, a.2 = [f] ∧ ReadBy a.1 f
  distinct : (outputs tr).Pairwise fun f g => f.data.map HeapBlock.number ≠ g.data.map HeapBlock.number

/-- Both reads return as much as they were asked for, and the header has the right magic. -/
def JetReads.Complete (r : JetReads) : Prop :=
  ∃ header ∈ r.header, ∃ payload ∈ r.payload, header.1.length = sizPacketHeader ∧
    wordAt 4 0 header.1 = frameMagic.toNat ∧ payload.1.length = wordAt 4 8 header.1

section

variable {s : JetReader} {r : JetReads}

/-- Twelve bytes are three words. -/
theorem header_words {l : List UInt8} (hl : l.length = sizPacketHeader) :
    l = leBytes 4 (wordAt 4 0 l) ++ leBytes 4 (wordAt 4 4 l) ++ leBytes 4 (wordAt 4 8 l) := by
  match l, hl with
  | [b0, b1, b2, b3, b4, b5, b6, b7, b8, b9, b10, b11], _ =>
    have h0 := leBytes_leNat [b0, b1, b2, b3]
    have h4 := leBytes_leNat [b4, b5, b6, b7]
    have h8 := leBytes_leNat [b8, b9, b10, b11]
    exact (congrArg₂ (· ++ ·) (congrArg₂ (· ++ ·) h0 h4) h8).symm

theorem wordAt_lt (w off : ℕ) (l : List UInt8) : wordAt w off l < 256 ^ w := by
  refine (leNat_lt _).trans_le (Nat.pow_le_pow_right (by decide) ?_)
  rw [List.length_take]
  exact Nat.min_le_left ..

/-- A frame that was read completely is the one that is dispatched. -/
theorem jetIpcRecv_complete (h : r.Complete) :
    ReadBy r (jetIpcRecv s r).resp ∧
      (jetIpcRecv s r).resp.data.map HeapBlock.number = some (s.mallocs + 1) ∧
      (jetIpcRecv s r).mallocs = s.mallocs + 2 := by
  obtain ⟨header, hheader, payload, hpayload, hlength, hmagic, hsize⟩ := h
  have hword : ∀ off, (UInt32.ofNat (wordAt 4 off header.1)).toNat = wordAt 4 off header.1 :=
    fun off => UInt32.toNat_ofNat_of_lt' (wordAt_lt 4 off header.1)
  have hheaderRead : r.header.numRead = UInt32.ofNat sizPacketHeader := by
    rw [hheader, DeviceRead.numRead, hlength]
  have hpayloadRead : r.payload.numRead = UInt32.ofNat (wordAt 4 8 header.1) := by
    rw [hpayload, DeviceRead.numRead, hsize]
  have hgetD : (r.header.map Subtype.val).getD [] = header.1 := by
    rw [hheader]
    rfl
  have hmagicWord : UInt32.ofNat (wordAt 4 0 header.1) = frameMagic := by
    rw [hmagic, UInt32.ofNat_toNat]
  have hrecv : jetIpcRecv s r = ⟨⟨some frameMagic, some (UInt32.ofNat (wordAt 4 4 header.1)),
      some (UInt32.ofNat (wordAt 4 8 header.1)), some ⟨s.mallocs + 1, some payload.1⟩⟩,
      s.mallocs + 2⟩ := by
    unfold jetIpcRecv
    dsimp only
    rw [hgetD, if_pos ⟨hheaderRead, hmagicWord⟩, if_pos hpayloadRead, hmagicWord, hpayload]
    rfl
  rw [hrecv]
  refine ⟨⟨frameMagic, _, _, payload.1, _, ?_, rfl, ?_, ?_, rfl⟩, rfl, rfl⟩
  · rw [hheader, hword, hword, ← hmagic]
    exact congrArg some (header_words hlength)
  · rw [hpayload]
    rfl
  · rw [hword, hsize]

/-- What was read completely was so by complete reads. -/
theorem ReadBy.complete {f : JetFrame} (h : ReadBy r f) : r.Complete := by
  obtain ⟨magic, cmd, datasize, payload, number, hheader, rfl, hpayload, hsize, -⟩ := h.frame
  obtain ⟨header, hheaderRead, hbytes⟩ := Option.map_eq_some_iff.mp hheader
  obtain ⟨payload, hpayloadRead, rfl⟩ := Option.map_eq_some_iff.mp hpayload
  have hmagic := wordAt_field 0 [] (leBytes 4 cmd.toNat ++ leBytes 4 datasize.toNat) rfl
    (show frameMagic.toNat < 256 ^ 4 from frameMagic.toNat_lt)
  have hword := wordAt_field 8 (leBytes 4 frameMagic.toNat ++ leBytes 4 cmd.toNat) [] (by simp)
    (show datasize.toNat < 256 ^ 4 from datasize.toNat_lt)
  rw [List.nil_append, ← List.append_assoc] at hmagic
  rw [List.append_nil] at hword
  refine ⟨header, hheaderRead, payload, hpayloadRead, ?_, ?_, ?_⟩
  · rw [hbytes]
    simp [sizPacketHeader]
  · rw [hbytes, hmagic]
  · rw [hbytes, hword, hsize]

/-- Complete reads give frames whose data are newer than what was allocated before. -/
theorem jet_fresh (s : JetReader) (rs : List JetReads) (h : ∀ r ∈ rs, r.Complete) :
    JetFresh (exec ipcReadRound s rs).1 ∧ ∀ f ∈ outputs (exec ipcReadRound s rs).1,
      ∃ n, s.mallocs < n ∧ f.data.map HeapBlock.number = some n := by
  induction rs generalizing s with
  | nil =>
    refine ⟨⟨fun a ha => absurd ha List.not_mem_nil, List.Pairwise.nil⟩, fun f hf => ?_⟩
    exact absurd hf List.not_mem_nil
  | cons r rs ih =>
    obtain ⟨hr, hrs⟩ := List.forall_mem_cons.mp h
    obtain ⟨hread, hnumber, hmallocs⟩ := jetIpcRecv_complete (s := s) hr
    obtain ⟨⟨hreads, hdistinct⟩, hnewer⟩ := ih (jetIpcRecv s r) hrs
    have houtputs : outputs (exec ipcReadRound s (r :: rs)).1 =
        (jetIpcRecv s r).resp :: outputs (exec ipcReadRound (jetIpcRecv s r) rs).1 := rfl
    refine ⟨⟨List.forall_mem_cons.mpr ⟨⟨_, rfl, hread⟩, hreads⟩, ?_⟩, ?_⟩
    · rw [houtputs, List.pairwise_cons]
      refine ⟨fun f hf => ?_, hdistinct⟩
      obtain ⟨n, hn, hf⟩ := hnewer f hf
      rw [hnumber, hf]
      intro heq
      have hsame := Option.some.inj heq
      omega
    · rw [houtputs]
      refine List.forall_mem_cons.mpr ⟨⟨_, Nat.lt_succ_self _, hnumber⟩, fun f hf => ?_⟩
      obtain ⟨n, hn, hf⟩ := hnewer f hf
      exact ⟨n, by omega, hf⟩

/-- **Every dispatched frame was read in its own round**, and none is dispatched twice, exactly if
the reads of every round are complete. -/
theorem jetFresh_iff (rs : List JetReads) :
    JetFresh (exec ipcReadRound .init rs).1 ↔ ∀ r ∈ rs, r.Complete := by
  constructor
  · intro h r hr
    rw [← inputs_exec ipcReadRound .init rs] at hr
    obtain ⟨a, ha, rfl⟩ := List.mem_map.mp hr
    obtain ⟨f, -, hread⟩ := h.read a ha
    exact hread.complete
  · intro h
    exact (jet_fresh .init rs h).1

end

/-- A frame of command 4 with two bytes, then a header that comes short. -/
def shortReads : List JetReads :=
  [⟨some ⟨[0xFE, 0xCA, 0xFE, 0xCA, 4, 0, 0, 0, 2, 0, 0, 0], by decide⟩, some ⟨[7, 8], by decide⟩⟩,
    ⟨some ⟨[0xFE, 0xCA], by decide⟩, none⟩]

/-- The frame of the first round is dispatched a second time, with data that were freed. -/
theorem not_jetFresh_short : ¬∀ rs : List JetReads, JetFresh (exec ipcReadRound .init rs).1 := by
  intro h
  obtain ⟨f, g, hfg⟩ : ∃ f g, outputs (exec ipcReadRound .init shortReads).1 = [f, g] ∧
      f.data.map HeapBlock.number = g.data.map HeapBlock.number := ⟨_, _, rfl, by decide⟩
  have hdistinct := (h shortReads).distinct
  rw [hfg.1, List.pairwise_cons] at hdistinct
  exact hdistinct.1 g (List.mem_singleton_self g) hfg.2

end Mocha.Ipc
