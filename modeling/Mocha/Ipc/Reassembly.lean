import Mocha.Lib.Interleave
import Mocha.Ipc.Dispatch

/-! Multi-frame packets through `ipc_dispatch`: what is cut into fragments arrives whole, also among
other frames; and what the sender of `wave_ipc.c` writes is of this kind except for a last fragment
of 12 bytes, which the receiver takes for a header. -/
namespace Mocha.Ipc
open Mocha.Lib

variable {fresh : ℕ → UInt8}

/-- A packet of type `type` and length `size` is being put together; `filled` has arrived. -/
structure Reassembly.Assembling (s : Reassembly) (type size : UInt32) (filled : List UInt8) :
    Prop where
  magic : s.magic = frameMagic
  cmd : s.cmd = type
  datasize : s.datasize = size
  position : s.multiFramePosition.toNat = filled.length
  buffer : ∃ b, s.data = some b ∧ b.live ∧ b.bytes.length = size.toNat ∧
    b.bytes.take filled.length = filled

/-- No buffer is allocated. -/
def Reassembly.Idle (s : Reassembly) : Prop := ∀ b, s.data = some b → b.live = false

theorem Reassembly.idle_init : Reassembly.init.Idle := fun _ hb => by cases hb

namespace Reassembly.Assembling

variable {s : Reassembly} {type size : UInt32} {filled : List UInt8} {f : ModemIo}

theorem start (h : MultiFrameHeader) : (startMultiFrame fresh h).Assembling h.type h.size [] where
  magic := rfl
  cmd := rfl
  datasize := rfl
  position := rfl
  buffer := ⟨_, rfl, rfl, Block.malloc_length .., rfl⟩

theorem copyFragment (h : s.Assembling type size filled)
    (hlen : filled.length + f.data.length ≤ size.toNat) :
    ∃ t, s.copyFragment f = .ok t ∧ t.Assembling type size (filled ++ f.data) := by
  obtain ⟨b, hb, hlive, hsize, hfilled⟩ := h.buffer
  have hfits : filled.length + f.data.length ≤ b.bytes.length := hlen.trans_eq hsize.symm
  obtain ⟨c, hc, hcl, hcn, hct⟩ := Block.memcpy_extend hlive hfilled hfits
  refine ⟨{ s with data := some c, multiFramePosition := s.multiFramePosition + f.datasize },
    ?_, h.magic, h.cmd, h.datasize, ?_, c, rfl, hcl, hcn.trans hsize, hct⟩
  · simp only [Reassembly.copyFragment, hb, Option.bind_some, h.position, hc]
  · have hs := size.toNat_lt
    rw [UInt32.toNat_add, h.position, ← f.data_length, List.length_append]
    exact Nat.mod_eq_of_lt (by omega)

theorem complete_iff (h : s.Assembling type size filled) :
    s.datasize = s.multiFramePosition ↔ filled.length = size.toNat := by
  rw [← UInt32.toNat_inj, h.datasize, h.position, eq_comm]

theorem packet (h : s.Assembling type size filled) (hlen : filled.length = size.toNat) :
    s.packet = .ok ⟨frameMagic, type, size, filled, hlen⟩ := by
  obtain ⟨b, hb, -, hsize, hfilled⟩ := h.buffer
  have hle : s.datasize.toNat ≤ b.bytes.length := by rw [h.datasize, hsize]
  simp only [Reassembly.packet, hb]
  rw [dif_pos hle]
  congr 1
  refine ModemIo.ext h.magic h.cmd h.datasize ?_
  change b.bytes.take s.datasize.toNat = filled
  rw [h.datasize, ← hlen, hfilled]

theorem release (h : s.Assembling type size filled) :
    ∃ b, s.data = some b ∧
      s.release = .ok { s with data := some { b with live := false }, multiFramePosition := 0 } := by
  obtain ⟨b, hb, hlive, -⟩ := h.buffer
  exact ⟨b, hb, by simp [Reassembly.release, hb, Block.free, hlive]⟩

end Reassembly.Assembling

/-- A header starts a packet, whatever was being put together before. -/
theorem dispatch_header {s : Reassembly} {f : ModemIo} (hf : f.cmd = fifoPktFifoInternal)
    (hsize : f.datasize = 0xC) :
    Dispatch fresh s (f, []) (.startMultiFrame fresh (.ofBytes f.data)) :=
  ⟨1, ipcDispatch_header 0 hf hsize⟩

theorem dispatch_whole (s : Reassembly) {f : ModemIo} (hf : f.cmd ≠ fifoPktFifoInternal) :
    Dispatch fresh s (f, [deliver f]) s := ⟨1, ipcDispatch_whole 0 hf⟩

section Fragments

variable {s : Reassembly} {type size : UInt32} {filled : List UInt8}

variable (fresh) in
/-- A fragment that leaves the packet incomplete is stored and nothing is delivered. -/
theorem dispatch_fragment (h : s.Assembling type size filled) {f : ModemIo}
    (hf : f.cmd = fifoPktFifoInternal) (hsize : f.datasize ≠ 0xC)
    (hlen : filled.length + f.data.length < size.toNat) :
    ∃ t, Dispatch fresh s (f, []) t ∧ t.Assembling type size (filled ++ f.data) := by
  obtain ⟨t, ht, hat⟩ := h.copyFragment hlen.le
  have hpos : t.datasize ≠ t.multiFramePosition := by
    rw [Ne, hat.complete_iff, List.length_append]; omega
  exact ⟨t, ⟨1, ipcDispatch_fragment 0 hf hsize ht hpos⟩, hat⟩

variable (fresh) in
/-- The fragment that completes the packet delivers it. -/
theorem dispatch_last (h : s.Assembling type size filled) (htype : type ≠ fifoPktFifoInternal)
    {f : ModemIo} (hf : f.cmd = fifoPktFifoInternal) (hsize : f.datasize ≠ 0xC)
    (hlen : (filled ++ f.data).length = size.toNat) :
    ∃ t, Dispatch fresh s (f, [deliver ⟨frameMagic, type, size, filled ++ f.data, hlen⟩]) t ∧
      t.Idle := by
  obtain ⟨t, ht, hat⟩ := h.copyFragment (f := f) (by rw [List.length_append] at hlen; omega)
  obtain ⟨b, -, hrel⟩ := hat.release
  have hd : ipcDispatch fresh 2 s f = _ :=
    ipcDispatch_complete 1 hf hsize ht (hat.complete_iff.mpr hlen) (hat.packet hlen)
  rw [ipcDispatch_whole 0 htype] at hd
  change _ = t.release.bind _ at hd
  rw [hrel] at hd
  exact ⟨_, ⟨2, hd⟩, fun _ hb => Option.some.inj hb ▸ rfl⟩

variable (fresh) in
/-- Fragments that do not complete the packet, one after the other. -/
theorem run_fragments (fs : List ModemIo) (hcmd : ∀ f ∈ fs, f.cmd = fifoPktFifoInternal)
    (hsize : ∀ f ∈ fs, f.datasize ≠ 0xC)
    (hlen : filled.length + (fs.flatMap (·.data)).length < size.toNat)
    (h : s.Assembling type size filled) :
    ∃ t, Run (Dispatch fresh) s (fs.map (·, [])) t ∧
      t.Assembling type size (filled ++ fs.flatMap (·.data)) := by
  induction fs generalizing s filled with
  | nil => exact ⟨s, .nil, by simpa using h⟩
  | cons f fs ih =>
    rw [List.flatMap_cons, List.length_append] at hlen
    obtain ⟨u, hu, hau⟩ := dispatch_fragment fresh h (hcmd f (by simp)) (hsize f (by simp))
      (show filled.length + f.data.length < size.toNat by omega)
    obtain ⟨t, ht, hat⟩ := ih (fun g hg => hcmd g (by simp [hg])) (fun g hg => hsize g (by simp [hg]))
      (by rw [List.length_append]; omega) hau
    exact ⟨t, .cons hu ht, by simpa [List.append_assoc] using hat⟩

end Fragments

/-- A packet on the wire: a header frame that announces its size and type, and the fragments it
was cut into. No fragment is empty and none has the length of a header. -/
structure MultiFrameMessage where
  cmd : UInt32
  header : ModemIo
  fragments : List ModemIo
  cmd_ne : cmd ≠ fifoPktFifoInternal
  header_cmd : header.cmd = fifoPktFifoInternal
  header_datasize : header.datasize = 0xC
  header_type : (MultiFrameHeader.ofBytes header.data).type = cmd
  header_size : (fragments.flatMap (·.data)).length =
    (MultiFrameHeader.ofBytes header.data).size.toNat
  fragments_ne : fragments ≠ []
  fragment_cmd : ∀ f ∈ fragments, f.cmd = fifoPktFifoInternal
  fragment_data : ∀ f ∈ fragments, f.data ≠ []
  fragment_datasize : ∀ f ∈ fragments, f.datasize ≠ 0xC

namespace MultiFrameMessage

/-- The packet that was cut. -/
def packet (m : MultiFrameMessage) : ModemIo :=
  ⟨frameMagic, m.cmd, (MultiFrameHeader.ofBytes m.header.data).size,
    m.fragments.flatMap (·.data), m.header_size⟩

/-- The frames of the message, in order. -/
def frames (m : MultiFrameMessage) : List ModemIo := m.header :: m.fragments

/-- The frames of the message with what each should deliver: the last one the packet. -/
def trace (m : MultiFrameMessage) : List (ModemIo × List Delivery) :=
  (m.header, []) :: m.fragments.dropLast.map (·, []) ++
    [(m.fragments.getLast m.fragments_ne, [deliver m.packet])]

theorem inputs_trace (m : MultiFrameMessage) : inputs m.trace = m.frames := by
  have h : (Prod.fst ∘ fun f : ModemIo => (f, ([] : List Delivery))) = id := rfl
  simp only [inputs, trace, frames, List.cons_append, List.map_cons, List.map_append, List.map_map,
    h, List.map_id, List.map_nil, List.dropLast_append_getLast]

theorem outputs_trace (m : MultiFrameMessage) : outputs m.trace = [deliver m.packet] := by
  have h : (m.fragments.dropLast.map (·, ([] : List Delivery))).flatMap Prod.snd = [] := by
    rw [List.flatMap_map, List.flatMap_eq_nil_iff]
    exact fun _ _ => rfl
  simp only [outputs, trace, List.flatMap_append, List.flatMap_cons, h, List.flatMap_nil,
    List.nil_append, List.append_nil]

variable (fresh) in
/-- The frames of a message deliver its packet, from any state. -/
theorem run (m : MultiFrameMessage) (s : Reassembly) :
    ∃ t, Run (Dispatch fresh) s m.trace t := by
  have hsplit := List.dropLast_append_getLast m.fragments_ne
  have hmem : ∀ f ∈ m.fragments.dropLast, f ∈ m.fragments := fun _ hf => List.dropLast_subset _ hf
  have hlastmem := List.getLast_mem m.fragments_ne
  have hdata : (m.fragments.dropLast.flatMap (·.data) ++
      (m.fragments.getLast m.fragments_ne).data) = m.fragments.flatMap (·.data) := by
    conv_rhs => rw [← hsplit, List.flatMap_append, List.flatMap_singleton]
  have hlast := List.length_pos_iff.mpr (m.fragment_data _ hlastmem)
  have hlen := congrArg List.length hdata
  rw [List.length_append, m.header_size] at hlen
  obtain ⟨t, ht, hat⟩ := run_fragments fresh m.fragments.dropLast
    (fun f hf => m.fragment_cmd f (hmem f hf)) (fun f hf => m.fragment_datasize f (hmem f hf))
    (by simp only [List.length_nil]; omega) (Reassembly.Assembling.start (.ofBytes m.header.data))
  rw [List.nil_append] at hat
  obtain ⟨u, hu, -⟩ := dispatch_last fresh hat (m.header_type.trans_ne m.cmd_ne)
    (m.fragment_cmd _ hlastmem) (m.fragment_datasize _ hlastmem) (by rw [hdata, m.header_size])
  have hpacket : (⟨frameMagic, (MultiFrameHeader.ofBytes m.header.data).type,
      (MultiFrameHeader.ofBytes m.header.data).size, m.fragments.dropLast.flatMap (·.data) ++
        (m.fragments.getLast m.fragments_ne).data, by rw [hdata, m.header_size]⟩ : ModemIo) =
      m.packet := ModemIo.ext rfl m.header_type rfl hdata
  rw [hpacket] at hu
  exact ⟨u, (Run.cons (dispatch_header m.header_cmd m.header_datasize) ht).snoc hu⟩

end MultiFrameMessage

/-- Any order-preserving interleaving of messages with whole frames of other types, from any state:
every whole frame is delivered as it arrives, every message with its last fragment. -/
theorem ipcDispatch_interleaved (messages : List MultiFrameMessage) (whole : List ModemIo)
    (hwhole : ∀ f ∈ whole, f.cmd ≠ fifoPktFifoInternal) (received : List ModemIo)
    (hr : Interleave (messages.flatMap (·.frames)) whole received) (s : Reassembly) :
    ∃ tr t, Run (Dispatch fresh) s tr t ∧ inputs tr = received ∧
      Interleave (messages.flatMap (·.trace)) (whole.map fun f => (f, [deliver f])) tr := by
  have hmessages : ∀ (ms : List MultiFrameMessage) (s : Reassembly),
      ∃ t, Run (Dispatch fresh) s (ms.flatMap (·.trace)) t := by
    intro ms
    induction ms with
    | nil => exact fun s => ⟨s, .nil⟩
    | cons m ms ih =>
      intro s
      obtain ⟨u, hu⟩ := m.run fresh s
      obtain ⟨t, ht⟩ := ih u
      exact ⟨t, by simpa only [List.flatMap_cons] using hu.append ht⟩
  have hframes : messages.flatMap (·.frames) = (messages.flatMap (·.trace)).map Prod.fst := by
    rw [List.map_flatMap]
    exact List.flatMap_congr fun m _ => m.inputs_trace.symm
  have hothers : whole = (whole.map fun f => (f, [deliver f])).map Prod.fst := by
    rw [List.map_map]
    exact (List.map_id whole).symm
  rw [hframes, hothers] at hr
  obtain ⟨tr, rfl, htr⟩ := hr.exists_of_map
  obtain ⟨t, ht⟩ := hmessages messages s
  refine ⟨tr, t, htr.run (fun a ha s => ?_) ht, rfl, htr⟩
  obtain ⟨f, hf, rfl⟩ := List.mem_map.mp ha
  exact dispatch_whole s (hwhole f hf)

/-- Three bytes in two fragments. -/
def MultiFrameMessage.twoFragments : MultiFrameMessage where
  cmd := fifoPktTapi
  header := internalFrame (MultiFrameHeader.toBytes ⟨0x02, 3, fifoPktTapi⟩) (by decide)
  fragments := [internalFrame [1, 2] (by decide), internalFrame [3] (by decide)]
  cmd_ne := by decide
  header_cmd := rfl
  header_datasize := by decide
  header_type := congrArg MultiFrameHeader.type (MultiFrameHeader.ofBytes_toBytes _)
  header_size := congrArg (fun h => h.size.toNat)
    (MultiFrameHeader.ofBytes_toBytes ⟨0x02, 3, fifoPktTapi⟩).symm
  fragments_ne := by decide
  fragment_cmd := by decide
  fragment_data := by decide
  fragment_datasize := by decide

theorem ipcDispatch_interleaved_twoFragments :
    let m := MultiFrameMessage.twoFragments
    let sound : ModemIo := ⟨frameMagic, fifoPktSound, 1, [7], rfl⟩
    ∃ tr t, Run (Dispatch fun _ => 0) .init tr t ∧
      inputs tr = [m.header, internalFrame [1, 2] (by decide), sound,
        internalFrame [3] (by decide)] ∧
      Interleave ([m].flatMap (·.trace)) ([sound].map fun f => (f, [deliver f])) tr := by
  intro m sound
  have hr : Interleave [m.header, internalFrame [1, 2] (by decide), internalFrame [3] (by decide)]
      [sound] [m.header, internalFrame [1, 2] (by decide), sound, internalFrame [3] (by decide)] :=
    .left _ (.left _ (.right _ (.left _ .nil)))
  exact ipcDispatch_interleaved [m] [sound] (by decide) _ hr .init

/-! The sender of `wave_ipc.c` in front of the receiver. -/

/-- What `wave_ipc_send` writes for `p` makes `ipc_dispatch` deliver `p`, once and nothing else. -/
def Delivers (fresh : ℕ → UInt8) (s : Reassembly) (p : ModemIo) : Prop :=
  ∃ tr t q, Run (Dispatch fresh) s tr t ∧ inputs tr = waveIpcSend p ∧
    outputs tr = [⟨dispatchCase p.cmd, q⟩] ∧
    q.cmd = p.cmd ∧ q.datasize = p.datasize ∧ q.data = p.data

theorem waveIpcSend_single {p : ModemIo} (h : p.datasize.toNat ≤ maxSingleFrameData) :
    waveIpcSend p = [p] := if_neg (by omega)

/-- A long packet is sent as a header frame and the fragments of its data. -/
theorem waveIpcSend_multi {p : ModemIo} (hgt : maxSingleFrameData < p.datasize.toNat)
    (hlt : p.datasize.toNat < 2 ^ 31) :
    ∃ header : ModemIo, waveIpcSend p = header :: fragments p.data ∧
      header.cmd = fifoPktFifoInternal ∧ header.datasize = 0xC ∧
      MultiFrameHeader.ofBytes header.data = ⟨0x02, p.datasize, p.cmd⟩ := by
  refine ⟨_, (if_pos hgt).trans (congrArg _ (waveIpcSendLoop_congr ?_ _ _)), rfl, ?_,
    MultiFrameHeader.ofBytes_toBytes _⟩
  · rw [toInt_toInt32, if_pos hlt, p.data_length]
  · rw [← UInt32.toNat_inj, internalFrame_datasize, MultiFrameHeader.toBytes_length]
    rfl

private theorem datasize_eq_iff (f : ModemIo) (n : UInt32) :
    f.datasize = n ↔ f.data.length = n.toNat := by
  rw [← UInt32.toNat_inj, f.data_length]

/-- A long packet whose last fragment cannot be mistaken for a header is a message. -/
theorem exists_message {p : ModemIo} (hcmd : p.cmd ≠ fifoPktFifoInternal)
    (hgt : maxSingleFrameData < p.datasize.toNat) (hlt : p.datasize.toNat < 2 ^ 31)
    (hlast : p.datasize.toNat % maxSingleFrameData ≠ 12) :
    ∃ m : MultiFrameMessage, m.frames = waveIpcSend p ∧ m.packet.cmd = p.cmd ∧
      m.packet.datasize = p.datasize ∧ m.packet.data = p.data := by
  have hlen := p.data_length
  have hne : p.data ≠ [] := List.length_pos_iff.mp (by omega)
  obtain ⟨header, hsend, hhcmd, hhsize, hhdata⟩ := waveIpcSend_multi hgt hlt
  obtain ⟨init, last, hf, hinit, hl, hfcmd, hfdata⟩ := fragments_spec p.data hne
  have hsizes : ∀ f ∈ fragments p.data, 0 < f.data.length ∧ f.data.length ≠ 12 := by
    rw [hf]
    intro f hmem
    rcases List.mem_append.mp hmem with hmem | hmem
    · rw [hinit f hmem]; decide
    · rw [List.mem_singleton.mp hmem, hl]
      unfold maxSingleFrameData at *
      omega
  refine ⟨⟨p.cmd, header, fragments p.data, hcmd, hhcmd, hhsize, by rw [hhdata], ?_, ?_, hfcmd,
    fun f hmem => List.length_pos_iff.mp (hsizes f hmem).1, fun f hmem => ?_⟩, hsend.symm, rfl, ?_,
    hfdata⟩
  · rw [hfdata, hhdata, p.data_length]
  · rw [hf]; simp
  · rw [Ne, datasize_eq_iff]; exact (hsizes f hmem).2
  · simp only [MultiFrameMessage.packet, hhdata]

variable (fresh) in
/-- When the last fragment has 12 bytes it starts another packet and nothing is delivered. -/
theorem run_waveIpcSend_twelve {p : ModemIo} (hgt : maxSingleFrameData < p.datasize.toNat)
    (hlt : p.datasize.toNat < 2 ^ 31) (hlast : p.datasize.toNat % maxSingleFrameData = 12)
    (s : Reassembly) :
    ∃ tr t, Run (Dispatch fresh) s tr t ∧ inputs tr = waveIpcSend p ∧ outputs tr = [] := by
  have hlen := p.data_length
  have hne : p.data ≠ [] := List.length_pos_iff.mp (by omega)
  obtain ⟨header, hsend, hhcmd, hhsize, hhdata⟩ := waveIpcSend_multi hgt hlt
  obtain ⟨init, last, hf, hinit, hl, hfcmd, hfdata⟩ := fragments_spec p.data hne
  have hl12 : last.data.length = 12 := by
    rw [hl]; unfold maxSingleFrameData at *; omega
  have hsum := congrArg List.length hfdata
  rw [hf, List.flatMap_append, List.flatMap_singleton, List.length_append, hl12] at hsum
  rw [hf] at hfcmd
  have hstart : (Reassembly.startMultiFrame fresh (.ofBytes header.data)).Assembling _ _ [] := .start _
  obtain ⟨t, ht, -⟩ := run_fragments fresh init
    (fun f hmem => hfcmd f (List.mem_append_left _ hmem))
    (fun f hmem => by rw [Ne, datasize_eq_iff, hinit f hmem]; decide)
    (by rw [hhdata]; simp only [List.length_nil]; omega) hstart
  have hlasthdr : Dispatch fresh t (last, []) _ :=
    dispatch_header (hfcmd last (by simp)) ((datasize_eq_iff _ _).mpr hl12)
  refine ⟨_, _, (Run.cons (dispatch_header hhcmd hhsize) ht).snoc hlasthdr, ?_, ?_⟩
  · rw [hsend, hf]
    simp [inputs, Function.comp_def]
  · simp [outputs]

theorem not_delivers_of_twelve {p : ModemIo} (hgt : maxSingleFrameData < p.datasize.toNat)
    (hlt : p.datasize.toNat < 2 ^ 31) (hlast : p.datasize.toNat % maxSingleFrameData = 12)
    (s : Reassembly) : ¬Delivers fresh s p := by
  rintro ⟨tr, t, q, hrun, hin, hout, -⟩
  obtain ⟨tr', t', hrun', hin', hout'⟩ := run_waveIpcSend_twelve fresh hgt hlt hlast s
  obtain ⟨-, rfl⟩ := hrun.functional (fun _ _ _ _ _ _ h h' => h.functional h') hrun'
    (hin.trans hin'.symm)
  simp [hout'] at hout

/-- **The sender and the receiver agree** on exactly the packets that fit one frame or whose last
fragment is not 12 bytes long. -/
theorem waveIpcSend_delivers_iff (p : ModemIo) (hcmd : p.cmd ≠ fifoPktFifoInternal)
    (hlt : p.datasize.toNat < 2 ^ 31) (s : Reassembly) :
    Delivers fresh s p ↔ p.datasize.toNat ≤ maxSingleFrameData ∨
      p.datasize.toNat % maxSingleFrameData ≠ 12 := by
  constructor
  · intro h
    by_contra hcon
    obtain ⟨hgt, hlast⟩ := not_or.mp hcon
    exact not_delivers_of_twelve (not_le.mp hgt) hlt (not_not.mp hlast) s h
  · intro h
    by_cases hle : p.datasize.toNat ≤ maxSingleFrameData
    · exact ⟨[(p, [deliver p])], s, p, .one (dispatch_whole s hcmd),
        (waveIpcSend_single hle).symm, by simp [deliver], rfl, rfl, rfl⟩
    · obtain ⟨m, hframes, hmcmd, hmsize, hmdata⟩ :=
        exists_message hcmd (not_le.mp hle) hlt (h.resolve_left hle)
      obtain ⟨t, ht⟩ := m.run fresh s
      exact ⟨m.trace, t, m.packet, ht, m.inputs_trace.trans hframes,
        by rw [m.outputs_trace, deliver, hmcmd], hmcmd, hmsize, hmdata⟩

/-- A TAPI packet of zeros. -/
def zeroPacket (n : ℕ) (h : n < 2 ^ 32) : ModemIo :=
  ⟨frameMagic, fifoPktTapi, UInt32.ofNat n, List.replicate n 0,
    (List.length_replicate ..).trans (UInt32.toNat_ofNat_of_lt' h).symm⟩

theorem waveIpcSend_delivers_five_thousand :
    Delivers (fun _ => 0) .init (zeroPacket 5000 (by decide)) :=
  (waveIpcSend_delivers_iff _ (show fifoPktTapi ≠ fifoPktFifoInternal by decide) (by decide)
    .init).mpr (.inr (by decide))

/-- 4096 bytes are cut into 4084 and 12. -/
theorem not_delivers_4096 :
    ¬∀ (fresh : ℕ → UInt8) (p : ModemIo) (s : Reassembly), p.cmd ≠ fifoPktFifoInternal →
      p.datasize.toNat < 2 ^ 31 → Delivers fresh s p := by
  intro h
  have hcmd : (zeroPacket 4096 (by decide)).cmd ≠ fifoPktFifoInternal :=
    show fifoPktTapi ≠ fifoPktFifoInternal by decide
  have hsize : (zeroPacket 4096 (by decide)).datasize.toNat = 4096 := rfl
  have hlt : (zeroPacket 4096 (by decide)).datasize.toNat < 2 ^ 31 := by rw [hsize]; decide
  exact not_delivers_of_twelve (by rw [hsize]; decide) hlt (by rw [hsize]; decide) .init
    (h (fun _ => 0) _ .init hcmd hlt)

end Mocha.Ipc
