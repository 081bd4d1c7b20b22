import Mocha.Ril.DaemonFrames

/-! Network frames from the modem (`ipc_parse_proto` of `proto.c`, `ipc_proto_receive_data_ind` of
`gprs.c`): whatever packets of other kinds come between the frames they are cut into, they are written to
the tunnel of their connection. -/
namespace Mocha.Ril
open Mocha.Lib Mocha.Ipc

/-- A network frame for a connection, and the members of its headers that nothing reads. -/
structure DataIndication where
  contextId : UInt32
  netBuf : List UInt8
  len : UInt16
  opMode : UInt16
  protoType : UInt16
  fits : netBuf.length < 2 ^ 31 - 16

section Memory

variable {mem : PacketMemory} {bytes : List UInt8}

theorem PacketContext.memory_holds (ctx : PacketContext) (bytes : List UInt8) :
    (ctx.memory bytes).Holds bytes := by
  intro i h
  unfold PacketContext.memory
  rw [if_pos (Int.natCast_nonneg i), Int.toNat_natCast]
  rw [List.getD_eq_getElem?_getD, List.getElem?_eq_getElem h]
  rfl

theorem holds_from (h : mem.Holds bytes) (off : ℕ) : (mem.from off).Holds (bytes.drop off) := by
  intro i hi
  rw [List.getElem_drop]
  rw [List.length_drop] at hi
  exact h (off + i) (by omega)

theorem holds_bytes (h : mem.Holds bytes) {off n : ℕ} (hfits : off + n ≤ bytes.length) :
    mem.bytes off n = (bytes.drop off).take n := by
  unfold PacketMemory.bytes
  refine List.ext_getElem ?_ fun i hi _ => ?_
  · rw [List.length_map, List.length_range, List.length_take, List.length_drop]
    omega
  · have hn : i < n := by simpa using hi
    rw [List.getElem_map, List.getElem_range, List.getElem_take, List.getElem_drop]
    exact h (off + i) (by omega)

end Memory

namespace DataIndication

def header (i : DataIndication) : ProtoPacketHeader := ⟨protoPacketReceiveDataInd, i.len⟩

def transfer (i : DataIndication) : ProtoTransferDataBuf :=
  ⟨i.opMode, i.protoType, i.contextId, UInt32.ofNat i.netBuf.length⟩

def bytes (i : DataIndication) : List UInt8 := i.header.toBytes ++ (i.transfer.toBytes ++ i.netBuf)

theorem bytes_length (i : DataIndication) : i.bytes.length = 16 + i.netBuf.length := by
  rw [bytes, List.length_append, List.length_append, ProtoPacketHeader.toBytes_length,
    ProtoTransferDataBuf.toBytes_length]
  omega

theorem bytes_lt (i : DataIndication) : i.bytes.length < 2 ^ 31 := by
  have hfits := i.fits
  rw [i.bytes_length]
  omega

/-- The packet that the modem sends. -/
def packet (i : DataIndication) : ModemIo :=
  packetOf fifoPktProto i.bytes (i.bytes_lt.trans (by decide))

/-- What is written: the frame, to the tunnel of the connection with its number, if there is one. -/
def written (i : DataIndication) (s : GprsData) : List SystemEffect :=
  ((rilGprsConnectionFindContextId s i.contextId).toList.filter fun c => 0 ≤ c.2.iface).map fun c =>
    .identity (.ril (.gprs (.write c.2.iface i.netBuf)))

theorem sendable (i : DataIndication) : Sendable i.packet where
  magic := rfl
  cmd := show fifoPktProto ≠ fifoPktFifoInternal by decide
  datasize := by
    rw [← i.packet.data_length]
    exact i.bytes_lt

theorem bytes_drop (i : DataIndication) : i.bytes.drop 4 = i.transfer.toBytes ++ i.netBuf :=
  List.drop_left' i.header.toBytes_length

theorem ipcParse_packet (i : DataIndication) (fresh : ℕ → UInt8) (mem : PacketMemory) :
    ipcParse fresh mem (deliver i.packet) = some [.ipcInvokeRilCb .protoReceiveDataInd (i.bytes.drop 4)] := by
  have hread : Block.read ⟨i.bytes, true⟩ 0 4 = some (i.header.toBytes ++ []) := by
    rw [Block.read_eq rfl (by rw [i.bytes_length]; omega), List.drop_zero, List.append_nil]
    exact congrArg some (List.take_left' i.header.toBytes_length)
  have htype := congrArg ProtoPacketHeader.type (ProtoPacketHeader.ofBytes_toBytes i.header [])
  change ipcParseProto fresh mem i.packet = _
  unfold ipcParseProto
  change (Block.read ⟨i.bytes, true⟩ 0 4).bind _ = _
  rw [hread, Option.bind_some]
  simp only [htype]
  rfl

theorem readDataInd_packet (i : DataIndication) {mem : PacketMemory} (h : mem.Holds (i.bytes.drop 4)) :
    readDataInd mem = ⟨.receiveDataInd i.contextId i.netBuf, rfl⟩ := by
  have hlength : (i.bytes.drop 4).length = 12 + i.netBuf.length := by
    rw [List.length_drop, i.bytes_length]
    omega
  have htransfer : ProtoTransferDataBuf.ofBytes (i.bytes.drop 4) = i.transfer := by
    rw [i.bytes_drop]
    exact ProtoTransferDataBuf.ofBytes_toBytes ..
  have hcontextId : mem.word32 4 = i.contextId :=
    (SimEvent.word32_eq 4 h (by omega)).trans (congrArg ProtoTransferDataBuf.contextId htransfer)
  have hnetBufLen : (mem.word32 8).toNat = i.netBuf.length := by
    have hword : mem.word32 8 = i.transfer.netBufLen :=
      (SimEvent.word32_eq 8 h (by omega)).trans (congrArg ProtoTransferDataBuf.netBufLen htransfer)
    have hfits := i.fits
    rw [hword]
    exact UInt32.toNat_ofNat_of_lt' (show _ < 2 ^ 32 by omega)
  have hnetBuf : mem.bytes 12 i.netBuf.length = i.netBuf := by
    rw [holds_bytes h (by omega), i.bytes_drop, List.drop_left' i.transfer.toBytes_length, List.take_length]
  unfold readDataInd
  simp only [hcontextId, hnetBufLen, hnetBuf]

theorem invokeCallback_receiveDataInd (i : DataIndication) (s : DaemonData) :
    invokeCallback s (some (.proto ⟨.receiveDataInd i.contextId i.netBuf, rfl⟩)) =
      some (s, (i.written s.ril.gprs).map .ril) := by
  have hreceive : ipcProtoReceiveDataInd s.ril.gprs i.contextId i.netBuf =
      (s.ril.gprs, ((rilGprsConnectionFindContextId s.ril.gprs i.contextId).toList.filter fun c =>
        0 ≤ c.2.iface).map fun c => .write c.2.iface i.netBuf) := by
    unfold ipcProtoReceiveDataInd
    cases rilGprsConnectionFindContextId s.ril.gprs i.contextId with
    | none => rfl
    | some c =>
      dsimp only
      split_ifs with hiface
      · rw [Option.toList_some, List.filter_cons_of_neg (by simpa using hiface)]
        rfl
      · rw [Option.toList_some, List.filter_cons_of_pos (by simpa using hiface)]
        rfl
  change some (_, _) = _
  dsimp only [gprsHandler]
  rw [hreceive]
  unfold written
  simp only [RilData.inGprs, ofRil, List.map_map]
  rfl

/-- The network frame is written, and nothing is changed. -/
theorem ipcReceive_packet (i : DataIndication) (ctx : PacketContext) (s : DaemonData) :
    ipcReceive ctx s i.packet = some (s, (i.written s.ril.gprs).map .ril) := by
  have hoff : i.packet.data.length - (i.bytes.drop 4).length = 4 := by
    change i.bytes.length - _ = 4
    rw [List.length_drop, i.bytes_length]
    omega
  have hread := i.readDataInd_packet (holds_from (ctx.memory_holds i.bytes) 4)
  have hcallback : readCallback ctx.toCallbackContext ((ctx.memory i.bytes).from 4)
      (i.bytes.drop 4).length .protoReceiveDataInd =
        some (some (.proto ⟨.receiveDataInd i.contextId i.netBuf, rfl⟩)) :=
    congrArg (fun ind => some (some (RilCallback.proto ind))) hread
  have heffect : ipcEffect ctx i.packet s (.ipcInvokeRilCb .protoReceiveDataInd (i.bytes.drop 4)) =
      some (s, (i.written s.ril.gprs).map .ril) := by
    have hread := congrArg (fun off => (readCallback ctx.toCallbackContext ((ctx.memory i.bytes).from off)
      (i.bytes.drop 4).length .protoReceiveDataInd).bind (invokeCallback s)) hoff
    refine hread.trans ?_
    rw [hcallback, Option.bind_some]
    exact i.invokeCallback_receiveDataInd s
  unfold ipcReceive
  rw [ipcParse_packet, Option.bind_some, ipcEffects, heffect]
  exact congrArg (fun out => some (s, out)) (List.append_nil _)

end DataIndication

/-- A packet whose parser calls nothing back, so that what it does lies outside of `ril_data`. -/
def HandledApart (f : ModemIo) : Prop :=
  f.cmd ≠ fifoPktFifoInternal ∧ dispatchCase f.cmd ∉ [DispatchCase.ipcParseSim, .ipcParseProto,
    .ipcParseTapi, .ipcParseLbs, .ipcParseSystem, .ipcParseDbgLevel]

instance (f : ModemIo) : Decidable (HandledApart f) := inferInstanceAs (Decidable (_ ∧ _))

theorem ipcParse_apart {f : ModemIo} (h : HandledApart f) (fresh : ℕ → UInt8) (mem : PacketMemory) :
    ipcParse fresh mem (deliver f) = some [] ∨ ∃ d, ipcParse fresh mem (deliver f) = some [.parsed d] := by
  obtain ⟨-, hcase⟩ := h
  unfold ipcParse deliver
  dsimp only
  revert hcase
  cases dispatchCase f.cmd with
  | ipcParseSim | ipcParseProto | ipcParseTapi | ipcParseLbs | ipcParseSystem | ipcParseDbgLevel =>
    exact fun hcase => absurd (by decide) hcase
  | ipcParseBoot | unused | notYetHandled => exact fun _ => .inl rfl
  | ipcParseFm | ipcParseSound | ipcParseDrv | ipcParseDbg | ipcParseBt | ipcParseTm =>
    exact fun _ => .inr ⟨_, rfl⟩

theorem ipcReceive_apart {f : ModemIo} (h : HandledApart f) (ctx : PacketContext) (s : DaemonData) :
    ∃ out, ipcReceive ctx s f = some (s, out) ∧ rilEffects out = [] := by
  unfold ipcReceive
  rcases ipcParse_apart h ctx.fresh (ctx.memory f.data) with hparse | ⟨d, hparse⟩
  · rw [hparse]
    exact ⟨[], rfl, rfl⟩
  · rw [hparse]
    exact ⟨[.parsed d], rfl, rfl⟩

section Run

variable {inds : List DataIndication} {others : List ModemIo} {whole : List DaemonEvent}
  {s t : DaemonData} {out : List DaemonEffect}

theorem exists_downlink (hothers : ∀ f ∈ others, HandledApart f)
    (h : Interleave (inds.map fun i => .frame i.packet) (others.map .frame) whole) (ctx : PacketContext)
    (s : DaemonData) : ∃ out, Responds PacketStep s whole out s := by
  generalize hl : inds.map (fun i => DaemonEvent.frame i.packet) = l at h
  generalize hr : others.map DaemonEvent.frame = r at h
  induction h generalizing inds others with
  | nil => exact ⟨[], .refl ..⟩
  | left a _ ih =>
    obtain ⟨i, inds, rfl, rfl, rfl⟩ := List.map_eq_cons_iff.mp hl
    obtain ⟨out, hout⟩ := ih hothers rfl hr
    exact ⟨_, responds_cons_iff.mpr ⟨s, _, out, rfl, .packet ctx (i.ipcReceive_packet ctx s), hout⟩⟩
  | right a _ ih =>
    obtain ⟨f, others, rfl, rfl, rfl⟩ := List.map_eq_cons_iff.mp hr
    obtain ⟨hf, hothers⟩ := List.forall_mem_cons.mp hothers
    obtain ⟨first, hfirst, -⟩ := ipcReceive_apart hf ctx s
    obtain ⟨out, hout⟩ := ih hothers hl rfl
    exact ⟨_, responds_cons_iff.mpr ⟨s, first, out, rfl, .packet ctx hfirst, hout⟩⟩

theorem downlink_responds (hothers : ∀ f ∈ others, HandledApart f)
    (h : Interleave (inds.map fun i => .frame i.packet) (others.map .frame) whole)
    (hresponds : Responds PacketStep s whole out t) :
    t = s ∧ rilEffects out = inds.flatMap (·.written s.ril.gprs) := by
  generalize hl : inds.map (fun i => DaemonEvent.frame i.packet) = l at h
  generalize hr : others.map DaemonEvent.frame = r at h
  induction h generalizing inds others out with
  | nil =>
    obtain ⟨rfl, rfl⟩ := responds_nil_iff.mp hresponds
    obtain rfl := List.map_eq_nil_iff.mp hl
    exact ⟨rfl, rfl⟩
  | left a _ ih =>
    obtain ⟨i, inds, rfl, rfl, rfl⟩ := List.map_eq_cons_iff.mp hl
    obtain ⟨u, first, rest, rfl, hstep, hrest⟩ := responds_cons_iff.mp hresponds
    cases hstep with
    | packet ctx hreceive =>
      obtain ⟨rfl, rfl⟩ := Prod.mk.inj (Option.some.inj ((i.ipcReceive_packet ctx s).symm.trans hreceive))
      obtain ⟨rfl, hout⟩ := ih hothers hrest rfl hr
      exact ⟨rfl, by rw [rilEffects_append, rilEffects_map_ril, hout, List.flatMap_cons]⟩
  | right a _ ih =>
    obtain ⟨f, others, rfl, rfl, rfl⟩ := List.map_eq_cons_iff.mp hr
    obtain ⟨hf, hothers⟩ := List.forall_mem_cons.mp hothers
    obtain ⟨u, first, rest, rfl, hstep, hrest⟩ := responds_cons_iff.mp hresponds
    cases hstep with
    | packet ctx hreceive =>
      obtain ⟨quiet, hquiet, hnone⟩ := ipcReceive_apart hf ctx s
      obtain ⟨rfl, rfl⟩ := Prod.mk.inj (Option.some.inj (hquiet.symm.trans hreceive))
      obtain ⟨rfl, hout⟩ := ih hothers hrest hl rfl
      exact ⟨rfl, by rw [rilEffects_append, hnone, hout, List.nil_append]⟩

end Run

/-- **Network frames reach their tunnel.** The packets of network frames are cut into frames, and packets
of other kinds may come between them. The daemon handles all of them, writes exactly the network frames of
the packets that are not lost, in their order, and changes nothing. -/
theorem downlink_written {fresh : ℕ → UInt8} {inds : List DataIndication} {others : List ModemIo}
    (hothers : ∀ f ∈ others, HandledApart f) {received : List DaemonEvent}
    (h : Interleave (((inds.map DataIndication.packet).flatMap waveIpcSend).map .frame)
      (others.map .frame) received) (s : Reassembly × DaemonData) :
    (∃ out r, Responds (DaemonStep fresh) s received out (r, s.2)) ∧
    ∀ out t, Responds (DaemonStep fresh) s received out t → t.2 = s.2 ∧
      rilEffects out =
        (inds.filter fun i => ¬LostInFrames i.packet).flatMap (·.written s.2.ril.gprs) := by
  have hsendable : ∀ p ∈ inds.map DataIndication.packet, Sendable p := by
    intro p hp
    obtain ⟨i, -, rfl⟩ := List.mem_map.mp hp
    exact i.sendable
  have hwhole : ∀ f, DaemonEvent.frame f ∈ others.map .frame → f.cmd ≠ fifoPktFifoInternal := by
    intro f hf
    obtain ⟨g, hg, heq⟩ := List.mem_map.mp hf
    exact DaemonEvent.frame.inj heq ▸ (hothers g hg).1
  obtain ⟨whole, u, hinterleave, hfront⟩ := responds_frames hsendable hwhole h s.1
  rw [List.filter_map, List.map_map] at hinterleave
  refine ⟨?_, fun out t hresponds => ?_⟩
  · obtain ⟨out, hout⟩ := exists_downlink hothers hinterleave .zero s.2
    exact ⟨out, u, responds_cascade_iff.mpr ⟨whole, hfront, hout⟩⟩
  · exact downlink_responds hothers hinterleave
      ((responds_cascade_of_front (fun _ _ _ _ _ _ => ReassemblyStep.functional) hfront).mp hresponds).2

/-- A frame for the sound comes before a network frame for the tunnel 7. -/
theorem downlink_written_sound :
    let c : RilGprsConnection := { RilGprsConnection.alloc 1 with contextId := 3, iface := 7 }
    let s : Reassembly × DaemonData :=
      (.init, ⟨{ rilInit 1 none with gprs := ⟨[c], 0⟩ }, .replicate 9 0⟩)
    let i : DataIndication := ⟨3, [1, 2, 3], 15, 0, 1, by decide⟩
    let sound : ModemIo := ⟨frameMagic, fifoPktSound, 1, [7], rfl⟩
    (∃ out r, Responds (DaemonStep fun _ => 0) s [.frame sound, .frame i.packet] out (r, s.2)) ∧
    ∀ out t, Responds (DaemonStep fun _ => 0) s [.frame sound, .frame i.packet] out t →
      t.2 = s.2 ∧ rilEffects out = [.identity (.ril (.gprs (.write 7 [1, 2, 3])))] := by
  intro c s i sound
  have hsend : waveIpcSend i.packet = [i.packet] := waveIpcSend_single (by decide)
  have hframes : Interleave ((([i].map DataIndication.packet).flatMap waveIpcSend).map .frame)
      ([sound].map .frame) [.frame sound, DaemonEvent.frame i.packet] := by
    rw [List.map_singleton, List.flatMap_singleton, hsend]
    exact .right _ (.left _ .nil)
  exact downlink_written (by decide) hframes s

end Mocha.Ril
