import Mocha.Ril.DaemonTokens

/-! How the packets of the modem are cut into frames, and what comes between the frames, makes no
difference to the daemon, but for the packets that get lost. -/
namespace Mocha.Ril
open Mocha.Lib Mocha.Ipc

/-- The packet does not fit one frame, and its last fragment has the size of a header. -/
def LostInFrames (p : ModemIo) : Prop :=
  maxSingleFrameData < p.datasize.toNat ∧ p.datasize.toNat % maxSingleFrameData = 12

instance (p : ModemIo) : Decidable (LostInFrames p) := inferInstanceAs (Decidable (_ ∧ _))

/-- A packet that is sent: it is no part of another one, and its length is a positive `int`. -/
structure Sendable (p : ModemIo) : Prop where
  magic : p.magic = frameMagic
  cmd : p.cmd ≠ fifoPktFifoInternal
  datasize : p.datasize.toNat < 2 ^ 31

section Frames

variable {p : ModemIo} {packets : List ModemIo}

variable (fresh : ℕ → UInt8)

/-- The frames of a packet, from any state: it is delivered, or nothing is. -/
theorem run_frames (h : Sendable p) (s : Reassembly) : ∃ tr t, Run (Dispatch fresh) s tr t ∧
    inputs tr = waveIpcSend p ∧ outputs tr = if LostInFrames p then [] else [deliver p] := by
  by_cases hlost : LostInFrames p
  · rw [if_pos hlost]
    exact run_waveIpcSend_twelve fresh hlost.1 h.datasize hlost.2 s
  · rw [if_neg hlost]
    by_cases hle : p.datasize.toNat ≤ maxSingleFrameData
    · exact ⟨[(p, [deliver p])], s, .one (dispatch_whole s h.cmd), (waveIpcSend_single hle).symm,
        outputs_singleton _⟩
    · obtain ⟨m, hframes, hcmd, hsize, hdata⟩ := exists_message h.cmd (not_le.mp hle) h.datasize
        fun hlast => hlost ⟨not_le.mp hle, hlast⟩
      have hpacket : m.packet = p := ModemIo.ext h.magic.symm hcmd hsize hdata
      obtain ⟨t, ht⟩ := m.run fresh s
      exact ⟨m.trace, t, ht, m.inputs_trace.trans hframes, by rw [m.outputs_trace, hpacket]⟩

theorem run_allFrames (h : ∀ p ∈ packets, Sendable p) (s : Reassembly) :
    ∃ tr t, Run (Dispatch fresh) s tr t ∧ inputs tr = packets.flatMap waveIpcSend ∧
      outputs tr = (packets.filter fun p => ¬LostInFrames p).map deliver := by
  induction packets generalizing s with
  | nil => exact ⟨[], s, .nil, rfl, rfl⟩
  | cons p packets ih =>
    obtain ⟨hp, hpackets⟩ := List.forall_mem_cons.mp h
    obtain ⟨tr, u, hrun, hin, hout⟩ := run_frames fresh hp s
    obtain ⟨tr', t, hrun', hin', hout'⟩ := ih hpackets u
    refine ⟨tr ++ tr', t, hrun.append hrun', ?_, ?_⟩
    · rw [inputs_append, hin, hin', List.flatMap_cons]
    · rw [outputs_append, hout, hout']
      by_cases hlost : LostInFrames p
      · rw [if_pos hlost, List.nil_append, List.filter_cons_of_neg (by simpa using hlost)]
      · rw [if_neg hlost, List.filter_cons_of_pos (by simpa using hlost)]
        rfl

variable {fresh}

/-- A frame as an event of the daemon. -/
def frameEvent (a : ModemIo × List Delivery) : DaemonEvent × List DaemonEvent :=
  (.frame a.1, deliveredEvents a.2)

theorem inputs_frameEvents (tr : List (ModemIo × List Delivery)) :
    inputs (tr.map frameEvent) = (inputs tr).map .frame := by
  unfold inputs
  rw [List.map_map, List.map_map]
  rfl

theorem outputs_frameEvents (tr : List (ModemIo × List Delivery)) :
    outputs (tr.map frameEvent) = deliveredEvents (outputs tr) := by
  unfold outputs deliveredEvents
  rw [List.flatMap_map, List.map_flatMap]
  rfl

theorem deliveredEvents_deliver (packets : List ModemIo) :
    deliveredEvents (packets.map deliver) = packets.map .frame := by
  unfold deliveredEvents
  rw [List.map_map]
  rfl

theorem run_frameEvents {s t : Reassembly} {tr : List (ModemIo × List Delivery)}
    (h : Run (Dispatch fresh) s tr t) : Run (ReassemblyStep fresh) s (tr.map frameEvent) t := by
  induction h with
  | nil => exact .nil
  | snoc _ hstep ih =>
    rw [List.map_append]
    exact ih.snoc (.frame hstep)

/-- Events that are no parts of long packets leave the reassembly as it is. -/
theorem reassemblyStep_other (s : Reassembly) {e : DaemonEvent}
    (he : ∀ f, e = .frame f → f.cmd ≠ fifoPktFifoInternal) : ReassemblyStep fresh s (e, [e]) s := by
  cases e with
  | frame f => exact .frame (dispatch_whole s (he f rfl))
  | request request t => exact .request ..
  | clientState state => exact .clientState ..

theorem ReassemblyStep.functional {s t t' : Reassembly} {e : DaemonEvent} {es es' : List DaemonEvent}
    (h : ReassemblyStep fresh s (e, es) t) (h' : ReassemblyStep fresh s (e, es') t') :
    t = t' ∧ es = es' := by
  cases h with
  | frame hd =>
    cases h' with
    | frame hd' =>
      obtain ⟨rfl, rfl⟩ := hd.functional hd'
      exact ⟨rfl, rfl⟩
  | request _ _ _ | clientState _ _ => cases h'; exact ⟨rfl, rfl⟩

/-- What the frames of packets, with other events between them, stand for. -/
theorem responds_frames (h : ∀ p ∈ packets, Sendable p) {others received : List DaemonEvent}
    (hothers : ∀ f, .frame f ∈ others → f.cmd ≠ fifoPktFifoInternal)
    (hreceived : Interleave ((packets.flatMap waveIpcSend).map .frame) others received) (s : Reassembly) :
    ∃ whole t, Interleave ((packets.filter fun p => ¬LostInFrames p).map .frame) others whole ∧
      Responds (ReassemblyStep fresh) s received whole t := by
  obtain ⟨tr, t, hrun, hin, hout⟩ := run_allFrames fresh h s
  have hother : others = (others.map fun e => (e, [e])).map Prod.fst := by
    rw [List.map_map]
    exact (List.map_id others).symm
  rw [← hin, ← inputs_frameEvents, hother] at hreceived
  obtain ⟨marks, rfl, hmarks⟩ := hreceived.exists_of_map
  refine ⟨outputs marks, t, ?_, marks, hmarks.run (fun a ha u => ?_) (run_frameEvents hrun), rfl, rfl⟩
  · have hwhole := hmarks.flatMap Prod.snd
    have hleft : (tr.map frameEvent).flatMap Prod.snd =
        (packets.filter fun p => ¬LostInFrames p).map .frame := by
      rw [← outputs, outputs_frameEvents, hout, deliveredEvents_deliver]
    have hright : (others.map fun e => (e, [e])).flatMap Prod.snd = others := by
      rw [List.flatMap_map]
      exact List.flatMap_singleton' others
    rwa [hleft, hright] at hwhole
  · obtain ⟨e, he, rfl⟩ := List.mem_map.mp ha
    exact reassemblyStep_other u fun f hf => hothers f (hf ▸ he)

end Frames

/-- **How packets are cut makes no difference.** The packets are cut into frames, and anything that is no
part of a packet may come between them. Then the daemon can do exactly what the daemon that gets whole
packets can do with those that are not lost, in their order, and with the rest between them. -/
theorem daemon_frames {fresh : ℕ → UInt8} {packets : List ModemIo} (hpackets : ∀ p ∈ packets, Sendable p)
    {others received : List DaemonEvent} (hothers : ∀ f, .frame f ∈ others → f.cmd ≠ fifoPktFifoInternal)
    (h : Interleave ((packets.flatMap waveIpcSend).map .frame) others received)
    (s : Reassembly × DaemonData) :
    ∃ whole, Interleave ((packets.filter fun p => ¬LostInFrames p).map .frame) others whole ∧
      ∀ out data, (∃ r, Responds (DaemonStep fresh) s received out (r, data)) ↔
        Responds PacketStep s.2 whole out data := by
  obtain ⟨whole, t, hwhole, hfront⟩ := responds_frames hpackets hothers h s.1
  refine ⟨whole, hwhole, fun out data => ⟨?_, fun hback => ?_⟩⟩
  · rintro ⟨r, hresponds⟩
    exact ((responds_cascade_of_front (fun _ _ _ _ _ _ => ReassemblyStep.functional) hfront).mp hresponds).2
  · exact ⟨t, responds_cascade_iff.mpr ⟨whole, hfront, hback⟩⟩

/-- A request between the frames of a long packet. -/
theorem daemon_frames_request :
    let p := zeroPacket 5000 (by decide)
    let request : DaemonEvent := .request .basebandVersion ⟨5, by decide⟩
    let frames := (waveIpcSend p).map DaemonEvent.frame
    let s := daemonInit 1 .created
    ∃ whole, Interleave (([p].filter fun p => ¬LostInFrames p).map .frame) [request] whole ∧
      ∀ out data, (∃ r, Responds (DaemonStep fun _ => 0) s
          (frames.take 1 ++ request :: frames.drop 1) out (r, data)) ↔
        Responds PacketStep s.2 whole out data := by
  intro p request frames s
  have hp : ∀ q ∈ [p], Sendable q := by
    intro q hq
    obtain rfl := List.mem_singleton.mp hq
    exact ⟨rfl, show fifoPktTapi ≠ fifoPktFifoInternal by decide, by decide⟩
  have hframes : ([p].flatMap waveIpcSend).map DaemonEvent.frame = frames.take 1 ++ frames.drop 1 := by
    rw [List.take_append_drop, List.flatMap_singleton]
  have hrest : Interleave (frames.drop 1) [] (frames.drop 1) := by
    simpa using Interleave.append_left .nil (frames.drop 1)
  refine daemon_frames hp (fun f hf => ?_) ?_ s
  · have hne : DaemonEvent.frame f ≠ .request .basebandVersion ⟨5, by decide⟩ := nofun
    exact absurd (List.mem_singleton.mp hf) hne
  · rw [hframes]
    exact (hrest.right request).append_left (frames.take 1)

end Mocha.Ril
