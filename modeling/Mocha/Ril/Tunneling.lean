import Mathlib.Data.Vector.Basic
import Mocha.Ipc.Proto
import Mocha.Ril.Gprs

/-! The network frames that the tunnel of a data connection gets (`gprs_tunneling_thread` of `gprs.c`),
and the packets the modem is sent for them. -/
namespace Mocha.Ril
open Mocha.Lib Mocha.Ipc

/-- `PROTO_TYPES` -/
def ProtoType.value : ProtoType → UInt16
  | .none => 0
  | .ip => 1
  | .ppp => 2

/-- One turn of the loop: the connection, whether `select` reports its tunnel, what `read` returns, and
the buffer after that. -/
structure TunnelingRound where
  gprsConnection : RilGprsConnection
  isset : Bool
  n : Int32
  buf : List.Vector UInt8 1500
  n_bounds : -1 ≤ n.toInt ∧ n.toInt ≤ 1500

/-- The thread has not been told to stop. -/
def TunnelingRound.goesOn (r : TunnelingRound) : Bool := r.gprsConnection.threadState ≠ 2

/-- A turn of the loop; `fresh` is what `malloc` returns. -/
def tunnelingRound (fresh : Fin 2 → ℕ → UInt8) (r : TunnelingRound) : Option (List ModemIo) :=
  if r.goesOn ∧ r.isset then do
    let packet ← protoSendData fresh protoOpmodePs r.gprsConnection.type.value r.gprsConnection.contextId
      r.n.toUInt32 ⟨r.buf.toList, true⟩
    return [packet]
  else some []

/-- `gprs_tunneling_thread`: the packets of all turns up to the one that ends it. -/
def gprsTunnelingThread (fresh : Fin 2 → ℕ → UInt8) : List TunnelingRound → Option (List ModemIo)
  | [] => some []
  | r :: rs => do
    let sent ← tunnelingRound fresh r
    if r.goesOn then return sent ++ (← gprsTunnelingThread fresh rs) else return sent

/-- The packet is one of PROTO, and the frame that was read is in it. -/
structure CarriesFrame (packet : ModemIo) (r : TunnelingRound) : Prop where
  cmd : packet.cmd = fifoPktProto
  type : (ProtoPacketHeader.ofBytes packet.data).type = protoPacketSendData
  len : ((ProtoPacketHeader.ofBytes packet.data).len.toNat : ℤ) = 12 + r.n.toInt
  protoType : (ProtoTransferDataBuf.ofBytes (packet.data.drop 4)).protoType = r.gprsConnection.type.value
  contextId : (ProtoTransferDataBuf.ofBytes (packet.data.drop 4)).contextId = r.gprsConnection.contextId
  netBufLen : ((ProtoTransferDataBuf.ofBytes (packet.data.drop 4)).netBufLen.toNat : ℤ) = r.n.toInt
  netBuf : packet.data.drop 16 = r.buf.toList.take r.n.toInt.toNat

/-- The turns in which `read` is called. -/
def tunnelingReads (rs : List TunnelingRound) : List TunnelingRound :=
  (rs.takeWhile (·.goesOn)).filter (·.isset)

/-- Nothing is sent, or the frame that was read. -/
def SendsFrame (fresh : Fin 2 → ℕ → UInt8) (r : TunnelingRound) : Prop :=
  ∃ sent, tunnelingRound fresh r = some sent ∧
    (sent = [] ∨ ∃ packet, sent = [packet] ∧ CarriesFrame packet r)

section Round

variable {fresh : Fin 2 → ℕ → UInt8} {r : TunnelingRound}

/-- The number of the bytes that were read, as the functions behind `read` get it. -/
theorem toNat_n (h : 0 ≤ r.n.toInt) : (r.n.toUInt32.toNat : ℤ) = r.n.toInt := by
  have hint : r.n.toInt = if 2 * r.n.toUInt32.toNat < 2 ^ 32 then (r.n.toUInt32.toNat : ℤ)
      else r.n.toUInt32.toNat - 2 ^ 32 := BitVec.toInt_eq_toNat_cond r.n.toBitVec
  have hlt := r.n.toUInt32.toNat_lt
  split_ifs at hint <;> omega

/-- A frame that has been read is sent. -/
theorem tunnelingRound_sends (fresh : Fin 2 → ℕ → UInt8) (hreads : r.goesOn ∧ r.isset)
    (hn : 0 ≤ r.n.toInt) : ∃ packet, tunnelingRound fresh r = some [packet] ∧ CarriesFrame packet r := by
  have hbounds := r.n_bounds
  have hnat := toNat_n hn
  obtain ⟨packet, hpacket, -, hcmd, hdata⟩ := protoSendData_eq fresh protoOpmodePs
    r.gprsConnection.type.value r.gprsConnection.contextId r.n.toUInt32
    ⟨r.buf.toList, true⟩ rfl (by rw [r.buf.toList_length]; omega) (by omega)
  refine ⟨packet, ?_, ?_⟩
  · unfold tunnelingRound
    rw [if_pos hreads, hpacket]
    rfl
  · let header : ProtoPacketHeader := ⟨protoPacketSendData, UInt16.ofNat (12 + r.n.toUInt32.toNat)⟩
    let transfer : ProtoTransferDataBuf :=
      ⟨protoOpmodePs, r.gprsConnection.type.value, r.gprsConnection.contextId, r.n.toUInt32⟩
    have hheader : ProtoPacketHeader.ofBytes packet.data = header := by
      rw [hdata]
      exact header.ofBytes_toBytes _
    have hrest : packet.data.drop 4 = transfer.toBytes ++ r.buf.toList.take r.n.toUInt32.toNat := by
      rw [hdata]
      exact List.drop_left' (ProtoPacketHeader.toBytes_length _)
    have htransfer : ProtoTransferDataBuf.ofBytes (packet.data.drop 4) = transfer := by
      rw [hrest]
      exact transfer.ofBytes_toBytes _
    have hlen : header.len.toNat = 12 + r.n.toUInt32.toNat :=
      UInt16.toNat_ofNat_of_lt' (by omega : 12 + r.n.toUInt32.toNat < 2 ^ 16)
    refine ⟨hcmd, congrArg _ hheader, ?_, congrArg _ htransfer, congrArg _ htransfer, ?_, ?_⟩
    · rw [hheader, hlen]
      push_cast
      rw [hnat]
    · rw [htransfer]
      exact hnat
    · rw [show (16 : ℕ) = 4 + 12 from rfl, ← List.drop_drop, hrest,
        List.drop_left' transfer.toBytes_length, ← hnat, Int.toNat_natCast]

/-- A failed `read` has no frame, but its result is a length all the same. -/
theorem tunnelingRound_failed (fresh : Fin 2 → ℕ → UInt8) (hreads : r.goesOn ∧ r.isset)
    (hn : r.n = -1) : tunnelingRound fresh r = none := by
  have hsize : (12 + r.n.toUInt32).toNat < 12 := by
    rw [hn]
    decide
  unfold tunnelingRound
  rw [if_pos hreads, protoSendData_eq_none _ _ _ _ _ hsize]
  rfl

theorem n_nonneg (hn : r.n ≠ -1) : 0 ≤ r.n.toInt := by
  have hbounds := r.n_bounds
  by_contra hneg
  refine hn (Int32.toInt_inj.mp ?_)
  change r.n.toInt = -1
  omega

/-- **The frames of the tunnel** are sent as they are, if `read` does not fail. -/
theorem sendsFrame_iff (fresh : Fin 2 → ℕ → UInt8) (r : TunnelingRound) :
    SendsFrame fresh r ↔ ¬((r.goesOn ∧ r.isset) ∧ r.n = -1) := by
  constructor
  · rintro ⟨sent, hsent, -⟩ ⟨hreads, hn⟩
    rw [tunnelingRound_failed fresh hreads hn] at hsent
    exact nomatch hsent
  · intro h
    by_cases hreads : r.goesOn ∧ r.isset
    · obtain ⟨packet, hpacket, hcarries⟩ :=
        tunnelingRound_sends fresh hreads (n_nonneg fun hn => h ⟨hreads, hn⟩)
      exact ⟨[packet], hpacket, .inr ⟨packet, rfl, hcarries⟩⟩
    · exact ⟨[], if_neg hreads, .inl rfl⟩

/-- A `read` that fails. -/
theorem not_sendsFrame_failed : ¬SendsFrame (fun _ _ => 0)
    ⟨{ RilGprsConnection.alloc 1 with threadState := 1 }, true, -1, List.Vector.replicate 1500 0,
      by decide⟩ := by
  rintro ⟨sent, hsent, -⟩
  rw [tunnelingRound_failed _ (by decide) rfl] at hsent
  exact nomatch hsent

/-- **The thread** sends what it reads, one packet for a frame, and goes on for as long as `read` does not
fail. -/
theorem gprsTunnelingThread_iff (fresh : Fin 2 → ℕ → UInt8) (rs : List TunnelingRound) :
    (∃ sent, gprsTunnelingThread fresh rs = some sent ∧
      List.Forall₂ CarriesFrame sent (tunnelingReads rs)) ↔ ∀ r ∈ tunnelingReads rs, r.n ≠ -1 := by
  induction rs with
  | nil => exact ⟨fun _ r hr => absurd hr List.not_mem_nil, fun _ => ⟨[], rfl, .nil⟩⟩
  | cons r rs ih =>
    cases hgoesOn : r.goesOn with
    | false =>
      have hround : tunnelingRound fresh r = some [] := if_neg (by simp [hgoesOn])
      simp [tunnelingReads, gprsTunnelingThread, hgoesOn, hround]
    | true =>
      cases hisset : r.isset with
      | false =>
        have hround : tunnelingRound fresh r = some [] := if_neg (by simp [hisset])
        have hreads : tunnelingReads (r :: rs) = tunnelingReads rs := by
          simp [tunnelingReads, hgoesOn, hisset]
        rw [hreads, ← ih]
        simp [gprsTunnelingThread, hgoesOn, hround]
      | true =>
        have hreads : tunnelingReads (r :: rs) = r :: tunnelingReads rs := by
          simp [tunnelingReads, hgoesOn, hisset]
        rw [hreads, List.forall_mem_cons, ← ih]
        by_cases hn : r.n = -1
        · have hround := tunnelingRound_failed fresh ⟨hgoesOn, hisset⟩ hn
          simp [gprsTunnelingThread, hround, hn]
        · obtain ⟨packet, hround, hcarries⟩ := tunnelingRound_sends fresh ⟨hgoesOn, hisset⟩
            (n_nonneg hn)
          have hthread : gprsTunnelingThread fresh (r :: rs) =
              (gprsTunnelingThread fresh rs).map (packet :: ·) := by
            rw [gprsTunnelingThread, hround, Option.map_eq_bind]
            simp [hgoesOn]
          rw [hthread]
          constructor
          · rintro ⟨sent, hsent, hall⟩
            obtain ⟨rest, hrest, rfl⟩ := Option.map_eq_some_iff.mp hsent
            exact ⟨hn, rest, hrest, (List.forall₂_cons.mp hall).2⟩
          · rintro ⟨-, rest, hrest, hall⟩
            exact ⟨packet :: rest, by rw [hrest]; rfl, .cons hcarries hall⟩

end Round

end Mocha.Ril
