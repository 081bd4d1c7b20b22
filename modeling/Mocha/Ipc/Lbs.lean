import Mocha.Ipc.Frame
import Mocha.Lib.Run

/-! Location requests to the modem (`mocha-ipc/lbs.c`, `include/lbs.h`). All packets but the large ones
are put together in one static buffer, which keeps what earlier packets have left in it. `malloc` is
taken to succeed. -/
namespace Mocha.Ipc
open Mocha.Lib

/-- `struct lbsPacketHeader`: 12 bytes. -/
structure LbsPacketHeader where
  type : UInt32
  size : UInt32
  subType : UInt32
deriving DecidableEq

def LbsPacketHeader.toBytes (h : LbsPacketHeader) : List UInt8 :=
  leBytes 4 h.type.toNat ++ leBytes 4 h.size.toNat ++ leBytes 4 h.subType.toNat

theorem LbsPacketHeader.toBytes_length (h : LbsPacketHeader) : h.toBytes.length = 12 := by
  simp [toBytes]

/-- `uint8_t lbsSendBuf[0x100C]`, at the start of the program. -/
def lbsSendBuf : Block := ⟨List.replicate 0x100C 0x00, true⟩

/-- The `datasize` of the packets of a type; there is none for an unknown type. -/
def lbsDatasize (type : UInt32) : Option UInt32 :=
  if type ≤ 6 ∨ (21 ≤ type ∧ type ≤ 30) then some 0x100C
  else if (7 ≤ type ∧ type ≤ 12) ∨ (31 ≤ type ∧ type ≤ 35) then some 0x81C
  else if (13 ≤ type ∧ type ≤ 14) ∨ (16 ≤ type ∧ type ≤ 18) ∨ (36 ≤ type ∧ type ≤ 39) then some 0x3C
  else if type = 15 then some 0xA014
  else if type = 19 ∨ type = 20 then some 0xDC
  else none

/-- A call of `lbs_send_packet`: what it is given, and what can be read at `buf`. -/
structure LbsCall where
  type : UInt32
  size : UInt32
  subType : UInt32
  buf : List UInt8
  buf_length : buf.length = size.toNat

def LbsCall.header (c : LbsCall) : LbsPacketHeader := ⟨c.type, c.size, c.subType⟩

/-- `lbs_send_packet`: the static buffer, and the packets that are handed to `ipc_send`. The header goes
to the static buffer, also where `sendBuf` is another one. -/
def lbsSendPacket (fresh : ℕ → UInt8) (lbsSendBuf : Block) (c : LbsCall) :
    Option (Block × List ModemIo) :=
  match lbsDatasize c.type with
  | none => some (lbsSendBuf, [])
  | some datasize =>
    if datasize - 12 < c.size then some (lbsSendBuf, [])
    else do
      let lbsSendBuf ← lbsSendBuf.memcpy 0 c.header.toBytes
      let payload ← Block.read ⟨c.buf, true⟩ 0 c.size.toNat
      if c.type = 15 then
        let sendBuf ← (Block.malloc fresh 0xA014).memcpy 12 payload
        let pkt ← modemPacket fifoPktLbs datasize sendBuf
        return (lbsSendBuf, [pkt])
      else
        let sendBuf ← lbsSendBuf.memcpy 12 payload
        let pkt ← modemPacket fifoPktLbs datasize sendBuf
        return (sendBuf, [pkt])

/-- `lbs_send_packet` does not reject the call. -/
def LbsCall.Accepted (c : LbsCall) : Prop :=
  ∃ datasize, lbsDatasize c.type = some datasize ∧ c.size ≤ datasize - 12

/-- The calls with what they send, whatever `malloc` returns. -/
def lbsStep : Step Block (LbsCall × List ModemIo) :=
  fun lbsSendBuf a lbsSendBuf' => ∃ fresh, lbsSendPacket fresh lbsSendBuf a.1 = some (lbsSendBuf', a.2)

/-- One packet is sent for a call that is accepted, which starts with the header and the payload; none is
for one that is rejected. -/
structure SendsLbsPacket (c : LbsCall) (sent : List ModemIo) : Prop where
  accepted : c.Accepted → ∃ pkt rest, sent = [pkt] ∧ pkt.magic = frameMagic ∧ pkt.cmd = fifoPktLbs ∧
    pkt.data = c.header.toBytes ++ c.buf ++ rest
  rejected : ¬c.Accepted → sent = []

/-- Whatever `malloc` returns, the call does that. -/
def SendsWhole (lbsSendBuf : Block) (c : LbsCall) : Prop :=
  ∀ fresh, ∃ lbsSendBuf' sent, lbsSendPacket fresh lbsSendBuf c = some (lbsSendBuf', sent) ∧
    SendsLbsPacket c sent

/-- The static buffer is there, with all of its bytes. -/
def StaticBuffer (b : Block) : Prop := b.live ∧ b.bytes.length = 0x100C

section Packet

variable {b : Block} {c : LbsCall} {datasize : UInt32}

theorem lbsDatasize_eq_some (h : lbsDatasize c.type = some datasize) :
    c.type = 15 ∧ datasize = 0xA014 ∨ c.type ≠ 15 ∧ 12 ≤ datasize.toNat ∧ datasize.toNat ≤ 0x100C := by
  by_cases hlarge : c.type = 15
  · left
    rw [hlarge] at h
    exact ⟨hlarge, (Option.some.inj h).symm⟩
  · right
    refine ⟨hlarge, ?_⟩
    unfold lbsDatasize at h
    split_ifs at h <;> obtain rfl := Option.some.inj h <;> decide

/-- The space behind the header. -/
theorem accepted_iff (h : lbsDatasize c.type = some datasize) :
    c.Accepted ↔ 12 + c.size.toNat ≤ datasize.toNat := by
  have hroom : 12 ≤ datasize.toNat := by
    rcases lbsDatasize_eq_some h with ⟨-, rfl⟩ | ⟨-, hroom, -⟩
    · decide
    · exact hroom
  have hsub : (datasize - 12).toNat = datasize.toNat - 12 :=
    UInt32.toNat_sub_of_le datasize 12 (UInt32.le_iff_toNat_le.mpr hroom)
  have hsize : c.size ≤ datasize - 12 ↔ 12 + c.size.toNat ≤ datasize.toNat := by
    rw [UInt32.le_iff_toNat_le, hsub]
    omega
  rw [← hsize]
  constructor
  · rintro ⟨datasize', h', hle⟩
    obtain rfl := Option.some.inj (h.symm.trans h')
    exact hle
  · intro hle
    exact ⟨datasize, h, hle⟩

theorem read_buf (c : LbsCall) : Block.read ⟨c.buf, true⟩ 0 c.size.toNat = some c.buf := by
  rw [Block.read_eq rfl (by rw [Nat.zero_add, c.buf_length]), List.drop_zero, ← c.buf_length,
    List.take_length]

/-- The header in the static buffer. -/
theorem memcpy_header (hb : StaticBuffer b) (c : LbsCall) : b.memcpy 0 c.header.toBytes =
    some ⟨c.header.toBytes ++ b.bytes.drop 12, true⟩ := by
  obtain ⟨hlive, hlength⟩ := hb
  have hheader := c.header.toBytes_length
  have hb : b = ⟨[] ++ b.bytes, true⟩ := by rw [List.nil_append, ← hlive]
  have hfits : c.header.toBytes.length ≤ b.bytes.length := by omega
  rw [hb]
  exact (Block.memcpy_behind [] hfits).trans (by rw [hheader]; rfl)

/-- A call that is rejected changes nothing, and one of an unknown type is as well. -/
theorem lbsSendPacket_rejected (fresh : ℕ → UInt8) (b : Block) (h : ¬c.Accepted) :
    lbsSendPacket fresh b c = some (b, []) := by
  unfold lbsSendPacket
  cases hdatasize : lbsDatasize c.type with
  | none => rfl
  | some datasize =>
    have hlarge : datasize - 12 < c.size := by
      rw [← UInt32.not_le]
      exact fun hle => h ⟨datasize, hdatasize, hle⟩
    exact if_pos hlarge

/-- In the static buffer the payload comes to stand behind the header. -/
theorem lbsSendPacket_static (fresh : ℕ → UInt8) (hb : StaticBuffer b) (h : c.Accepted)
    (htype : c.type ≠ 15) : ∃ b' pkt rest, lbsSendPacket fresh b c = some (b', [pkt]) ∧
      StaticBuffer b' ∧ pkt.magic = frameMagic ∧ pkt.cmd = fifoPktLbs ∧
        pkt.data = c.header.toBytes ++ c.buf ++ rest := by
  obtain ⟨datasize, hdatasize, hle⟩ := h
  have hfits := (accepted_iff hdatasize).mp ⟨datasize, hdatasize, hle⟩
  have hmax : datasize.toNat ≤ 0x100C := by
    rcases lbsDatasize_eq_some hdatasize with ⟨hlarge, -⟩ | ⟨-, -, hmax⟩
    · exact absurd hlarge htype
    · exact hmax
  have hheader := c.header.toBytes_length
  have hbuf := c.buf_length
  have hdrop : (b.bytes.drop 12).length = 0x1000 := by rw [List.length_drop, hb.2]
  have hroom : c.buf.length ≤ (b.bytes.drop 12).length := by omega
  have hpayload := Block.memcpy_behind c.header.toBytes hroom
  rw [hheader, ← List.append_assoc] at hpayload
  let rest := (b.bytes.drop 12).drop c.buf.length
  have hlength : (c.header.toBytes ++ c.buf ++ rest).length = 0x100C := by
    rw [List.length_append, List.length_append, List.length_drop, hheader, hdrop]
    omega
  have hlive : (⟨c.header.toBytes ++ c.buf ++ rest, true⟩ : Block).live := rfl
  obtain ⟨pkt, hpkt, hmagic, hcmd, -, hdata⟩ :=
    modemPacket_eq fifoPktLbs _ _ hlive (hmax.trans hlength.ge)
  refine ⟨_, pkt, rest.take (datasize.toNat - (12 + c.size.toNat)), ?_, ⟨hlive, hlength⟩, hmagic, hcmd, ?_⟩
  · unfold lbsSendPacket
    rw [hdatasize]
    dsimp only
    rw [if_neg (UInt32.not_lt.mpr hle), memcpy_header hb, read_buf, Option.bind_eq_bind,
      Option.bind_some, Option.bind_eq_bind, Option.bind_some, if_neg htype, hpayload,
      Option.bind_eq_bind, Option.bind_some]
    exact congrArg (Option.bind · _) hpkt
  · have htext : (c.header.toBytes ++ c.buf).length = 12 + c.size.toNat := by
      rw [List.length_append, hheader, hbuf]
    rw [hdata, List.take_append, htext, List.take_of_length_le (htext.trans_le hfits)]

/-- In front of a large payload there is what `malloc` has returned; the header is in the static
buffer. -/
theorem lbsSendPacket_large (fresh : ℕ → UInt8) (hb : StaticBuffer b) (h : c.Accepted)
    (htype : c.type = 15) : ∃ b' pkt, lbsSendPacket fresh b c = some (b', [pkt]) ∧ StaticBuffer b' ∧
      pkt.data.take 12 = (List.range 12).map fresh := by
  obtain ⟨datasize, hdatasize, hle⟩ := h
  have hfits := (accepted_iff hdatasize).mp ⟨datasize, hdatasize, hle⟩
  have hsize : datasize.toNat = 0xA014 := by
    rcases lbsDatasize_eq_some hdatasize with ⟨-, rfl⟩ | ⟨hne, -⟩
    · rfl
    · exact absurd htype hne
  have hheader := c.header.toBytes_length
  have hbuf := c.buf_length
  have hmalloc : Block.malloc fresh 0xA014 =
      ⟨(List.range 12).map fresh ++ (List.range 0xA008).map fun i => fresh (12 + i), true⟩ := by
    rw [Block.malloc, show 0xA014 = 12 + 0xA008 from rfl, List.range_add, List.map_append,
      List.map_map]
    rfl
  have hfirst : ((List.range 12).map fresh).length = 12 := by rw [List.length_map, List.length_range]
  have hroom : c.buf.length ≤ ((List.range 0xA008).map fun i => fresh (12 + i)).length := by
    rw [List.length_map, List.length_range]
    omega
  have hpayload := Block.memcpy_behind ((List.range 12).map fresh) hroom
  rw [hfirst, ← hmalloc] at hpayload
  let sendBuf : Block := ⟨(List.range 12).map fresh ++
    (c.buf ++ ((List.range 0xA008).map fun i => fresh (12 + i)).drop c.buf.length), true⟩
  have hlength : sendBuf.bytes.length = 0xA014 := by
    rw [List.length_append, List.length_append, List.length_drop, hfirst, List.length_map,
      List.length_range]
    omega
  have hlive : sendBuf.live := rfl
  obtain ⟨pkt, hpkt, -, -, -, hdata⟩ :=
    modemPacket_eq fifoPktLbs datasize _ hlive (hsize.trans hlength.symm).le
  have hstatic : StaticBuffer ⟨c.header.toBytes ++ b.bytes.drop 12, true⟩ := by
    refine ⟨rfl, ?_⟩
    rw [List.length_append, hheader, List.length_drop, hb.2]
  refine ⟨_, pkt, ?_, hstatic, ?_⟩
  · unfold lbsSendPacket
    rw [hdatasize]
    dsimp only
    rw [if_neg (UInt32.not_lt.mpr hle), memcpy_header hb, read_buf, Option.bind_eq_bind,
      Option.bind_some, Option.bind_eq_bind, Option.bind_some, if_pos htype, hpayload,
      Option.bind_eq_bind, Option.bind_some]
    exact congrArg (Option.bind · _) hpkt
  · rw [hdata, hsize, List.take_take, Nat.min_eq_left (by decide)]
    exact List.take_left' hfirst

end Packet

section Run

variable {b b' : Block} {c : LbsCall} {tr : List (LbsCall × List ModemIo)}

/-- Every call leaves the static buffer with all of its bytes. -/
theorem StaticBuffer.step {a : LbsCall × List ModemIo} (hb : StaticBuffer b) (hstep : lbsStep b a b') :
    StaticBuffer b' := by
  obtain ⟨fresh, hcall⟩ := hstep
  by_cases haccepted : a.1.Accepted
  · by_cases htype : a.1.type = 15
    · obtain ⟨b'', pkt, hsend, hb'', -⟩ := lbsSendPacket_large fresh hb haccepted htype
      obtain rfl := (Prod.mk.inj (Option.some.inj (hsend.symm.trans hcall))).1
      exact hb''
    · obtain ⟨b'', pkt, rest, hsend, hb'', -⟩ := lbsSendPacket_static fresh hb haccepted htype
      obtain rfl := (Prod.mk.inj (Option.some.inj (hsend.symm.trans hcall))).1
      exact hb''
  · have hsend := lbsSendPacket_rejected fresh b haccepted
    obtain rfl := (Prod.mk.inj (Option.some.inj (hsend.symm.trans hcall))).1
    exact hb

/-- The bytes of a header for a large packet are not the zeros that `malloc` may return. -/
theorem header_ne_zeros (h : LbsPacketHeader) (htype : h.type = 15) :
    h.toBytes ≠ (List.range 12).map fun _ => 0x00 := by
  intro heq
  have hword : leBytes 4 (15 : UInt32).toNat = [15, 0, 0, 0] := by decide
  rw [LbsPacketHeader.toBytes, htype, hword] at heq
  exact absurd (List.cons.inj heq).1 (by decide)

theorem not_sendsWhole_of_large (hb : StaticBuffer b) (htype : c.type = 15) (haccepted : c.Accepted) :
    ¬SendsWhole b c := by
  intro hwhole
  obtain ⟨b', sent, hcall, hsends⟩ := hwhole fun _ => 0x00
  obtain ⟨b'', pkt, hsend, -, hzeros⟩ := lbsSendPacket_large (fun _ => 0x00) hb haccepted htype
  obtain ⟨pkt', rest, rfl, -, -, hdata⟩ := hsends.accepted haccepted
  obtain rfl : pkt = pkt' := by
    have hsent := (Prod.mk.inj (Option.some.inj (hsend.symm.trans hcall))).2
    exact List.singleton_inj.mp hsent
  rw [hdata, List.append_assoc, List.take_left' c.header.toBytes_length] at hzeros
  exact header_ne_zeros c.header htype hzeros

theorem lbsSendBuf_static : StaticBuffer lbsSendBuf := ⟨rfl, List.length_replicate⟩

/-- **A location request** arrives whole after any earlier requests, unless it is a large packet that is
sent. -/
theorem sendsWhole_iff (hrun : Run lbsStep lbsSendBuf tr b) (c : LbsCall) :
    SendsWhole b c ↔ ¬(c.type = 15 ∧ c.Accepted) := by
  have hb : StaticBuffer b :=
    hrun.invariant StaticBuffer (fun _ _ _ hb hstep => hb.step hstep) lbsSendBuf_static
  constructor
  · rintro hwhole ⟨htype, haccepted⟩
    exact not_sendsWhole_of_large hb htype haccepted hwhole
  · intro hcond fresh
    by_cases haccepted : c.Accepted
    · have htype : c.type ≠ 15 := fun htype => hcond ⟨htype, haccepted⟩
      obtain ⟨b', pkt, rest, hsend, -, hpkt⟩ := lbsSendPacket_static fresh hb haccepted htype
      exact ⟨b', [pkt], hsend, fun _ => ⟨pkt, rest, rfl, hpkt⟩, fun h => absurd haccepted h⟩
    · exact ⟨b, [], lbsSendPacket_rejected fresh b haccepted, fun h => absurd h haccepted, fun _ => rfl⟩

/-- `lbs_send_init(1)`, a second time. -/
theorem sendsWhole_initAgain :
    let c : LbsCall := ⟨0, 4, 1, [1, 0, 0, 0], rfl⟩
    ∃ b pkt, Run lbsStep lbsSendBuf [(c, [pkt])] b ∧ SendsWhole b c := by
  intro c
  have haccepted : c.Accepted := ⟨0x100C, rfl, by decide⟩
  obtain ⟨b, pkt, rest, hsend, -, -⟩ :=
    lbsSendPacket_static (fun _ => 0) lbsSendBuf_static haccepted (by decide)
  have hstep : lbsStep lbsSendBuf (c, [pkt]) b := ⟨fun _ => 0, hsend⟩
  exact ⟨b, pkt, .one hstep, (sendsWhole_iff (.one hstep) c).mpr fun h => absurd h.1 (by decide)⟩

/-- A large packet without a payload. -/
theorem not_sendsWhole_large : ¬∀ (tr : List (LbsCall × List ModemIo)) (b : Block) (c : LbsCall),
    Run lbsStep lbsSendBuf tr b → c.type ≤ 39 → SendsWhole b c := by
  intro h
  have haccepted : LbsCall.Accepted ⟨15, 0, 1, [], rfl⟩ := ⟨0xA014, rfl, by decide⟩
  exact not_sendsWhole_of_large lbsSendBuf_static rfl haccepted (h [] lbsSendBuf _ .nil (by decide))

end Run

end Mocha.Ipc
