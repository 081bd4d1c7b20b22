import Mocha.Lib.Packed
import Mocha.Ril.GprsChange
import Mocha.Ril.Tunneling

/-! The packet START_NETWORK of `ril_request_setup_data_call` (`gprs.c`, `proto_start_network` of
`proto.c`), for strings of any length. `calloc` gives its structure. -/
namespace Mocha.Ril
open Mocha.Lib Mocha.Ipc

/-- A loop over the characters of a string, which does not copy the terminator. -/
def copyChars : CString → ℕ → Block → Option Block
  | [], _, b => some b
  | c :: cs, pos, b => (b.memcpy pos [c]).bind (copyChars cs (pos + 1))

/-- The widths of the members of `protoStartNetwork`. -/
def protoStartNetworkWidths : List ℕ :=
  [2, 2, 65, 65, 4, 4, 4, 4, 4, 4, 4, 4, 4, 4, 4, 4, 16, 4, 42, 1, 45, 45]

/-- `sizeof(protoStartNetwork)` -/
def sizeofProtoStartNetwork : ℕ := 335

/-- The structure as `ril_request_setup_data_call` fills it, by the offsets of its members. -/
def ProtoStartNetwork.fill (r : ProtoStartNetwork) : Option Block := do
  let startNetwork := Block.calloc sizeofProtoStartNetwork
  let startNetwork ← startNetwork.memcpy 0 (leBytes 2 r.opMode.toNat)
  let startNetwork ← startNetwork.memcpy 2 (leBytes 2 r.protoType.value.toNat)
  let startNetwork ← copyChars r.napAddr 4 startNetwork
  let startNetwork ← startNetwork.memcpy 134 (leBytes 4 r.preferredAccountHandle.toNat)
  let startNetwork ← startNetwork.memcpy 146 (leBytes 4 r.localAddr.toNat)
  let startNetwork ← startNetwork.memcpy 158 (leBytes 4 r.dnsAddr1.toNat)
  let startNetwork ← startNetwork.memcpy 166 (leBytes 4 r.dnsAddr2.toNat)
  let startNetwork ← copyChars r.userId 245 startNetwork
  copyChars r.userPasswd 290 startNetwork

/-- `proto_start_network` -/
def protoStartNetwork (fresh : ℕ → UInt8) (startNetwork : Block) : Option ModemIo :=
  protoSendPacket fresh ⟨protoPacketStartNetwork, UInt16.ofNat sizeofProtoStartNetwork⟩ startNetwork

/-- The members of `protoStartNetwork` in their order; a string has zeros behind it, and there are only
zeros where nothing is given. -/
def ProtoStartNetwork.members (r : ProtoStartNetwork) : List (List UInt8) :=
  List.zipWith Block.padTo protoStartNetworkWidths
    [leBytes 2 r.opMode.toNat,
      leBytes 2 r.protoType.value.toNat,
      r.napAddr,
      [], -- dialNumber
      leBytes 4 r.preferredAccountHandle.toNat,
      [], [], -- bStaticIpAddr, bValidLocalAddr
      leBytes 4 r.localAddr.toNat,
      [], [], -- bStaticDnsAddr, bValidDnsAddr1
      leBytes 4 r.dnsAddr1.toNat,
      [], -- bValidDnsAddr2
      leBytes 4 r.dnsAddr2.toNat,
      [], [], [], -- unknown1, bHasPreferredAccount, serviceOption
      [], [], [], [], -- unknown2, trafficClass, unknown3, authType
      r.userId,
      r.userPasswd]

/-- The strings fit into their members, with the terminators. -/
structure ProtoStartNetwork.Fits (r : ProtoStartNetwork) : Prop where
  napAddr : r.napAddr.length < 65
  userId : r.userId.length < 45
  userPasswd : r.userPasswd.length < 45

/-- What the request asks the modem for. -/
def SetupDataCall.startNetwork (d : SetupDataCall) : ProtoStartNetwork where
  opMode := protoOpmodePs
  protoType := dataCallTypeToProtoType d.type
  napAddr := d.apn.getD []
  preferredAccountHandle := 0x21
  localAddr := 0xFFFFFFFF
  dnsAddr1 := 0xFFFFFFFF
  dnsAddr2 := 0xFFFFFFFF
  userId := d.username.getD []
  userPasswd := d.password.getD []

def GprsEffect.startNetwork? : GprsEffect → Option ProtoStartNetwork
  | .protoStartNetwork r => some r
  | _ => none

/-- The packets START_NETWORK that are sent; none where a write is outside the structure. -/
def startNetworkPackets (fresh : ℕ → UInt8) (out : List GprsEffect) : Option (List ModemIo) :=
  (out.filterMap GprsEffect.startNetwork?).mapM fun r => r.fill.bind (protoStartNetwork fresh)

/-- The bytes of the packet for the request. -/
def SetupDataCall.packet (d : SetupDataCall) : List UInt8 :=
  (ProtoPacketHeader.mk protoPacketStartNetwork 335).toBytes ++ d.startNetwork.members.flatten

/-- Strings that fit are sent in one packet, if the request is accepted; for others it fails, with one
completion and without a packet. -/
structure KeepsStrings (fresh : ℕ → UInt8) (s : GprsData) (t : RilToken) (d : SetupDataCall)
    (allocated : Bool) (iface : ℤ) : Prop where
  sent : d.startNetwork.Fits → SetUpStarts s d allocated iface → ∃ packet,
    startNetworkPackets fresh (rilRequestSetupDataCall s t (some d) allocated iface).2 = some [packet] ∧
      packet.cmd = fifoPktProto ∧ packet.data = d.packet
  refused : ¬d.startNetwork.Fits →
    gprsCompletions (rilRequestSetupDataCall s t (some d) allocated iface).2 =
        [⟨t, .genericFailure, none⟩] ∧
      startNetworkPackets fresh (rilRequestSetupDataCall s t (some d) allocated iface).2 = some []

section Fill

variable {r : ProtoStartNetwork}

theorem copyChars_eq {s : CString} {pos : ℕ} {b : Block} (hlive : b.live)
    (hfits : pos + s.length ≤ b.bytes.length) : copyChars s pos b = b.memcpy pos s := by
  induction s generalizing pos b with
  | nil =>
    rw [copyChars, Block.memcpy, if_pos ⟨hlive, hfits⟩, List.append_nil, List.length_nil, Nat.add_zero,
      List.take_append_drop]
  | cons c s ih =>
    rw [List.length_cons] at hfits
    have hsome : b.memcpy pos [c] ≠ none := by
      rw [ne_eq, Block.memcpy_eq_none_iff, not_not, List.length_singleton]
      exact ⟨hlive, by omega⟩
    obtain ⟨b', hb'⟩ := Option.ne_none_iff_exists'.mp hsome
    obtain ⟨-, hlive', hlength', -⟩ := Block.memcpy_eq_some hb'
    have happend := Block.memcpy_append b pos [c] s
    rw [hb', Option.bind_some, List.length_singleton, List.singleton_append] at happend
    rw [copyChars, hb', Option.bind_some, ih hlive' (by omega), happend]

/-- Strings that fit come to stand in their own members. -/
theorem fill_eq (h : r.Fits) : r.fill = some ⟨r.members.flatten, true⟩ := by
  have hword : ∀ {i w n : ℕ}, protoStartNetworkWidths.getD i 0 = w →
      (leBytes w n).length ≤ protoStartNetworkWidths.getD i 0 := by
    rintro i w n rfl
    rw [leBytes_length]
  let p₀ := Packed.clear protoStartNetworkWidths
  let p₁ := p₀.set 0 (leBytes 2 r.opMode.toNat) (hword rfl)
  let p₂ := p₁.set 1 (leBytes 2 r.protoType.value.toNat) (hword rfl)
  let p₃ := p₂.set 2 r.napAddr h.napAddr.le
  let p₄ := p₃.set 4 (leBytes 4 r.preferredAccountHandle.toNat) (hword rfl)
  let p₅ := p₄.set 7 (leBytes 4 r.localAddr.toNat) (hword rfl)
  let p₆ := p₅.set 10 (leBytes 4 r.dnsAddr1.toNat) (hword rfl)
  let p₇ := p₆.set 12 (leBytes 4 r.dnsAddr2.toNat) (hword rfl)
  let p₈ := p₇.set 20 r.userId h.userId.le
  let p₉ := p₈.set 21 r.userPasswd h.userPasswd.le
  have h₀ : Block.calloc sizeofProtoStartNetwork = p₀.block := Packed.calloc_eq protoStartNetworkWidths
  have h₁ : p₀.block.memcpy 0 _ = some p₁.block := p₀.memcpy_set 0 (by decide) (by decide) rfl _
  have h₂ : p₁.block.memcpy 2 _ = some p₂.block := p₁.memcpy_set 1 (by decide) (by decide) rfl _
  have h₃ : p₂.block.memcpy 4 _ = some p₃.block := p₂.memcpy_set 2 (by decide) (by decide) rfl _
  have h₄ : p₃.block.memcpy 134 _ = some p₄.block := p₃.memcpy_set 4 (by decide) (by decide) rfl _
  have h₅ : p₄.block.memcpy 146 _ = some p₅.block := p₄.memcpy_set 7 (by decide) (by decide) rfl _
  have h₆ : p₅.block.memcpy 158 _ = some p₆.block := p₅.memcpy_set 10 (by decide) (by decide) rfl _
  have h₇ : p₆.block.memcpy 166 _ = some p₇.block := p₆.memcpy_set 12 (by decide) (by decide) rfl _
  have h₈ : p₇.block.memcpy 245 _ = some p₈.block := p₇.memcpy_set 20 (by decide) (by decide) rfl _
  have h₉ : p₈.block.memcpy 290 _ = some p₉.block := p₈.memcpy_set 21 (by decide) (by decide) rfl _
  have hlive : ∀ p : Packed protoStartNetworkWidths, p.block.live ∧ p.block.bytes.length = 335 :=
    fun p => ⟨rfl, p.block_length⟩
  have hnapAddr : copyChars r.napAddr 4 p₂.block = some p₃.block := by
    rw [copyChars_eq (hlive p₂).1 (by have := h.napAddr; rw [(hlive p₂).2]; omega), h₃]
  have huserId : copyChars r.userId 245 p₇.block = some p₈.block := by
    rw [copyChars_eq (hlive p₇).1 (by have := h.userId; rw [(hlive p₇).2]; omega), h₈]
  have huserPasswd : copyChars r.userPasswd 290 p₈.block = some p₉.block := by
    rw [copyChars_eq (hlive p₈).1 (by have := h.userPasswd; rw [(hlive p₈).2]; omega), h₉]
  have hmembers : p₉.members = r.members := by
    simp [Packed.members, ProtoStartNetwork.members, protoStartNetworkWidths, p₉, p₈, p₇, p₆, p₅, p₄, p₃,
      p₂, p₁, p₀, Packed.set, Packed.clear, Function.update]
  unfold ProtoStartNetwork.fill
  rw [h₀]
  simp only [Option.bind_eq_bind, h₁, Option.bind_some, h₂, hnapAddr, h₄, h₅, h₆, h₇, huserId, huserPasswd]
  rw [← hmembers]
  rfl

/-- The packet for strings that fit. -/
theorem protoStartNetwork_eq (fresh : ℕ → UInt8) (h : r.Fits) : ∃ packet,
    r.fill.bind (protoStartNetwork fresh) = some packet ∧ packet.cmd = fifoPktProto ∧
      packet.data = (ProtoPacketHeader.mk protoPacketStartNetwork 335).toBytes ++ r.members.flatten := by
  have hlength : r.members.flatten.length = 335 := by
    have hnapAddr := Block.padTo_length h.napAddr.le
    have huserId := Block.padTo_length h.userId.le
    have huserPasswd := Block.padTo_length h.userPasswd.le
    simp [ProtoStartNetwork.members, protoStartNetworkWidths, hnapAddr, huserId, huserPasswd,
      Block.padTo_length]
  obtain ⟨packet, hpacket, -, hcmd, hdata⟩ := protoSendPacket_eq fresh
    ⟨protoPacketStartNetwork, UInt16.ofNat sizeofProtoStartNetwork⟩
    ⟨r.members.flatten, true⟩ rfl hlength.ge
  refine ⟨packet, ?_, hcmd, ?_⟩
  · rw [fill_eq h]
    exact hpacket
  · rw [hdata]
    exact congrArg (_ ++ ·) (List.take_of_length_le hlength.le)

end Fill

section Request

variable {s : GprsData} {d : SetupDataCall} {allocated : Bool} {iface : ℤ}

/-- An accepted request asks the modem, and nothing has been completed then. -/
theorem rilRequestSetupDataCall_accepted (t : RilToken) (h : SetUpStarts s d allocated iface) :
    ∃ ifname, (rilRequestSetupDataCall s t (some d) allocated iface).2 =
      [.tunAlloc ifname, .protoStartNetwork d.startNetwork] := by
  obtain ⟨hcid, hallocated, hiface, htype⟩ := h
  unfold rilRequestSetupDataCall
  dsimp only
  generalize hr : rilGprsConnectionStart s allocated iface = r
  have hresult := rilGprsConnectionStart_result (s := s) allocated iface
  rw [hr] at hresult
  cases hresult with
  | failed _ _ _ hrefused => exact absurd ⟨hcid, hallocated, hiface⟩ hrefused
  | started c ifname =>
    refine ⟨ifname, ?_⟩
    dsimp only
    rw [if_neg htype]
    rfl

/-- Any other is completed with a failure, without a word to the modem. -/
theorem rilRequestSetupDataCall_refused (t : RilToken) (h : ¬SetUpStarts s d allocated iface) :
    gprsCompletions (rilRequestSetupDataCall s t (some d) allocated iface).2 =
        [⟨t, .genericFailure, none⟩] ∧
      (rilRequestSetupDataCall s t (some d) allocated iface).2.any GprsEffect.startsNetwork = false := by
  unfold rilRequestSetupDataCall
  dsimp only
  generalize hr : rilGprsConnectionStart s allocated iface = r
  have hresult := rilGprsConnectionStart_result (s := s) allocated iface
  rw [hr] at hresult
  cases hresult with
  | failed hout hstart =>
    dsimp only
    rw [gprsCompletions_append, hout, List.any_append, hstart]
    exact ⟨rfl, rfl⟩
  | started c ifname hpos _ _ hcid hallocated hiface =>
    have htype : dataCallTypeToProtoType d.type = .none := by
      by_contra htype
      exact h ⟨hcid ▸ hpos, hallocated, hiface, htype⟩
    dsimp only [rilGprsConnectionStop]
    rw [if_pos htype, gprsCompletions_append, gprsCompletions_cons_complete, gprsCompletions_close]
    refine ⟨rfl, ?_⟩
    rw [List.any_append, List.any_cons]
    split_ifs
    · rfl
    · rfl

/-- Nothing is sent for effects without START_NETWORK. -/
theorem startNetworkPackets_eq_nil (fresh : ℕ → UInt8) {out : List GprsEffect}
    (h : out.any GprsEffect.startsNetwork = false) : startNetworkPackets fresh out = some [] := by
  have hnone : out.filterMap GprsEffect.startNetwork? = [] := by
    rw [List.filterMap_eq_nil_iff]
    intro e he
    have hstart := List.any_eq_false.mp h e he
    cases e with
    | protoStartNetwork r => exact absurd rfl hstart
    | _ => rfl
  unfold startNetworkPackets
  rw [hnone]
  rfl

/-- **The strings of a data call** come to the modem as they are, or are refused, exactly if an accepted
request has none that is too long. -/
theorem keepsStrings_iff (fresh : ℕ → UInt8) (s : GprsData) (t : RilToken) (d : SetupDataCall)
    (allocated : Bool) (iface : ℤ) : KeepsStrings fresh s t d allocated iface ↔
      (SetUpStarts s d allocated iface → d.startNetwork.Fits) := by
  constructor
  · intro h hstarts
    by_contra hfits
    obtain ⟨ifname, hout⟩ := rilRequestSetupDataCall_accepted t hstarts
    have hrefused := (h.refused hfits).1
    rw [hout] at hrefused
    exact nomatch hrefused
  · intro h
    constructor
    · intro hfits hstarts
      obtain ⟨ifname, hout⟩ := rilRequestSetupDataCall_accepted t hstarts
      obtain ⟨packet, hpacket, hcmd, hdata⟩ := protoStartNetwork_eq fresh hfits
      refine ⟨packet, ?_, hcmd, hdata⟩
      have hone : [GprsEffect.tunAlloc ifname, .protoStartNetwork d.startNetwork].filterMap
          GprsEffect.startNetwork? = [d.startNetwork] := rfl
      unfold startNetworkPackets
      rw [hout, hone, List.mapM_cons, hpacket]
      rfl
    · intro hfits
      obtain ⟨hcompleted, hnone⟩ := rilRequestSetupDataCall_refused t (mt h hfits)
      exact ⟨hcompleted, startNetworkPackets_eq_nil fresh hnone⟩

/-- A password of 45 characters, with the last one at the end of the structure. -/
theorem not_keepsStrings_password : ¬KeepsStrings (fun _ => 0) .init 1
    ⟨none, none, some (List.replicate 45 0x61), cString "IP"⟩ true 0 := by
  intro h
  obtain ⟨ifname, hout⟩ := rilRequestSetupDataCall_accepted (s := .init)
    (d := ⟨none, none, some (List.replicate 45 0x61), cString "IP"⟩) 1
    (⟨by decide, rfl, le_rfl, by decide⟩ : SetUpStarts _ _ true 0)
  have hrefused := (h.refused fun hfits => absurd hfits.userPasswd (by decide)).1
  rw [hout] at hrefused
  exact nomatch hrefused

end Request

end Mocha.Ril
