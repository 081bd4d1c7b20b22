import Mocha.Ipc.SimOem
import Mocha.Lib.Packed

/-! The requests of `mocha-ipc/sim.c` that carry a PIN or a PUK. Their data has one or two strings, each
in a place of its own. -/
namespace Mocha.Ipc
open Mocha.Lib

def simOemRequestEnableChv : UInt8 := 12
def simOemRequestDisableChv : UInt8 := 13
def simOemRequestUnblockChv : UInt8 := 14
def simOemRequestChangeChv : UInt8 := 15

/-- What the five functions do: `strings` come to the given places of the buffer, which has been cleared.
There is no result outside the buffer. -/
def simSendChv (fresh : ℕ → UInt8) (packetType : UInt8) (size : ℕ) (hSim pinType : UInt8)
    (strings : List (ℕ × List UInt8)) : Option (List ModemIo) :=
  if hSim = 0 then some []
  else do
    let packetBuf ← (Block.calloc size).memcpy 0 [pinType]
    let packetBuf ← strings.foldlM (fun packetBuf p => packetBuf.memcpy p.1 p.2) packetBuf
    simSendOemData fresh hSim packetType packetBuf.bytes (UInt32.ofNat size)

def simVerifyChv (fresh : ℕ → UInt8) (hSim pinType : UInt8) (pin : List UInt8) : Option (List ModemIo) :=
  simSendChv fresh simOemRequestVerifyChv 10 hSim pinType [(1, pin)]

def simEnableChv (fresh : ℕ → UInt8) (hSim pinType : UInt8) (pin : List UInt8) : Option (List ModemIo) :=
  simSendChv fresh simOemRequestEnableChv 10 hSim pinType [(1, pin)]

def simDisableChv (fresh : ℕ → UInt8) (hSim pinType : UInt8) (pin : List UInt8) : Option (List ModemIo) :=
  simSendChv fresh simOemRequestDisableChv 10 hSim pinType [(1, pin)]

def simChangeChv (fresh : ℕ → UInt8) (hSim pinType : UInt8) (oldPin newPin : List UInt8) :
    Option (List ModemIo) :=
  simSendChv fresh simOemRequestChangeChv 20 hSim pinType [(1, oldPin), (11, newPin)]

def simUnblockChv (fresh : ℕ → UInt8) (hSim pinType : UInt8) (puk pin : List UInt8) :
    Option (List ModemIo) :=
  simSendChv fresh simOemRequestUnblockChv 20 hSim pinType [(1, puk), (11, pin)]

/-- The data with one string: 10 bytes, if it fits. -/
def chvBody (pinType : UInt8) (pin : List UInt8) : List UInt8 := pinType :: Block.padTo 9 pin

/-- The data with two strings: 20 bytes, if they fit. -/
def chvBody₂ (pinType : UInt8) (first second : List UInt8) : List UInt8 :=
  pinType :: (Block.padTo 10 first ++ Block.padTo 9 second)

/-- One frame is sent, and it is the one for the data. -/
def SendsChv (sent : Option (List ModemIo)) (hSim packetType : UInt8) (body : List UInt8) : Prop :=
  ∃ frame, sent = some [frame] ∧ frame.magic = frameMagic ∧ frame.cmd = fifoPktSim ∧
    frame.data = oemFrame hSim packetType body

section

variable {fresh : ℕ → UInt8} {packetType hSim pinType : UInt8} {size : ℕ}
  {strings : List (ℕ × List UInt8)}

theorem foldlM_memcpy_length {b c : Block}
    (h : strings.foldlM (fun b p => b.memcpy p.1 p.2) b = some c) : c.bytes.length = b.bytes.length := by
  induction strings generalizing b with
  | nil => rw [Option.some.inj h]
  | cons p strings ih =>
    rw [List.foldlM_cons] at h
    obtain ⟨b', hb', hc⟩ := Option.bind_eq_some_iff.mp h
    obtain ⟨-, -, hlength, -⟩ := Block.memcpy_eq_some hb'
    rw [ih hc, hlength]

theorem oemFrame_length (hSim packetType : UInt8) (data : List UInt8) :
    (oemFrame hSim packetType data).length = data.length + 22 := by
  simp only [oemFrame, List.length_append, SimPacketHeader.toBytes_length,
    OemSimPacketHeader.toBytes_length, List.length_singleton]
  omega

/-- The data of a frame is as long as the buffer. -/
theorem SendsChv.body_length (hSid : hSim ≠ 0) (hsize : size ≤ 245) {body : List UInt8}
    (h : SendsChv (simSendChv fresh packetType size hSim pinType strings) hSim packetType body) :
    body.length = size := by
  obtain ⟨frame, hframe, -, -, hdata⟩ := h
  unfold simSendChv at hframe
  rw [if_neg hSid] at hframe
  obtain ⟨b, hb, hframe⟩ := Option.bind_eq_some_iff.mp hframe
  obtain ⟨c, hc, hframe⟩ := Option.bind_eq_some_iff.mp hframe
  obtain ⟨-, -, hlength, -⟩ := Block.memcpy_eq_some hb
  have hbytes : c.bytes.length = size := by
    rw [foldlM_memcpy_length hc, hlength, Block.calloc, List.length_replicate]
  have hsends : SendsOemFrame fresh hSim packetType c.bytes := .of_length_le fresh hSid (by omega)
  obtain ⟨frame', hframe', -, -, hdata', -⟩ := hsends
  rw [hbytes] at hframe'
  obtain rfl : frame = frame' := by simpa using hframe.symm.trans hframe'
  have hlengths := congrArg List.length (hdata.symm.trans hdata')
  rw [oemFrame_length, oemFrame_length, hbytes] at hlengths
  omega

/-- Strings that all fit are sent. -/
theorem sendsChv_of_memcpy (hSid : hSim ≠ 0) (hsize : size ≤ 245) {c : Block}
    (h : ((Block.calloc size).memcpy 0 [pinType]).bind
      (strings.foldlM fun b p => b.memcpy p.1 p.2) = some c) :
    SendsChv (simSendChv fresh packetType size hSim pinType strings) hSim packetType c.bytes := by
  obtain ⟨b, hb, hc⟩ := Option.bind_eq_some_iff.mp h
  obtain ⟨-, -, hlength, -⟩ := Block.memcpy_eq_some hb
  have hbytes : c.bytes.length = size := by
    rw [foldlM_memcpy_length hc, hlength, Block.calloc, List.length_replicate]
  have hsends : SendsOemFrame fresh hSim packetType c.bytes := .of_length_le fresh hSid (by omega)
  obtain ⟨frame, hframe, hmagic, hcmd, hdata, -⟩ := hsends
  refine ⟨frame, ?_, hmagic, hcmd, hdata⟩
  unfold simSendChv
  rw [if_neg hSid, hb, Option.bind_eq_bind, Option.bind_some, hc, Option.bind_some, ← hframe, hbytes]

/-- One string is sent as it is if it has 9 characters at most. -/
theorem sendsChv_iff (hSid : hSim ≠ 0) (pin : List UInt8) :
    SendsChv (simSendChv fresh packetType 10 hSim pinType [(1, pin)]) hSim packetType
      (chvBody pinType pin) ↔ pin.length ≤ 9 := by
  constructor
  · intro h
    have hlength := h.body_length hSid (by decide)
    rw [chvBody, Block.padTo, List.length_cons, List.length_append] at hlength
    omega
  · intro hpin
    let p₁ := (Packed.clear [1, 9]).set 0 [pinType] le_rfl
    let p₂ := p₁.set 1 pin hpin
    have hcalloc : Block.calloc 10 = (Packed.clear [1, 9]).block := Packed.calloc_eq [1, 9]
    have h₁ : (Packed.clear [1, 9]).block.memcpy 0 [pinType] = some p₁.block :=
      Packed.memcpy_set _ 0 rfl (by decide) rfl le_rfl
    have h₂ : p₁.block.memcpy 1 pin = some p₂.block := p₁.memcpy_set 1 rfl (by decide) rfl hpin
    have hbody : p₂.block.bytes = chvBody pinType pin := by
      simp [p₁, p₂, Packed.block, Packed.members, Packed.set, Packed.clear, chvBody, Block.padTo]
    rw [← hbody]
    refine sendsChv_of_memcpy hSid (by decide) ?_
    rw [hcalloc, h₁, Option.bind_some, List.foldlM_cons, h₂]
    rfl

/-- Two strings are sent as they are if they have 10 and 9 characters at most. -/
theorem sendsChv₂_iff (hSid : hSim ≠ 0) (first second : List UInt8) :
    SendsChv (simSendChv fresh packetType 20 hSim pinType [(1, first), (11, second)]) hSim packetType
      (chvBody₂ pinType first second) ↔ first.length ≤ 10 ∧ second.length ≤ 9 := by
  constructor
  · intro h
    have hlength := h.body_length hSid (by decide)
    simp only [chvBody₂, Block.padTo, List.length_cons, List.length_append, List.length_replicate]
      at hlength
    omega
  · rintro ⟨hfirst, hsecond⟩
    let p₁ := (Packed.clear [1, 10, 9]).set 0 [pinType] le_rfl
    let p₂ := p₁.set 1 first hfirst
    let p₃ := p₂.set 2 second hsecond
    have hcalloc : Block.calloc 20 = (Packed.clear [1, 10, 9]).block := Packed.calloc_eq [1, 10, 9]
    have h₁ : (Packed.clear [1, 10, 9]).block.memcpy 0 [pinType] = some p₁.block :=
      Packed.memcpy_set _ 0 rfl (by decide) rfl le_rfl
    have h₂ : p₁.block.memcpy 1 first = some p₂.block := p₁.memcpy_set 1 rfl (by decide) rfl hfirst
    have h₃ : p₂.block.memcpy 11 second = some p₃.block := p₂.memcpy_set 2 rfl (by decide) rfl hsecond
    have hbody : p₃.block.bytes = chvBody₂ pinType first second := by
      simp [p₁, p₂, p₃, Packed.block, Packed.members, Packed.set, Packed.clear, chvBody₂, Block.padTo]
    rw [← hbody]
    refine sendsChv_of_memcpy hSid (by decide) ?_
    rw [hcalloc, h₁, Option.bind_some, List.foldlM_cons, h₂, Option.bind_eq_bind, Option.bind_some,
      List.foldlM_cons, h₃]
    rfl

end

end Mocha.Ipc
