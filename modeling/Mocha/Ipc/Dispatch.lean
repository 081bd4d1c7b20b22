import Mocha.Lib.Block
import Mocha.Lib.Run
import Mocha.Ipc.Frame

/-! `ipc_dispatch` (`ipc_dispatch.c`): the reassembly of multi-frame packets in a global packet and
the hand-over of complete packets to their parsers. `malloc` is taken to succeed. -/
namespace Mocha.Ipc
open Mocha.Lib

/-- The cases of the `switch` other than `FIFO_PKT_FIFO_INTERNAL`, by the parser they call. -/
inductive DispatchCase
  | ipcParseSim
  | ipcParseProto
  | ipcParseTapi
  | ipcParseFm
  | ipcParseSound
  | ipcParseDbgLevel
  | ipcParseBoot
  | ipcParseSystem
  | ipcParseDrv
  | ipcParseDbg
  | ipcParseBt
  | ipcParseTm
  | ipcParseLbs
  | unused
  | notYetHandled
deriving DecidableEq, Repr

def dispatchCase (cmd : UInt32) : DispatchCase :=
  if cmd = fifoPktSim then .ipcParseSim
  else if cmd = fifoPktProto then .ipcParseProto
  else if cmd = fifoPktTapi then .ipcParseTapi
  else if cmd = fifoPktFile then .ipcParseFm
  else if cmd = fifoPktSound then .ipcParseSound
  else if cmd = fifoPktDvbHDebugLevel then .ipcParseDbgLevel
  else if cmd = fifoPktBoot then .ipcParseBoot
  else if cmd = fifoPktSystem then .ipcParseSystem
  else if cmd = fifoPktDrv then .ipcParseDrv
  else if cmd = fifoPktDebug then .ipcParseDbg
  else if cmd = fifoPktBluetooth then .ipcParseBt
  else if cmd = fifoPktTestmode then .ipcParseTm
  else if cmd = fifoPktLbs then .ipcParseLbs
  else if cmd = 0x99 ∨ cmd = 0x9A ∨ cmd = 0x9E then .unused
  else .notYetHandled

/-- A packet handed to the code of its case. -/
structure Delivery where
  handler : DispatchCase
  packet : ModemIo
deriving DecidableEq

def deliver (packet : ModemIo) : Delivery := ⟨dispatchCase packet.cmd, packet⟩

/-- The globals `multiFramePosition` and `multi_packet`; `data` is `none` for a null pointer. -/
structure Reassembly where
  multiFramePosition : UInt32
  magic : UInt32
  cmd : UInt32
  datasize : UInt32
  data : Option Block
deriving DecidableEq

/-- Static storage: everything is zero. -/
def Reassembly.init : Reassembly := ⟨0, 0, 0, 0, none⟩

/-- What ends a call of `ipc_dispatch` without a result: undefined behaviour, or recursion deeper
than the fuel that the evaluation was given. -/
inductive Fault
  | badCopy
  | badRead
  | badFree
  | outOfFuel
deriving DecidableEq, Repr

namespace Reassembly

/-- The branch for a header: a fresh buffer, whatever became of the old one. -/
def startMultiFrame (fresh : ℕ → UInt8) (mfHeader : MultiFrameHeader) : Reassembly where
  multiFramePosition := 0
  magic := frameMagic
  cmd := mfHeader.type
  datasize := mfHeader.size
  data := some (Block.malloc fresh mfHeader.size.toNat)

/-- `memcpy(multi_packet.data + multiFramePosition, ...)` and the advance of the position. -/
def copyFragment (s : Reassembly) (ipcFrame : ModemIo) : Except Fault Reassembly :=
  match s.data.bind (·.memcpy s.multiFramePosition.toNat ipcFrame.data) with
  | none => .error .badCopy
  | some b => .ok { s with
      data := some b, multiFramePosition := s.multiFramePosition + ipcFrame.datasize }

/-- `multi_packet` as the frame the recursive call gets. -/
def packet (s : Reassembly) : Except Fault ModemIo :=
  match s.data with
  | none => .error .badRead
  | some b =>
    if h : s.datasize.toNat ≤ b.bytes.length then
      .ok ⟨s.magic, s.cmd, s.datasize, b.bytes.take s.datasize.toNat, by rw [List.length_take]; omega⟩
    else .error .badRead

/-- `free(multi_packet.data)`; the pointer stays. -/
def release (s : Reassembly) : Except Fault Reassembly :=
  match s.data with
  | none => .ok { s with multiFramePosition := 0 }
  | some b =>
    match b.free with
    | none => .error .badFree
    | some b => .ok { s with data := some b, multiFramePosition := 0 }

end Reassembly

/-- `ipc_dispatch`: the state after the call and the packets handed to their cases, in order. -/
def ipcDispatch (fresh : ℕ → UInt8) :
    ℕ → Reassembly → ModemIo → Except Fault (Reassembly × List Delivery)
  | 0, _, _ => .error .outOfFuel
  | fuel + 1, s, ipcFrame =>
    if ipcFrame.cmd = fifoPktFifoInternal then
      if ipcFrame.datasize = 0xC then
        .ok (.startMultiFrame fresh (.ofBytes ipcFrame.data), [])
      else do
        let s ← s.copyFragment ipcFrame
        if s.datasize = s.multiFramePosition then
          let (s, out) ← ipcDispatch fresh fuel s (← s.packet)
          return (← s.release, out)
        else return (s, [])
    else .ok (s, [deliver ipcFrame])

/-- `ipc_dispatch` returns, changing the state and delivering packets as the label says. -/
def Dispatch (fresh : ℕ → UInt8) : Step Reassembly (ModemIo × List Delivery) :=
  fun s a t => ∃ fuel, ipcDispatch fresh fuel s a.1 = .ok (t, a.2)

variable {fresh : ℕ → UInt8} {s t : Reassembly} {f : ModemIo}

/-! Each way through the function. -/

theorem ipcDispatch_whole (fuel : ℕ) (hf : f.cmd ≠ fifoPktFifoInternal) :
    ipcDispatch fresh (fuel + 1) s f = .ok (s, [deliver f]) := by
  rw [ipcDispatch, if_neg hf]

theorem ipcDispatch_header (fuel : ℕ) (hf : f.cmd = fifoPktFifoInternal)
    (hsize : f.datasize = 0xC) :
    ipcDispatch fresh (fuel + 1) s f = .ok (.startMultiFrame fresh (.ofBytes f.data), []) := by
  rw [ipcDispatch, if_pos hf, if_pos hsize]

theorem ipcDispatch_fragment (fuel : ℕ) (hf : f.cmd = fifoPktFifoInternal)
    (hsize : f.datasize ≠ 0xC) (hcopy : s.copyFragment f = .ok t)
    (hpos : t.datasize ≠ t.multiFramePosition) : ipcDispatch fresh (fuel + 1) s f = .ok (t, []) := by
  rw [ipcDispatch, if_pos hf, if_neg hsize, hcopy]
  change (if t.datasize = t.multiFramePosition then _ else _) = _
  rw [if_neg hpos]
  rfl

theorem ipcDispatch_complete (fuel : ℕ) (hf : f.cmd = fifoPktFifoInternal)
    (hsize : f.datasize ≠ 0xC) (hcopy : s.copyFragment f = .ok t)
    (hpos : t.datasize = t.multiFramePosition) {p : ModemIo} (hp : t.packet = .ok p) :
    ipcDispatch fresh (fuel + 1) s f = (ipcDispatch fresh fuel t p).bind fun r =>
      r.1.release.bind fun u => .ok (u, r.2) := by
  rw [ipcDispatch, if_pos hf, if_neg hsize, hcopy]
  change (if t.datasize = t.multiFramePosition then _ else _) = _
  rw [if_pos hpos, hp]
  rfl

theorem ipcDispatch_copyError (fuel : ℕ) (hf : f.cmd = fifoPktFifoInternal)
    (hsize : f.datasize ≠ 0xC) {e : Fault} (hcopy : s.copyFragment f = .error e) :
    ipcDispatch fresh (fuel + 1) s f = .error e := by
  rw [ipcDispatch, if_pos hf, if_neg hsize, hcopy]
  rfl

theorem ipcDispatch_packetError (fuel : ℕ) (hf : f.cmd = fifoPktFifoInternal)
    (hsize : f.datasize ≠ 0xC) (hcopy : s.copyFragment f = .ok t)
    (hpos : t.datasize = t.multiFramePosition) {e : Fault} (hp : t.packet = .error e) :
    ipcDispatch fresh (fuel + 1) s f = .error e := by
  rw [ipcDispatch, if_pos hf, if_neg hsize, hcopy]
  change (if t.datasize = t.multiFramePosition then _ else _) = _
  rw [if_pos hpos, hp]
  rfl

/-- More fuel does not change an outcome other than running out of it. -/
theorem ipcDispatch_mono {fuel : ℕ} {r : Except Fault (Reassembly × List Delivery)}
    (h : ipcDispatch fresh fuel s f = r) (hr : r ≠ .error .outOfFuel) :
    ipcDispatch fresh (fuel + 1) s f = r := by
  induction fuel generalizing s f r with
  | zero => exact absurd h.symm hr
  | succ fuel ih =>
    by_cases hf : f.cmd = fifoPktFifoInternal
    · by_cases hsize : f.datasize = 0xC
      · rwa [ipcDispatch_header _ hf hsize] at h ⊢
      · cases hcopy : s.copyFragment f with
        | error e => rwa [ipcDispatch_copyError _ hf hsize hcopy] at h ⊢
        | ok t =>
          by_cases hpos : t.datasize = t.multiFramePosition
          · cases hp : t.packet with
            | error e => rwa [ipcDispatch_packetError _ hf hsize hcopy hpos hp] at h ⊢
            | ok p =>
              rw [ipcDispatch_complete _ hf hsize hcopy hpos hp] at h ⊢
              by_cases hd : ipcDispatch fresh fuel t p = .error .outOfFuel
              · rw [hd] at h; exact absurd h.symm hr
              · rwa [ih rfl hd]
          · rwa [ipcDispatch_fragment _ hf hsize hcopy hpos] at h ⊢
    · rwa [ipcDispatch_whole _ hf] at h ⊢

theorem ipcDispatch_mono_le {fuel fuel' : ℕ} (hle : fuel ≤ fuel')
    {r : Except Fault (Reassembly × List Delivery)} (h : ipcDispatch fresh fuel s f = r)
    (hr : r ≠ .error .outOfFuel) : ipcDispatch fresh fuel' s f = r := by
  induction hle with
  | refl => exact h
  | step _ ih => exact ipcDispatch_mono ih hr

/-- The outcome of a call depends on nothing but the state and the frame. -/
theorem Dispatch.functional {s t t' : Reassembly} {f : ModemIo} {out out' : List Delivery}
    (h : Dispatch fresh s (f, out) t) (h' : Dispatch fresh s (f, out') t') : t = t' ∧ out = out' := by
  obtain ⟨n, hn⟩ := h
  obtain ⟨n', hn'⟩ := h'
  have h1 := ipcDispatch_mono_le (le_max_left n n') hn (by simp)
  have h2 := ipcDispatch_mono_le (le_max_right n n') hn' (by simp)
  exact Prod.mk.injEq .. ▸ Except.ok.inj (h1.symm.trans h2)

end Mocha.Ipc
