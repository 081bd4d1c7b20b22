import Mocha.Ipc.Dispatch

/-! How deep `ipc_dispatch` calls itself. The call goes to the same globals with a packet whose type
and size the peer has chosen, so that it may complete a packet in its turn. -/
namespace Mocha.Ipc
open Mocha.Lib

/-- `ipc_dispatch`, called with a frame, calls itself with `multi_packet`. What the copies put into the
buffer and read from it is left open, so that this covers the calls behind an undefined one too. -/
structure CallsItself (outer inner : Reassembly × ModemIo) : Prop where
  internal : outer.2.cmd = fifoPktFifoInternal
  notHeader : outer.2.datasize ≠ 0xC
  advanced : inner.1.multiFramePosition = outer.1.multiFramePosition + outer.2.datasize
  complete : inner.1.datasize = inner.1.multiFramePosition
  magic : inner.1.magic = outer.1.magic ∧ inner.2.magic = outer.1.magic
  cmd : inner.1.cmd = outer.1.cmd ∧ inner.2.cmd = outer.1.cmd
  datasize : inner.1.datasize = outer.1.datasize ∧ inner.2.datasize = outer.1.datasize

/-- Every chain of calls that a call begins is finite. -/
def BottomsOut (s : Reassembly) (f : ModemIo) : Prop :=
  Acc (fun inner outer => CallsItself outer inner) (s, f)

/-- The call ends, as far as the memory accesses are defined, and so do the calls inside it. -/
structure Returns (s : Reassembly) (f : ModemIo) : Prop where
  bottomsOut : BottomsOut s f
  result : ∀ fresh, ∃ fuel, ipcDispatch fresh fuel s f ≠ .error .outOfFuel

/-- A fragment completes a packet of no bytes whose type is the internal one. -/
structure CompletesEmptyInternal (s : Reassembly) (f : ModemIo) : Prop where
  internal : f.cmd = fifoPktFifoInternal
  notHeader : f.datasize ≠ 0xC
  type : s.cmd = fifoPktFifoInternal
  size : s.datasize = 0
  complete : s.multiFramePosition + f.datasize = 0

section

variable {fresh : ℕ → UInt8} {s t : Reassembly} {f p : ModemIo}

theorem callsItself_of_packet (hf : f.cmd = fifoPktFifoInternal) (hsize : f.datasize ≠ 0xC)
    (hcopy : s.copyFragment f = .ok t) (hpos : t.datasize = t.multiFramePosition)
    (hp : t.packet = .ok p) : CallsItself (s, f) (t, p) := by
  unfold Reassembly.copyFragment at hcopy
  split at hcopy
  · cases hcopy
  · next b hb =>
    obtain rfl := Except.ok.inj hcopy
    unfold Reassembly.packet at hp
    dsimp only at hp
    split_ifs at hp
    obtain rfl := Except.ok.inj hp
    exact ⟨hf, hsize, rfl, hpos, ⟨rfl, rfl⟩, ⟨rfl, rfl⟩, ⟨rfl, rfl⟩⟩

/-! What is undefined is not for want of fuel. -/

theorem copyFragment_fault {e : Fault} (h : s.copyFragment f = .error e) : e ≠ .outOfFuel := by
  unfold Reassembly.copyFragment at h
  split at h <;> cases h
  exact Fault.noConfusion

theorem packet_fault {e : Fault} (h : t.packet = .error e) : e ≠ .outOfFuel := by
  unfold Reassembly.packet at h
  split at h
  · cases h
    exact Fault.noConfusion
  · split_ifs at h
    cases h
    exact Fault.noConfusion

theorem release_fault {e : Fault} (h : t.release = .error e) : e ≠ .outOfFuel := by
  unfold Reassembly.release at h
  split at h
  · cases h
  · split at h <;> cases h
    exact Fault.noConfusion

theorem ne_outOfFuel {α : Type} {e : Fault} (h : e ≠ .outOfFuel) :
    (.error e : Except Fault α) ≠ .error .outOfFuel := fun heq => h (Except.error.inj heq)

theorem ok_ne_outOfFuel {α : Type} {r : α} : (.ok r : Except Fault α) ≠ .error .outOfFuel :=
  fun h => by cases h

/-- Fuel for the calls inside, and for the call itself. -/
theorem BottomsOut.result (h : BottomsOut s f) (fresh : ℕ → UInt8) :
    ∃ fuel, ipcDispatch fresh fuel s f ≠ .error .outOfFuel := by
  obtain ⟨c, hc⟩ : ∃ c, c = (s, f) := ⟨_, rfl⟩
  unfold BottomsOut at h
  rw [← hc] at h
  induction h generalizing s f with
  | intro c _ ih =>
    subst hc
    by_cases hf : f.cmd = fifoPktFifoInternal
    · by_cases hsize : f.datasize = 0xC
      · exact ⟨1, by rw [ipcDispatch_header _ hf hsize]; exact ok_ne_outOfFuel⟩
      · cases hcopy : s.copyFragment f with
        | error e =>
          refine ⟨1, ?_⟩
          rw [ipcDispatch_copyError _ hf hsize hcopy]
          exact ne_outOfFuel (copyFragment_fault hcopy)
        | ok t =>
          by_cases hpos : t.datasize = t.multiFramePosition
          · cases hp : t.packet with
            | error e =>
              refine ⟨1, ?_⟩
              rw [ipcDispatch_packetError _ hf hsize hcopy hpos hp]
              exact ne_outOfFuel (packet_fault hp)
            | ok p =>
              obtain ⟨fuel, hfuel⟩ := ih (t, p) (callsItself_of_packet hf hsize hcopy hpos hp) rfl
              refine ⟨fuel + 1, ?_⟩
              rw [ipcDispatch_complete _ hf hsize hcopy hpos hp]
              cases hinner : ipcDispatch fresh fuel t p with
              | error e =>
                rw [hinner] at hfuel
                exact fun heq => hfuel (congrArg _ (Except.error.inj heq))
              | ok r =>
                change (r.1.release.bind fun u => .ok (u, r.2)) ≠ _
                cases hrelease : r.1.release with
                | error e => exact ne_outOfFuel (release_fault hrelease)
                | ok u => exact ok_ne_outOfFuel
          · exact ⟨1, by rw [ipcDispatch_fragment _ hf hsize hcopy hpos]; exact ok_ne_outOfFuel⟩
    · exact ⟨1, by rw [ipcDispatch_whole _ hf]; exact ok_ne_outOfFuel⟩

/-- A call inside a call that calls itself has an empty internal packet. -/
theorem callsItself_twice {c c' c'' : Reassembly × ModemIo} (h : CallsItself c c')
    (h' : CallsItself c' c'') : c.1.cmd = fifoPktFifoInternal ∧ c.1.datasize = 0 := by
  have hsize : c'.1.multiFramePosition = c.1.datasize := by rw [← h.complete, h.datasize.1]
  have hadvanced : c.1.datasize = c.1.datasize + c.1.datasize := by
    have hcomplete := h'.complete
    rw [h'.datasize.1, h.datasize.1, h'.advanced, hsize, h.datasize.2] at hcomplete
    exact hcomplete
  exact ⟨h.cmd.2.symm.trans h'.internal, by grind⟩

/-- The one call that is repeated for ever: nothing is copied, and the packet is complete again. -/
theorem callsItself_loop {c : Reassembly × ModemIo} (hf : c.2.cmd = fifoPktFifoInternal)
    (hsize : c.2.datasize = 0) (hposition : c.1.multiFramePosition = 0) (hs : c.1.datasize = 0)
    (hcmd : c.1.cmd = fifoPktFifoInternal) (hmagic : c.2.magic = c.1.magic) : CallsItself c c where
  internal := hf
  notHeader := by rw [hsize]; decide
  advanced := by rw [hsize, hposition]; rfl
  complete := by rw [hs, hposition]
  magic := ⟨rfl, hmagic⟩
  cmd := ⟨rfl, hf.trans hcmd.symm⟩
  datasize := ⟨rfl, hsize.trans hs.symm⟩

theorem not_acc_of_loop {α : Type} {r : α → α → Prop} {x : α} (h : r x x) : ¬Acc r x := by
  intro hacc
  induction hacc with
  | intro x _ ih => exact ih x h h

theorem bottomsOut_iff : BottomsOut s f ↔ ¬CompletesEmptyInternal s f := by
  constructor
  · intro h hempty
    let t : Reassembly := { s with multiFramePosition := 0 }
    let p : ModemIo := ⟨s.magic, s.cmd, s.datasize, [], by rw [hempty.size]; rfl⟩
    have hcall : CallsItself (s, f) (t, p) := ⟨hempty.internal, hempty.notHeader,
      hempty.complete.symm, hempty.size, ⟨rfl, rfl⟩, ⟨rfl, rfl⟩, ⟨rfl, rfl⟩⟩
    have hloop : CallsItself (t, p) (t, p) :=
      callsItself_loop hempty.type hempty.size rfl hempty.size hempty.type rfl
    have hinner : Acc (fun inner outer => CallsItself outer inner) (t, p) := Acc.inv h hcall
    exact not_acc_of_loop (r := fun inner outer => CallsItself outer inner) hloop hinner
  · intro hempty
    refine Acc.intro _ fun c hc => Acc.intro _ fun c' hc' => ?_
    obtain ⟨htype, hsize⟩ := callsItself_twice hc hc'
    refine absurd ⟨hc.internal, hc.notHeader, htype, hsize, ?_⟩ hempty
    rw [← hc.advanced, ← hc.complete, hc.datasize.1]
    exact hsize

/-- **`ipc_dispatch` returns** exactly if the frame does not complete an empty packet of the internal
type. -/
theorem returns_iff (s : Reassembly) (f : ModemIo) :
    Returns s f ↔ ¬CompletesEmptyInternal s f := by
  rw [← bottomsOut_iff]
  exact ⟨fun h => h.bottomsOut, fun h => ⟨h, h.result⟩⟩

/-- The header of an empty packet of the internal type, and a fragment without data: from the state
behind the header, no fuel is enough for the fragment. -/
theorem not_returns_emptyInternal :
    ¬∀ (fresh : ℕ → UInt8) (tr : List (ModemIo × List Delivery)) (s : Reassembly) (f : ModemIo),
      Run (Dispatch fresh) .init tr s → Returns s f := by
  intro h
  let header : MultiFrameHeader := ⟨2, 0, fifoPktFifoInternal⟩
  let s := Reassembly.startMultiFrame (fun _ => 0) header
  let empty : ModemIo := ⟨frameMagic, fifoPktFifoInternal, 0, [], rfl⟩
  have hheader : Dispatch (fun _ => 0) .init
      (internalFrame header.toBytes (by rw [header.toBytes_length]; decide), []) s := by
    refine ⟨1, ?_⟩
    rw [ipcDispatch_header 0 rfl (by decide)]
    change Except.ok (Reassembly.startMultiFrame _ (.ofBytes header.toBytes), []) = _
    rw [header.ofBytes_toBytes]
  obtain ⟨fuel, hfuel⟩ := (h _ _ s empty (.one hheader)).result fun _ => 0
  apply hfuel
  clear hfuel
  induction fuel with
  | zero => rfl
  | succ fuel ih =>
    rw [ipcDispatch_complete (t := s) (p := empty) fuel rfl (by decide) rfl rfl rfl, ih]
    rfl

end

end Mocha.Ipc
