import Mocha.Ipc.Reassembly

/-! Which frame sequences make `ipc_dispatch` copy a fragment outside the reassembly buffer. -/
namespace Mocha.Ipc
open Mocha.Lib

variable {fresh : ℕ → UInt8}

/-- `ipc_read_loop`: every received frame is dispatched, then its buffer is freed. -/
def ipcReadLoop (fresh : ℕ → UInt8) (fuel : ℕ) :
    Reassembly → List ModemIo → Except Fault (Reassembly × List Delivery)
  | s, [] => .ok (s, [])
  | s, f :: fs => do
    let (t, out) ← ipcDispatch fresh fuel s f
    let (u, out') ← ipcReadLoop fresh fuel t fs
    return (u, out ++ out')

/-- However long the recursion is followed, no copy leaves the live buffer. -/
def CopiesInBounds (fresh : ℕ → UInt8) (s : Reassembly) (fs : List ModemIo) : Prop :=
  ∀ fuel, ipcReadLoop fresh fuel s fs ≠ .error .badCopy

/-- What the frames received so far have announced and not completed yet. -/
structure Announcement where
  type : UInt32
  size : UInt32
  received : ℕ

/-- The fragments among the frames fit what was announced: each comes while a packet is announced
and incomplete, and does not exceed the announced size. A completed packet must not be of the
internal type itself, unless it is another header (12 bytes) or is empty; an empty one is
dispatched for ever, so nothing is asked of what follows it. -/
def fragmentsFit : Option Announcement → List ModemIo → Bool
  | _, [] => true
  | a, f :: fs =>
    if f.cmd ≠ fifoPktFifoInternal then fragmentsFit a fs
    else if f.datasize = 0xC then
      let header := MultiFrameHeader.ofBytes f.data
      fragmentsFit (some ⟨header.type, header.size, 0⟩) fs
    else match a with
      | none => false
      | some a =>
        let received := a.received + f.data.length
        if received < a.size.toNat then fragmentsFit (some { a with received := received }) fs
        else if received = a.size.toNat then
          if a.type = fifoPktFifoInternal ∧ a.size ≠ 0xC then a.size = 0 else fragmentsFit none fs
        else false

/-- The state of the code and what was announced belong together. -/
def Tracks (s : Reassembly) : Option Announcement → Prop
  | none => s.Idle
  | some a => ∃ filled, filled.length = a.received ∧ s.Assembling a.type a.size filled

section Fit

variable {a : Option Announcement} {f : ModemIo} {fs : List ModemIo}

theorem fragmentsFit_whole (hf : f.cmd ≠ fifoPktFifoInternal) :
    fragmentsFit a (f :: fs) = fragmentsFit a fs := by
  cases a <;> simp [fragmentsFit, hf]

theorem fragmentsFit_header (hf : f.cmd = fifoPktFifoInternal) (hsize : f.datasize = 0xC) :
    fragmentsFit a (f :: fs) = fragmentsFit (some ⟨(MultiFrameHeader.ofBytes f.data).type,
      (MultiFrameHeader.ofBytes f.data).size, 0⟩) fs := by
  cases a <;> simp [fragmentsFit, hf, hsize]

theorem fragmentsFit_stray (hf : f.cmd = fifoPktFifoInternal) (hsize : f.datasize ≠ 0xC) :
    fragmentsFit none (f :: fs) = false := by
  simp [fragmentsFit, hf, hsize]

theorem fragmentsFit_fragment {a : Announcement} (hf : f.cmd = fifoPktFifoInternal)
    (hsize : f.datasize ≠ 0xC) :
    fragmentsFit (some a) (f :: fs) =
      if a.received + f.data.length < a.size.toNat then
        fragmentsFit (some { a with received := a.received + f.data.length }) fs
      else if a.received + f.data.length = a.size.toNat then
        if a.type = fifoPktFifoInternal ∧ a.size ≠ 0xC then a.size = 0 else fragmentsFit none fs
      else false := by
  rw [fragmentsFit, if_neg (not_not.mpr hf), if_neg hsize]

end Fit

theorem ipcReadLoop_mono {fuel : ℕ} {s : Reassembly} {fs : List ModemIo}
    {r : Except Fault (Reassembly × List Delivery)} (h : ipcReadLoop fresh fuel s fs = r)
    (hr : r ≠ .error .outOfFuel) : ipcReadLoop fresh (fuel + 1) s fs = r := by
  induction fs generalizing s r with
  | nil => exact h
  | cons f fs ih =>
    rw [ipcReadLoop] at h ⊢
    by_cases hd : ipcDispatch fresh fuel s f = .error .outOfFuel
    · rw [hd] at h; exact absurd h.symm hr
    · rw [ipcDispatch_mono rfl hd]
      cases hd' : ipcDispatch fresh fuel s f with
      | error e => rwa [hd'] at h
      | ok p =>
        rw [hd'] at h
        by_cases hl : ipcReadLoop fresh fuel p.1 fs = .error .outOfFuel
        · change (ipcReadLoop fresh fuel p.1 fs >>= _) = r at h
          rw [hl] at h
          exact absurd h.symm hr
        · change (ipcReadLoop fresh (fuel + 1) p.1 fs >>= _) = r
          rw [ih rfl hl]
          exact h

theorem ipcReadLoop_mono_le {fuel fuel' : ℕ} (hle : fuel ≤ fuel') {s : Reassembly}
    {fs : List ModemIo} {r : Except Fault (Reassembly × List Delivery)}
    (h : ipcReadLoop fresh fuel s fs = r) (hr : r ≠ .error .outOfFuel) :
    ipcReadLoop fresh fuel' s fs = r := by
  induction hle with
  | refl => exact h
  | step _ ih => exact ipcReadLoop_mono ih hr

/-! What the dispatch of one frame means for the rest. -/

section Step

variable {s t : Reassembly} {f : ModemIo} {fs : List ModemIo}

theorem copiesInBounds_cons {out : List Delivery} (h : Dispatch fresh s (f, out) t) :
    CopiesInBounds fresh s (f :: fs) ↔ CopiesInBounds fresh t fs := by
  obtain ⟨n, hn⟩ := h
  have hcons : ∀ fuel, n ≤ fuel → (ipcReadLoop fresh fuel s (f :: fs) = .error .badCopy ↔
      ipcReadLoop fresh fuel t fs = .error .badCopy) := by
    intro fuel hle
    rw [ipcReadLoop, ipcDispatch_mono_le hle hn (by simp)]
    change (ipcReadLoop fresh fuel t fs >>= _) = _ ↔ _
    cases ipcReadLoop fresh fuel t fs with
    | error e => rfl
    | ok p => exact iff_of_false (fun h => by cases h) (fun h => by cases h)
  constructor
  · intro hb fuel hbad
    have hbad' := ipcReadLoop_mono_le (le_max_right n fuel) hbad (by simp)
    exact hb _ ((hcons _ (le_max_left n fuel)).mpr hbad')
  · intro hb fuel hbad
    have hbad' := ipcReadLoop_mono_le (le_max_right n fuel) hbad (by simp)
    exact hb _ ((hcons _ (le_max_left n fuel)).mp hbad')

theorem not_copiesInBounds {fuel : ℕ} (h : ipcDispatch fresh fuel s f = .error .badCopy) :
    ¬CopiesInBounds fresh s (f :: fs) := by
  intro hb
  refine hb fuel ?_
  rw [ipcReadLoop, h]
  rfl

theorem copiesInBounds_of_diverges (h : ∀ fuel, ipcDispatch fresh fuel s f = .error .outOfFuel) :
    CopiesInBounds fresh s (f :: fs) := by
  intro fuel hbad
  rw [ipcReadLoop, h fuel] at hbad
  cases hbad

/-- Without a buffer every fragment is copied out of bounds. -/
theorem badCopy_of_idle (h : s.Idle) (hf : f.cmd = fifoPktFifoInternal) (hsize : f.datasize ≠ 0xC) :
    ipcDispatch fresh 1 s f = .error .badCopy := by
  refine ipcDispatch_copyError 0 hf hsize ?_
  unfold Reassembly.copyFragment
  cases hb : s.data with
  | none => rfl
  | some b =>
    have hdead : b.memcpy s.multiFramePosition.toNat f.data = none :=
      Block.memcpy_eq_none_iff.mpr fun hl => by simp [h b hb] at hl
    simp only [Option.bind_some, hdead]

variable {type size : UInt32} {filled : List UInt8}

/-- So is a fragment that exceeds the announced size. -/
theorem badCopy_of_exceeds (h : s.Assembling type size filled) (hf : f.cmd = fifoPktFifoInternal)
    (hsize : f.datasize ≠ 0xC) (hlen : size.toNat < filled.length + f.data.length) (fuel : ℕ) :
    ipcDispatch fresh (fuel + 1) s f = .error .badCopy := by
  obtain ⟨b, hb, -, hblen, -⟩ := h.buffer
  have hnone : b.memcpy s.multiFramePosition.toNat f.data = none := by
    rw [Block.memcpy_eq_none_iff, h.position, hblen]
    exact fun hc => by omega
  refine ipcDispatch_copyError fuel hf hsize ?_
  simp only [Reassembly.copyFragment, hb, Option.bind_some, hnone]

variable (fresh) in
/-- A completed packet of the internal type and length 12 is taken for a header: its buffer is
allocated by the inner call and freed by the outer one. -/
theorem dispatch_nested_header (h : s.Assembling fifoPktFifoInternal size filled)
    (hf : f.cmd = fifoPktFifoInternal) (hsize : f.datasize ≠ 0xC)
    (hlen : (filled ++ f.data).length = size.toNat) (h12 : size = 0xC) :
    ∃ t, Dispatch fresh s (f, []) t ∧ t.Idle := by
  obtain ⟨t, ht, hat⟩ := h.copyFragment (f := f) (by rw [List.length_append] at hlen; omega)
  have hd : ipcDispatch fresh 2 s f = _ :=
    ipcDispatch_complete 1 hf hsize ht (hat.complete_iff.mpr hlen) (hat.packet hlen)
  rw [ipcDispatch_header 0 rfl h12] at hd
  exact ⟨_, ⟨2, hd⟩, fun _ hb => Option.some.inj hb ▸ rfl⟩

/-- Any other non-empty one is copied behind its own end. -/
theorem badCopy_nested (h : s.Assembling fifoPktFifoInternal size filled)
    (hf : f.cmd = fifoPktFifoInternal) (hsize : f.datasize ≠ 0xC)
    (hlen : (filled ++ f.data).length = size.toNat) (h12 : size ≠ 0xC) (h0 : size ≠ 0) :
    ipcDispatch fresh 2 s f = .error .badCopy := by
  obtain ⟨t, ht, hat⟩ := h.copyFragment (f := f) (by rw [List.length_append] at hlen; omega)
  have hpos : 0 < size.toNat := Nat.pos_of_ne_zero fun h => h0 (UInt32.toNat_inj.mp h)
  rw [ipcDispatch_complete 1 hf hsize ht (hat.complete_iff.mpr hlen) (hat.packet hlen),
    badCopy_of_exceeds hat rfl h12 (by change _ < _ + (filled ++ f.data).length; omega) 0]
  rfl

/-- An empty one is dispatched for ever. -/
theorem diverges_nested (h : s.Assembling fifoPktFifoInternal 0 [])
    (hf : f.cmd = fifoPktFifoInternal) (hdata : f.data = []) (fuel : ℕ) :
    ipcDispatch fresh fuel s f = .error .outOfFuel := by
  induction fuel generalizing s f with
  | zero => rfl
  | succ fuel ih =>
    have hsize : f.datasize ≠ 0xC := by
      rw [Ne, ← UInt32.toNat_inj, ← f.data_length, hdata]; decide
    obtain ⟨t, ht, hat⟩ := h.copyFragment (f := f) (by rw [hdata]; rfl)
    rw [hdata, List.append_nil] at hat
    rw [ipcDispatch_complete fuel hf hsize ht (hat.complete_iff.mpr rfl) (hat.packet rfl),
      ih hat rfl rfl]
    rfl

end Step

/-- Along a run, the copies stay in bounds exactly while the fragments fit. -/
theorem copiesInBounds_iff_of_tracks {s : Reassembly} {a : Option Announcement} (h : Tracks s a)
    (fs : List ModemIo) : CopiesInBounds fresh s fs ↔ fragmentsFit a fs := by
  induction fs generalizing s a with
  | nil => exact ⟨fun _ => rfl, fun _ fuel hbad => by cases hbad⟩
  | cons f fs ih =>
    by_cases hf : f.cmd = fifoPktFifoInternal
    swap
    · rw [copiesInBounds_cons (dispatch_whole s hf), ih h, fragmentsFit_whole hf]
    by_cases hsize : f.datasize = 0xC
    · rw [copiesInBounds_cons (dispatch_header hf hsize),
        ih (a := some ⟨_, _, 0⟩) ⟨[], rfl, .start (.ofBytes f.data)⟩,
        fragmentsFit_header hf hsize]
    cases a with
    | none =>
      rw [fragmentsFit_stray hf hsize]
      exact iff_of_false (not_copiesInBounds (badCopy_of_idle h hf hsize)) (by simp)
    | some a =>
      rw [fragmentsFit_fragment hf hsize]
      obtain ⟨filled, hfilled, has⟩ := h
      have hlen : (filled ++ f.data).length = a.received + f.data.length := by
        rw [List.length_append, hfilled]
      split_ifs with hlt heq hint
      · obtain ⟨t, ht, hat⟩ := dispatch_fragment fresh has hf hsize (by omega)
        rw [copiesInBounds_cons ht, ih (a := some ⟨_, _, _⟩) ⟨_, hlen, hat⟩]
      · obtain ⟨htype, h12⟩ := hint
        rw [htype] at has
        rw [decide_eq_true_eq]
        by_cases h0 : a.size = 0
        · have hnil : filled = [] ∧ f.data = [] := by
            rw [h0, UInt32.toNat_zero, ← hlen, List.length_eq_zero_iff, List.append_eq_nil_iff] at heq
            exact heq
          rw [h0, hnil.1] at has
          exact iff_of_true (copiesInBounds_of_diverges (diverges_nested has hf hnil.2)) h0
        · exact iff_of_false
            (not_copiesInBounds (badCopy_nested has hf hsize (hlen.trans heq) h12 h0)) h0
      · by_cases htype : a.type = fifoPktFifoInternal
        · rw [htype] at has
          obtain ⟨t, ht, hidle⟩ := dispatch_nested_header fresh has hf hsize
            (hlen.trans heq) (by simpa [htype] using hint)
          rw [copiesInBounds_cons ht, ih (a := none) hidle]
        · obtain ⟨t, ht, hidle⟩ := dispatch_last fresh has htype hf hsize (hlen.trans heq)
          rw [copiesInBounds_cons ht, ih (a := none) hidle]
      · exact iff_of_false
          (not_copiesInBounds (badCopy_of_exceeds has hf hsize (by omega) 0)) (by simp)

/-- **From power-up, every copy of a fragment lies inside the live reassembly buffer** exactly if
the fragments received fit the headers received before them. -/
theorem ipcReadLoop_copiesInBounds_iff (fs : List ModemIo) :
    CopiesInBounds fresh .init fs ↔ fragmentsFit none fs :=
  copiesInBounds_iff_of_tracks (a := none) Reassembly.idle_init fs

/-- A header that announces 4 bytes, and a fragment of 5. -/
theorem not_copiesInBounds_oversized :
    ¬∀ (fresh : ℕ → UInt8) (fs : List ModemIo),
      (∀ f ∈ fs, f.datasize.toNat ≤ maxSingleFrameData) → CopiesInBounds fresh .init fs := by
  intro h
  let header := internalFrame (MultiFrameHeader.toBytes ⟨0x02, 4, fifoPktTapi⟩) (by decide)
  let fragment := internalFrame [1, 2, 3, 4, 5] (by decide)
  refine h (fun _ => 0) [header, fragment] (by decide) 1 ?_
  rfl

end Mocha.Ipc
