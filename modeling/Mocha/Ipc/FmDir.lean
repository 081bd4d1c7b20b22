import Mocha.Ipc.Fm
import Mocha.Lib.Run

/-! Open directories of the modem (`FmOpenDir`, `FmCloseDir`). A handle is the number of a slot of
`dirArray`. The slots are given out in turn, and none is given back. -/
namespace Mocha.Ipc
open Mocha.Lib

/-- The slots, the handles that are open with the streams that they were returned for, and the
streams that are open. -/
structure FmDirSystem where
  dirs : FmDirs
  handles : List (UInt32 × ℕ)
  streams : List ℕ
deriving DecidableEq

def FmDirSystem.init : FmDirSystem := ⟨.init, [], []⟩

/-- A request, with what the system calls of its operation do. -/
inductive FmDirRequest
  | openDir (sys : FmSystem) (rx : FmRequest)
  | closeDir (sys : FmSystem) (rx : FmRequest)

/-- The response that an operation starts from. -/
def FmRequest.response (rx : FmRequest) : FmResponse := ⟨rx.header, none, none, .unset⟩

/-- One request. `opendir` never returns the address of a stream that is open, and the modem closes
handles that are open. -/
inductive FmDirStep : FmDirSystem → FmDirRequest → FmDirSystem → Prop
  | opened {s : FmDirSystem} {sys : FmSystem} {rx : FmRequest} {dir : ℕ} {handle : UInt32} :
      sys.opendir (rx.name 0) = .ok dir → dir ∉ s.streams →
      (fmOpenDir sys s.dirs rx rx.response).2.funcRet = some handle →
      FmDirStep s (.openDir sys rx) ⟨(fmOpenDir sys s.dirs rx rx.response).1,
        (handle, dir) :: s.handles, dir :: s.streams⟩
  | refused {s : FmDirSystem} {sys : FmSystem} {rx : FmRequest} {e : Errno} :
      sys.opendir (rx.name 0) = .error e →
      FmDirStep s (.openDir sys rx) ⟨(fmOpenDir sys s.dirs rx rx.response).1, s.handles, s.streams⟩
  | closed {s : FmDirSystem} {sys : FmSystem} {rx : FmRequest} :
      rx.arg 0 ∈ s.handles.map Prod.fst →
      FmDirStep s (.closeDir sys rx) ⟨s.dirs, s.handles.filter fun p => p.1 ≠ rx.arg 0,
        s.streams.filter fun d => s.dirs.stream (rx.arg 0).toNat ≠ some d⟩

/-- What the slots should keep to: every open handle refers to the stream that it was returned for,
open handles are distinct, and every open stream is still in its slot. -/
structure HandlesKept (s : FmDirSystem) : Prop where
  refers : ∀ p ∈ s.handles, s.dirs.stream p.1.toNat = some p.2
  distinct : (s.handles.map Prod.fst).Nodup
  kept : ∀ d ∈ s.streams, ∃ handle, (handle, d) ∈ s.handles ∧ s.dirs.stream handle.toNat = some d

/-- A directory is opened only while the handle that comes next is not open. -/
def SlotFree (s : FmDirSystem) (a : FmDirRequest) : Prop :=
  match a with
  | .openDir sys rx => (sys.opendir (rx.name 0)).toBool →
      UInt32.ofNat s.dirs.dirIndex ∉ s.handles.map Prod.fst
  | .closeDir _ _ => True

/-- The slots are used in turn, and the open handles and streams belong together. -/
structure FmDirSystem.Inv (s : FmDirSystem) : Prop where
  length : s.dirs.dirArray.length = maxOpenDirs
  index : s.dirs.dirIndex < maxOpenDirs - 1
  kept : HandlesKept s
  opened : ∀ p ∈ s.handles, p.2 ∈ s.streams
  streams : (s.handles.map Prod.snd).Nodup

section

variable {s t : FmDirSystem} {a : FmDirRequest} {tr : List FmDirRequest}

theorem FmDirs.stream_set {dirs : FmDirs} {i : ℕ} (hi : i < dirs.dirArray.length) (index dir j : ℕ) :
    FmDirs.stream ⟨dirs.dirArray.set i (some dir), index⟩ j =
      if i = j then some dir else dirs.stream j := by
  unfold FmDirs.stream
  rw [List.getElem?_set]
  split_ifs with hij
  · rfl
  · rfl

/-- What opening a directory does to the slots, and the handle that it returns. -/
theorem fmOpenDir_ok {sys : FmSystem} {dirs : FmDirs} {rx : FmRequest} {tx : FmResponse} {dir : ℕ}
    (h : sys.opendir (rx.name 0) = .ok dir) : fmOpenDir sys dirs rx tx =
      (⟨dirs.dirArray.set dirs.dirIndex (some dir),
        if dirs.dirIndex + 1 = maxOpenDirs - 1 then 0 else dirs.dirIndex + 1⟩,
        fmReply tx (UInt32.ofNat dirs.dirIndex) 0) := by
  unfold fmOpenDir
  rw [h]

theorem fmOpenDir_error {sys : FmSystem} {dirs : FmDirs} {rx : FmRequest} {tx : FmResponse}
    {e : Errno} (h : sys.opendir (rx.name 0) = .error e) : (fmOpenDir sys dirs rx tx).1 = dirs := by
  unfold fmOpenDir
  rw [h]

/-- A directory is opened into a slot that no open handle refers to. -/
theorem FmDirSystem.Inv.opened_step (hinv : s.Inv) {sys : FmSystem} {rx : FmRequest} {dir : ℕ}
    {tx : FmResponse} (hdir : sys.opendir (rx.name 0) = .ok dir) (hnew : dir ∉ s.streams)
    (hnot : UInt32.ofNat s.dirs.dirIndex ∉ s.handles.map Prod.fst) :
    FmDirSystem.Inv ⟨(fmOpenDir sys s.dirs rx tx).1,
      (UInt32.ofNat s.dirs.dirIndex, dir) :: s.handles, dir :: s.streams⟩ := by
  obtain ⟨hlength, hindex, ⟨hrefers, hdistinct, hkept⟩, hopened, hstreams⟩ := hinv
  rw [fmOpenDir_ok hdir]
  have hslot : (UInt32.ofNat s.dirs.dirIndex).toNat = s.dirs.dirIndex :=
    UInt32.toNat_ofNat_of_lt' (hindex.trans (by decide))
  have hset : s.dirs.dirIndex < s.dirs.dirArray.length := by
    rw [hlength]
    exact hindex.trans (by decide)
  have hother : ∀ p ∈ s.handles, ¬s.dirs.dirIndex = p.1.toNat := by
    intro p hp heq
    refine hnot (List.mem_map.mpr ⟨p, hp, ?_⟩)
    rw [heq, UInt32.ofNat_toNat]
  refine ⟨?_, ?_, ⟨?_, ?_, ?_⟩, ?_, ?_⟩
  · rw [List.length_set, hlength]
  · dsimp only
    split_ifs with hwrap
    · decide
    · unfold maxOpenDirs at hindex hwrap ⊢
      omega
  · refine List.forall_mem_cons.mpr ⟨?_, fun p hp => ?_⟩
    · rw [FmDirs.stream_set hset, hslot, if_pos rfl]
    · rw [FmDirs.stream_set hset, if_neg (hother p hp), hrefers p hp]
  · exact List.nodup_cons.mpr ⟨hnot, hdistinct⟩
  · refine List.forall_mem_cons.mpr ⟨⟨_, List.mem_cons_self, ?_⟩, fun d hd => ?_⟩
    · rw [FmDirs.stream_set hset, hslot, if_pos rfl]
    · obtain ⟨handle, hhandle, hstream⟩ := hkept d hd
      refine ⟨handle, List.mem_cons_of_mem _ hhandle, ?_⟩
      rw [FmDirs.stream_set hset, if_neg (hother _ hhandle), hstream]
  · exact List.forall_mem_cons.mpr
      ⟨List.mem_cons_self, fun p hp => List.mem_cons_of_mem _ (hopened p hp)⟩
  · refine List.nodup_cons.mpr ⟨fun hmem => hnew ?_, hstreams⟩
    obtain ⟨p, hp, rfl⟩ := List.mem_map.mp hmem
    exact hopened p hp

/-- A handle is closed together with its stream. -/
theorem FmDirSystem.Inv.closed_step (hinv : s.Inv) {closed : UInt32}
    (hhandle : closed ∈ s.handles.map Prod.fst) :
    FmDirSystem.Inv ⟨s.dirs, s.handles.filter fun p => p.1 ≠ closed,
      s.streams.filter fun d => s.dirs.stream closed.toNat ≠ some d⟩ := by
  obtain ⟨hlength, hindex, ⟨hrefers, hdistinct, hkept⟩, hopened, hstreams⟩ := hinv
  obtain ⟨⟨handle, dir⟩, hmem, rfl⟩ := List.mem_map.mp hhandle
  have hstream : s.dirs.stream handle.toNat = some dir := hrefers _ hmem
  refine ⟨hlength, hindex, ⟨fun p hp => hrefers p (List.mem_of_mem_filter hp), ?_, ?_⟩, ?_, ?_⟩
  · exact hdistinct.sublist (List.filter_sublist.map Prod.fst)
  · intro d hd
    obtain ⟨hd, hne⟩ := List.mem_filter.mp hd
    obtain ⟨other, hother, hd'⟩ := hkept d hd
    refine ⟨other, List.mem_filter.mpr ⟨hother, decide_eq_true ?_⟩, hd'⟩
    rintro (rfl : other = handle)
    exact of_decide_eq_true hne hd'
  · intro p hp
    obtain ⟨hp, hne⟩ := List.mem_filter.mp hp
    refine List.mem_filter.mpr ⟨hopened p hp, decide_eq_true fun hsame => ?_⟩
    -- no other handle was returned for the stream that is closed
    have hdir : dir = p.2 := Option.some.inj (hstream.symm.trans hsame)
    have heq := List.inj_on_of_nodup_map hstreams hmem hp hdir
    exact of_decide_eq_true hne (congrArg Prod.fst heq).symm
  · exact hstreams.sublist (List.filter_sublist.map Prod.snd)

theorem FmDirSystem.Inv.step (hinv : s.Inv) (hfree : SlotFree s a) (hstep : FmDirStep s a t) :
    t.Inv := by
  cases hstep with
  | opened hdir hnew hhandle =>
    rw [fmOpenDir_ok hdir] at hhandle
    obtain rfl := Option.some.inj hhandle
    exact hinv.opened_step hdir hnew (hfree (by rw [hdir]; rfl))
  | refused hdir =>
    rw [fmOpenDir_error hdir]
    exact ⟨hinv.length, hinv.index, ⟨hinv.kept.refers, hinv.kept.distinct, hinv.kept.kept⟩,
      hinv.opened, hinv.streams⟩
  | closed hhandle => exact hinv.closed_step hhandle

theorem FmDirStep.deterministic {t' : FmDirSystem} (h : FmDirStep s a t) (h' : FmDirStep s a t') :
    t = t' := by
  cases h with
  | opened hdir hnew hhandle =>
    cases h' with
    | opened hdir' hnew' hhandle' =>
      obtain rfl := Except.ok.inj (hdir.symm.trans hdir')
      obtain rfl := Option.some.inj (hhandle.symm.trans hhandle')
      rfl
    | refused hdir' => exact nomatch hdir.symm.trans hdir'
  | refused hdir =>
    cases h' with
    | opened hdir' => exact nomatch hdir.symm.trans hdir'
    | refused hdir' => rfl
  | closed hhandle =>
    cases h' with
    | closed hhandle' => rfl

/-- **Open handles are kept** in all of a run exactly if, in that run, no directory is opened while
the handle that comes next is open. -/
theorem handlesKept_iff (tr : List FmDirRequest) (t : FmDirSystem) :
    (Run FmDirStep .init tr t ∧
        ∀ tr₁ u, tr₁ <+: tr → Run FmDirStep .init tr₁ u → HandlesKept u) ↔
      Run (Step.when FmDirStep SlotFree) .init tr t := by
  refine Run.prefixes_iff (N := fun _ => True) (I := fun _ s => s.Inv) (P := fun _ s => HandlesKept s)
    (fun _ _ _ _ h h' => h.deterministic h') (fun _ _ _ h => h) ?_ ?_ ?_ ?_ trivial
  · refine ⟨rfl, by decide, ⟨?_, List.nodup_nil, ?_⟩, ?_, List.nodup_nil⟩
    · exact fun p hp => absurd hp List.not_mem_nil
    · exact fun d hd => absurd hd List.not_mem_nil
    · exact fun p hp => absurd hp List.not_mem_nil
  · intro tr u a v _ hinv hfree hstep
    exact hinv.step hfree hstep
  · intro tr u _ hinv
    exact hinv.kept
  · intro tr u a v _ _ hstep hafter
    cases hstep with
    | @opened sys rx dir handle hdir hnew hhandle =>
      rw [fmOpenDir_ok hdir] at hhandle
      obtain rfl : UInt32.ofNat u.dirs.dirIndex = handle := Option.some.inj hhandle
      intro _
      exact (List.nodup_cons.mp hafter.distinct).1
    | refused hdir =>
      intro hok
      rw [hdir] at hok
      exact absurd hok Bool.false_ne_true
    | closed hhandle => exact trivial

/-- Ten directories are opened and none is closed: the tenth one takes the slot of the first. -/
theorem not_handlesKept_ten :
    ¬∀ (tr : List FmDirRequest) (s : FmDirSystem), Run FmDirStep .init tr s → HandlesKept s := by
  intro h
  let opens (dir : ℕ) : FmDirRequest :=
    .openDir { refusingSystem with opendir := fun _ => .ok dir } ⟨⟨0x1000000F, 1, 4, 0⟩, []⟩
  have hopen : ∀ (s : FmDirSystem) (dir : ℕ), dir ∉ s.streams → FmDirStep s (opens dir)
      ⟨⟨s.dirs.dirArray.set s.dirs.dirIndex (some dir),
        if s.dirs.dirIndex + 1 = maxOpenDirs - 1 then 0 else s.dirs.dirIndex + 1⟩,
        (UInt32.ofNat s.dirs.dirIndex, dir) :: s.handles, dir :: s.streams⟩ :=
    fun s dir hnew => .opened rfl hnew rfl
  have hrun : Run FmDirStep .init ([1, 2, 3, 4, 5, 6, 7, 8, 9, 10].map opens)
      ⟨⟨[10, 2, 3, 4, 5, 6, 7, 8, 9].map some ++ [none], 1⟩,
        [(0, 10), (8, 9), (7, 8), (6, 7), (5, 6), (4, 5), (3, 4), (2, 3), (1, 2), (0, 1)],
        [10, 9, 8, 7, 6, 5, 4, 3, 2, 1]⟩ := by
    refine .cons (hopen _ 1 (by decide)) (.cons (hopen _ 2 (by decide)) ?_)
    refine .cons (hopen _ 3 (by decide)) (.cons (hopen _ 4 (by decide)) ?_)
    refine .cons (hopen _ 5 (by decide)) (.cons (hopen _ 6 (by decide)) ?_)
    refine .cons (hopen _ 7 (by decide)) (.cons (hopen _ 8 (by decide)) ?_)
    exact .cons (hopen _ 9 (by decide)) (.cons (hopen _ 10 (by decide)) .nil)
  exact absurd (h _ _ hrun).distinct (by decide)

end

end Mocha.Ipc
