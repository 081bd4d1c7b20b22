import Mocha.Ril.Threads

/-! When the threads of the daemon wait for each other: the mutexes are taken in one order everywhere but
in `gprs_stop_tunneling_thread`. -/
namespace Mocha.Ril
open Mocha.Lib Relation

variable {ι κ : Type*}

/-- The order in which the mutexes are taken. -/
def RilMutex.rank : RilMutex κ → ℕ
  | .srsClientData => 0
  | .gprsConnection _ => 1
  | .rilData => 2
  | .srsClient | .ipcPacketClient => 3

/-- A thread with `RIL_LOCK` waits for the mutex of a connection. -/
def ThreadPoint.IsStopLock (p : ThreadPoint κ) : Prop := ∃ w c, p = .rilSection w (.stopLock c)

/-- A stop waits for a tunnel whose thread waits for `RIL_LOCK`. -/
def Threads.StopMeetsSend (s : Threads ι κ) : Prop :=
  ∃ t u w c, s.point t = .rilSection w (.stopLock c) ∧ s.point u = .rilLock (.gprsTunnelingThread c)

/-- A thread serves the tunnel of a connection that was freed. -/
def Threads.Dangling (s : Threads ι κ) : Prop :=
  ∃ t c sends, (s.point t).tunnel = some (c, sends) ∧ s.connection c = .freed

/-- The threads before and after a stop begins or a connection is freed: nobody waits for `RIL_LOCK` with
the mutex of the connection, and nobody serves its tunnel. -/
def StopsSafely (s : Threads ι κ) (a : ι × ThreadPoint κ) : Prop :=
  (∀ w c, a.2 = .rilSection w (.stopLock c) → ∀ u, s.point u ≠ .rilLock (.gprsTunnelingThread c)) ∧
    ∀ w c, s.point a.1 = .rilSection w (.unregister c) → ∀ u sends,
      (s.point u).tunnel ≠ some (c, sends)

section Points

variable {p : ThreadPoint κ} {l l' : RilMutex κ}

theorem RilLocker.rank_lt_two {w : RilLocker κ} (h : l ∈ w.held) : l.rank < 2 := by
  cases w with
  | srsDispatch =>
    obtain rfl := List.mem_singleton.mp h
    exact Nat.two_pos
  | gprsTunnelingThread c =>
    obtain rfl := List.mem_singleton.mp h
    exact Nat.one_lt_two
  | _ => cases h

theorem RilLocker.rank_lt_three {w : RilLocker κ} (h : l ∈ RilMutex.rilData :: w.held) :
    l.rank < 3 := by
  obtain rfl | hw := List.mem_cons.mp h
  · exact Nat.lt_succ_self 2
  · exact (rank_lt_two hw).trans (Nat.lt_succ_self 2)

/-- The order is kept everywhere else. -/
theorem ThreadPoint.rank_lt (hp : ¬p.IsStopLock) (hl : p.wants = some l) (hl' : l' ∈ p.held) :
    l'.rank < l.rank := by
  cases p with
  | rilLock w =>
    obtain rfl := Option.some.inj hl
    exact RilLocker.rank_lt_two hl'
  | rilSection w p =>
    cases p with
    | ipcSendLock =>
      obtain rfl := Option.some.inj hl
      exact RilLocker.rank_lt_three hl'
    | srsSendLock =>
      obtain rfl := Option.some.inj hl
      exact RilLocker.rank_lt_three hl'
    | stopLock c => exact absurd ⟨w, c, rfl⟩ hp
    | _ => cases hl
  | srsRecvLock =>
    obtain rfl := Option.some.inj hl
    obtain rfl := List.mem_singleton.mp hl'
    exact Nat.zero_lt_succ 2
  | readLock | srsFillLock | srsScanLock | srsRegisterLock | batterySendLock | tunnelLock => cases hl'
  | _ => cases hl

/-- Whoever waits with the mutex of a connection serves its tunnel or has `RIL_LOCK`. -/
theorem ThreadPoint.waits_with_connection {c : κ} (hheld : RilMutex.gprsConnection c ∈ p.held)
    (hdata : RilMutex.rilData ∉ p.held) (hwants : p.wants = some l) :
    p = .rilLock (.gprsTunnelingThread c) := by
  cases p with
  | rilLock w =>
    cases w with
    | gprsTunnelingThread c' =>
      obtain rfl := RilMutex.gprsConnection.inj (List.mem_singleton.mp hheld)
      rfl
    | srsDispatch => cases List.mem_singleton.mp hheld
    | _ => cases hheld
  | rilSection w p => exact absurd (List.mem_append_right _ List.mem_cons_self) hdata
  | srsRecvLock => cases List.mem_singleton.mp hheld
  | readLock | srsFillLock | srsScanLock | srsRegisterLock | batterySendLock | tunnelLock => cases hheld
  | _ => cases hwants

theorem ThreadPoint.rilData_mem_held (w : RilLocker κ) (p : RilSection κ) :
    RilMutex.rilData ∈ (ThreadPoint.rilSection w p).held :=
  List.mem_append_right _ List.mem_cons_self

/-- A thread that is about to stop a tunnel has no mutex but `RIL_LOCK`. -/
theorem ThreadPoint.stopLock_held {w : RilLocker κ} {c : κ} (hw : w.StopsTunnels) :
    (ThreadPoint.rilSection w (.stopLock c)).held = [.rilData] := by
  obtain rfl | rfl := hw <;> rfl

end Points

section Steps

variable {s : Threads ι κ}

/-- Tunnels are started and stopped by the functions that do so. -/
def ThreadPoint.Lawful : ThreadPoint κ → Prop
  | .rilSection w (.threadStarted _) | .rilSection w (.stopLock _) | .rilSection w (.stopUnlock _)
  | .rilSection w (.unregister _) => w.StopsTunnels
  | _ => True

/-- What holds of the threads in any case: whose the mutexes are, and who stops a tunnel. -/
structure Threads.Sound (s : Threads ι κ) : Prop where
  owned : s.Owned (rilCode κ)
  lawful : ∀ t, (s.point t).Lawful

theorem circle_of_stopMeetsSend (h : s.Sound) {t u : ι} {w : RilLocker κ} {c : κ}
    (ht : s.point t = .rilSection w (.stopLock c)) (hu : s.point u = .rilLock (.gprsTunnelingThread c)) :
    TransGen (s.WaitsFor (rilCode κ)) t t := by
  have htu : s.WaitsFor (rilCode κ) t u := by
    refine ⟨.gprsConnection c, ?_, (h.owned.owner _ u).mpr ?_⟩
    · rw [ht]
      rfl
    · rw [hu]
      exact List.mem_cons_self
  have hut : s.WaitsFor (rilCode κ) u t := by
    refine ⟨.rilData, ?_, (h.owned.owner _ t).mpr ?_⟩
    · rw [hu]
      rfl
    · rw [ht]
      exact ThreadPoint.rilData_mem_held w (.stopLock c)
  exact .tail (.single htu) hut

/-- **The deadlocks.** Threads wait for each other just when a stop meets a frame that is to be sent. -/
theorem deadlock_iff (h : s.Sound) : s.Deadlock (rilCode κ) ↔ s.StopMeetsSend := by
  constructor
  · intro hdead
    have hrank : ∀ u, ¬(s.point u).IsStopLock → ∀ l l', (rilCode κ).wants (s.point u) = some l →
        s.owner l' = some u → l'.rank < l.rank := fun u hu l l' hl hl' =>
      ThreadPoint.rank_lt hu hl ((h.owned.owner l' u).mp hl')
    obtain ⟨t, ⟨w, c, ht⟩, hcircle⟩ := MutexState.exists_of_deadlock RilMutex.rank _ hrank hdead
    obtain ⟨u, hu, -⟩ := TransGen.head'_iff.mp hcircle
    obtain ⟨v, l, hl, -⟩ := MutexState.blocked_of_circle
      (MutexState.circle_of_reflTransGen hcircle (.single hu))
    obtain ⟨m, hm, howner⟩ := hu
    rw [ht] at hm
    obtain rfl := Option.some.inj hm
    have hheld := (h.owned.owner _ u).mp howner
    have hlawful := h.lawful t
    rw [ht] at hlawful
    have hstop : (rilCode κ).held (s.point t) = [.rilData] := by
      rw [ht]
      exact ThreadPoint.stopLock_held hlawful
    refine ⟨t, u, w, c, ht, ThreadPoint.waits_with_connection hheld (fun hu => ?_) hl⟩
    -- `RIL_LOCK` is taken by the thread that stops the tunnel, which has no other mutex.
    have hdata : RilMutex.rilData ∈ (rilCode κ).held (s.point t) := by
      rw [hstop]
      exact List.mem_cons_self
    obtain rfl := h.owned.unique hdata hu
    rw [hstop] at hheld
    cases List.mem_singleton.mp hheld
  · rintro ⟨t, u, w, c, ht, hu⟩
    exact ⟨t, circle_of_stopMeetsSend h ht hu⟩

theorem Threads.Initial.sound (h : s.Initial) : s.Sound := by
  refine ⟨h.owned, fun t => ?_⟩
  have hstart := h.start t
  generalize s.point t = p at hstart
  cases p with
  | rilSection w p => cases w <;> cases p <;> trivial
  | _ => trivial

end Steps

section Runs

variable [DecidableEq ι] [DecidableEq κ] {s s' s₀ : Threads ι κ} {a : ι × ThreadPoint κ}
  {tr : List (ι × ThreadPoint κ)} {t u : ι}

theorem PointStep.lawful {k k' : κ → ConnectionMemory} {p q : ThreadPoint κ}
    {call : MutexCall (RilMutex κ)} (h : PointStep k p call q k') (hp : p.Lawful) : q.Lawful := by
  cases h with
  | rilUnlock w => cases w <;> trivial
  | stopTunneling w hw => exact hw
  | stopIdle w hw => exact hw
  | stopLock => exact hp
  | stopUnlock => exact hp
  | _ => trivial

/-- A move of one thread: what is sound stays so, and a thread in a circle stays where it is. -/
structure Threads.Moved (s s' : Threads ι κ) : Prop where
  sound : s'.Sound
  circle : ∀ t, TransGen (s.WaitsFor (rilCode κ)) t t → TransGen (s'.WaitsFor (rilCode κ)) t t
  point : ∀ t, TransGen (s.WaitsFor (rilCode κ)) t t → s'.point t = s.point t

theorem Threads.Sound.act (h : s.Sound) {call : MutexCall (RilMutex κ)} {q : ThreadPoint κ}
    (hfits : call.Fits (rilCode κ) (s.point t) q) (hcall : call.Allowed s.owner t) (hq : q.Lawful)
    (k : κ → ConnectionMemory) : s.Moved ⟨s.act t call q, k⟩ := by
  have hkeeps := MutexState.keepsBlocked_act hfits hcall
  refine ⟨⟨h.owned.act hfits hcall, fun u => ?_⟩, fun u hu => hkeeps.circle hu, fun u hu =>
    hkeeps.point u (MutexState.blocked_of_circle hu)⟩
  by_cases hu : u = t
  · subst hu
    rw [MutexState.act_point_self]
    exact hq
  · rw [MutexState.act_point_of_ne hu]
    exact h.lawful u

theorem ThreadsStep.moved (h : ThreadsStep s a s') (hs : s.Sound) : s.Moved s' := by
  cases h with
  | act hstep hcall => exact hs.act hstep.fits hcall (hstep.lawful (hs.lawful _)) _
  | @start _ t u c n ht hu hc =>
    have hfits : MutexCall.none.Fits (rilCode κ) (s.point t)
        (.rilSection .ipcReadLoop (.threadStarted c)) := by
      rw [ht]
      exact ⟨rfl, rfl⟩
    have hfirst := hs.act hfits trivial (.inr rfl) s.connection
    have hut : u ≠ t := by
      rintro rfl
      rw [ht] at hu
      cases hu
    have hfits' : MutexCall.none.Fits (rilCode κ)
        ((s.act t .none (.rilSection .ipcReadLoop (.threadStarted c))).point u) (.tunnelLock c) := by
      rw [MutexState.act_point_of_ne hut, hu]
      exact ⟨rfl, rfl⟩
    have hsecond := hfirst.sound.act hfits' trivial trivial s.connection
    exact ⟨hsecond.sound, fun v hv => hsecond.circle v (hfirst.circle v hv), fun v hv =>
      (hsecond.point v (hfirst.circle v hv)).trans (hfirst.point v hv)⟩

theorem Threads.Sound.run (hs : s.Sound) (h : Run ThreadsStep s tr s') : s'.Sound :=
  h.invariant _ (fun _ _ _ hu hstep => (hstep.moved hu).sound) hs

/-- A circle stays, and its threads stay where they are. -/
theorem Threads.Sound.run_circle (hs : s.Sound) (h : Run ThreadsStep s tr s')
    (ht : TransGen (s.WaitsFor (rilCode κ)) t t) :
    TransGen (s'.WaitsFor (rilCode κ)) t t ∧ s'.point t = s.point t := by
  induction h with
  | nil => exact ⟨ht, rfl⟩
  | snoc h hstep ih =>
    have hmoved := hstep.moved (hs.run h)
    exact ⟨hmoved.circle t ih.1, (hmoved.point t ih.1).trans ih.2⟩

/-- After a deadlock `RIL_LOCK` stays with the thread that has it. -/
theorem deadlock_forever (hs : s.Sound) (hmeets : s.StopMeetsSend) : ∃ t, ∀ tr' s',
    Run ThreadsStep s tr' s' → s'.Deadlock (rilCode κ) ∧ s'.owner .rilData = some t := by
  obtain ⟨t, u, w, c, ht, hu⟩ := hmeets
  refine ⟨t, fun tr' s' h => ?_⟩
  obtain ⟨hcircle, hpoint⟩ := hs.run_circle h (circle_of_stopMeetsSend hs ht hu)
  refine ⟨⟨t, hcircle⟩, ((hs.run h).owned.owner _ t).mpr ?_⟩
  rw [hpoint, ht]
  exact ThreadPoint.rilData_mem_held w (.stopLock c)

end Runs
end Mocha.Ril
