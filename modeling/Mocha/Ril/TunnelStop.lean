import Mathlib.Data.Fintype.EquivFin
import Mathlib.Tactic.FinCases
import Mocha.Ril.TunnelMemory

/-! The stop of a tunnel (`gprs_stop_tunneling_thread`, `ril_gprs_connection_unregister`) against the
thread that serves it: when it is safe, and what holds in any case. -/
namespace Mocha.Ril
open Mocha.Lib Relation

variable {ι κ : Type*} {s s' s₀ : Threads ι κ} {c : κ} {t u : ι}

section Steps

variable [DecidableEq ι] [DecidableEq κ] {a : ι × ThreadPoint κ} {tr : List (ι × ThreadPoint κ)}
  {call : MutexCall (RilMutex κ)} {q : ThreadPoint κ} {k : κ → ConnectionMemory}

/-- **Frames of a freed connection.** Whatever the threads do, one that has a frame to send, or has just
sent it, finds its connection. -/
theorem frame_connection_live (h₀ : s₀.Initial) (h : Run ThreadsStep s₀ tr s)
    (ht : (s.point t).tunnel = some (c, true)) : ∃ n, s.connection c = .live n := by
  have hfits := (h₀.run h).2 c
  cases hc : s.connection c with
  | absent => exact absurd ⟨t, true, ht⟩ (hfits.absent hc)
  | live n => exact ⟨n, rfl⟩
  | freed => exact absurd ⟨t, ht⟩ (hfits.freed hc)

/-- Only `pthread_create` brings a thread to a tunnel. -/
theorem PointStep.tunnel_before {p : ThreadPoint κ} {k' : κ → ConnectionMemory}
    (h : PointStep k p call q k') {sends : Bool} (hq : q.tunnel = some (c, sends)) :
    ∃ sends', p.tunnel = some (c, sends') := by
  cases h with
  | rilLock w => cases w <;> exact ⟨_, hq⟩
  | rilUnlock w => cases w <;> exact ⟨_, hq⟩
  | tunnelIdle | tunnelRead | tunnelUnlock =>
    cases hq
    exact ⟨_, rfl⟩
  | readRecv | srsRecv | request | tunnelExit => cases hq
  | ipcSend w | ipcSendLock w | ipcSendUnlock w | srsSend w | srsSendLock w | srsSendUnlock w =>
    exact ⟨_, (tunnel_rilSection w _ _).trans hq⟩
  | threadStarted w | stopTunneling w | stopIdle w | stopLock w | stopUnlock w
  | connectionUnregister w => exact ⟨_, (tunnel_rilSection w _ _).trans hq⟩
  | _ => exact ⟨_, hq⟩

/-- Only `ril_gprs_connection_unregister` frees a connection. -/
theorem PointStep.freed_before {p : ThreadPoint κ} {k' : κ → ConnectionMemory}
    (h : PointStep k p call q k') (hk : k' c = .freed) :
    k c = .freed ∨ ∃ w, p = .rilSection w (.unregister c) := by
  cases h with
  | connectionRegister c' | threadStarted w c' | stopTunneling w hw c' =>
    by_cases hcc : c = c'
    · subst hcc
      rw [Function.update_self] at hk
      cases hk
    · rw [Function.update_of_ne hcc] at hk
      exact .inl hk
  | connectionUnregister w c' =>
    by_cases hcc : c = c'
    · subst hcc
      exact .inr ⟨w, rfl⟩
    · rw [Function.update_of_ne hcc] at hk
      exact .inl hk
  | _ => exact .inl hk

/-- Frames are sent by the threads of tunnels that are not to be stopped. -/
theorem PointStep.not_stopped {p : ThreadPoint κ} {k' : κ → ConnectionMemory}
    (h : PointStep k p call (.rilLock (.gprsTunnelingThread c)) k') : k c ≠ .live 2 := by
  generalize hq : ThreadPoint.rilLock (.gprsTunnelingThread c) = q at h
  cases h with
  | tunnelRead c' n hc' hn =>
    cases hq
    rw [hc']
    exact fun h => hn (ConnectionMemory.live.inj h)
  | rilUnlock w => cases w <;> cases hq
  | _ => cases hq

/-- Where the threads stand after the start of a tunnel. -/
theorem point_start (t u v : ι) (c : κ) :
    v = u ∧ ((s.act t .none (.rilSection .ipcReadLoop (.threadStarted c))).act u .none
        (.tunnelLock c)).point v = .tunnelLock c ∨
      v = t ∧ ((s.act t .none (.rilSection .ipcReadLoop (.threadStarted c))).act u .none
        (.tunnelLock c)).point v = .rilSection .ipcReadLoop (.threadStarted c) ∨
      ((s.act t .none (.rilSection .ipcReadLoop (.threadStarted c))).act u .none
        (.tunnelLock c)).point v = s.point v := by
  by_cases hvu : v = u
  · subst hvu
    exact .inl ⟨rfl, MutexState.act_point_self⟩
  · rw [MutexState.act_point_of_ne hvu]
    by_cases hvt : v = t
    · subst hvt
      exact .inr (.inl ⟨rfl, MutexState.act_point_self⟩)
    · exact .inr (.inr (MutexState.act_point_of_ne hvt))

/-- A stop begins safely, and a connection is freed safely, in a step that is safe. -/
theorem ThreadsStep.safe (h : ThreadsStep s a s') (hfits : ∀ c, s.Fits c) (ha : StopsSafely s a)
    (hmeets : ¬s.StopMeetsSend) (hdangling : ¬s.Dangling) : ¬s'.StopMeetsSend ∧ ¬s'.Dangling := by
  cases h with
  | @act _ t call q k hstep hcall =>
    refine ⟨?_, ?_⟩
    · rintro ⟨t', u, w, c, ht', hu⟩
      by_cases ht : t' = t
      · subst ht
        have hq : q = .rilSection w (.stopLock c) := MutexState.act_point_self.symm.trans ht'
        have hut : u ≠ t' := by
          rintro rfl
          cases ht'.symm.trans hu
        exact ha.1 w c hq u ((MutexState.act_point_of_ne hut).symm.trans hu)
      · have hstop : s.point t' = .rilSection w (.stopLock c) :=
          (MutexState.act_point_of_ne ht).symm.trans ht'
        by_cases hut : u = t
        · subst hut
          obtain rfl : q = .rilLock (.gprsTunnelingThread c) := MutexState.act_point_self.symm.trans hu
          exact hstep.not_stopped ((hfits c).stopLock ⟨t', congrArg ThreadPoint.stage hstop⟩)
        · exact hmeets ⟨t', u, w, c, hstop, (MutexState.act_point_of_ne hut).symm.trans hu⟩
    · rintro ⟨u, c, sends, hu, hk⟩
      have hserves : s.Serves c := by
        by_cases hut : u = t
        · subst hut
          obtain ⟨sends', hp⟩ := hstep.tunnel_before ((congrArg _ MutexState.act_point_self.symm).trans hu)
          exact ⟨u, sends', hp⟩
        · exact ⟨u, sends, (congrArg _ (MutexState.act_point_of_ne hut).symm).trans hu⟩
      obtain ⟨v, sends', hv⟩ := hserves
      obtain hfreed | ⟨w, hp⟩ := hstep.freed_before hk
      · exact hdangling ⟨v, c, sends', hv, hfreed⟩
      · exact ha.2 w c hp v sends' hv
  | @start _ t u c' n ht hu hc' =>
    have hpoint := fun v => point_start (s := s) t u v c'
    refine ⟨?_, ?_⟩
    · rintro ⟨t', u', w, c, ht', hu'⟩
      refine hmeets ⟨t', u', w, c, ?_, ?_⟩
      · obtain ⟨-, hv⟩ | ⟨-, hv⟩ | hv := hpoint t'
        · cases hv.symm.trans ht'
        · cases hv.symm.trans ht'
        · exact hv.symm.trans ht'
      · obtain ⟨-, hv⟩ | ⟨-, hv⟩ | hv := hpoint u'
        · cases hv.symm.trans hu'
        · cases hv.symm.trans hu'
        · exact hv.symm.trans hu'
    · rintro ⟨v, c, sends, hv, hk⟩
      obtain ⟨-, hpv⟩ | ⟨-, hpv⟩ | hpv := hpoint v
      · cases (congrArg _ hpv.symm).trans hv
        cases hc'.symm.trans hk
      · cases (congrArg _ hpv.symm).trans hv
      · exact hdangling ⟨v, c, sends, (congrArg _ hpv.symm).trans hv, hk⟩

/-- A step that is not safe leads to a deadlock, or to a thread with a freed connection. -/
theorem ThreadsStep.not_safe (h : ThreadsStep s a s') (hs : s.Sound) (ha : ¬StopsSafely s a) :
    s'.StopMeetsSend ∨ s'.Dangling := by
  rw [StopsSafely, not_and_or] at ha
  push Not at ha
  cases h with
  | @act _ t call q k hstep hcall =>
    obtain ⟨w, c, hq, u, hu⟩ | ⟨w, c, hp, u, sends, hu⟩ := ha
    · obtain rfl : q = .rilSection w (.stopLock c) := hq
      have hut : u ≠ t := by
        rintro rfl
        rw [hu] at hstep
        cases hstep
      exact .inl ⟨t, u, w, c, MutexState.act_point_self, (MutexState.act_point_of_ne hut).trans hu⟩
    · have hp : s.point t = .rilSection w (.unregister c) := hp
      have hut : u ≠ t := by
        rintro rfl
        have hlawful := hs.lawful u
        rw [hp] at hlawful hu
        rw [tunnel_of_stops hlawful] at hu
        cases hu
      rw [hp] at hstep
      refine .inr ⟨u, c, sends, (congrArg _ (MutexState.act_point_of_ne hut)).trans hu, ?_⟩
      cases hstep
      exact Function.update_self ..
  | @start _ t u c' n ht hu hc' =>
    obtain ⟨w, c, hq, -⟩ | ⟨w, c, hp, -⟩ := ha
    · cases hq
    · cases ht.symm.trans hp

/-- **The stop of a tunnel.** Runs in which each stop begins while no frame of its connection waits for
`RIL_LOCK`, and ends when the thread of the tunnel has gone, lead to no deadlock and to no thread with a
freed connection; any other stop leads to one of these at once. -/
theorem tunnel_stop_safe (h₀ : s₀.Initial) :
    (∀ tr s, Run (Step.when ThreadsStep StopsSafely) s₀ tr s →
        ¬s.Deadlock (rilCode κ) ∧ ¬s.Dangling) ∧
      ∀ tr s a s', Run ThreadsStep s₀ tr s → ThreadsStep s a s' → ¬StopsSafely s a →
        s'.Deadlock (rilCode κ) ∨ s'.Dangling := by
  constructor
  · intro tr s h
    have hinv := h.invariant (fun s => (s.Sound ∧ ∀ c, s.Fits c) ∧ ¬s.StopMeetsSend ∧ ¬s.Dangling)
      (fun u a v hu hstep => ⟨⟨(hstep.2.moved hu.1.1).sound, hstep.2.fits_connection hu.1.1 hu.1.2⟩,
        hstep.2.safe hu.1.2 hstep.1 hu.2.1 hu.2.2⟩) ⟨⟨h₀.sound, h₀.fits⟩, h₀.safe⟩
    exact ⟨fun hdead => hinv.2.1 ((deadlock_iff hinv.1.1).mp hdead), hinv.2.2⟩
  · intro tr s a s' h hstep ha
    have hs := (h₀.run h).1
    exact (hstep.not_safe hs ha).imp_left (deadlock_iff (hstep.moved hs).sound).mpr

/-- From each point but the first and the last one there is a way on. -/
theorem exists_pointStep (k : κ → ConnectionMemory) {p : ThreadPoint κ} (hstart : p ≠ .notStarted)
    (hended : p ≠ .ended) (hlive : ∀ c sends, p.tunnel = some (c, sends) → ∃ n, k c = .live n) :
    ∃ call q k', PointStep k p call q k' := by
  cases p with
  | notStarted => exact absurd rfl hstart
  | ended => exact absurd rfl hended
  | rilLock w => exact ⟨_, _, _, .rilLock w⟩
  | rilSection w p =>
    cases p with
    | running => exact ⟨_, _, _, .rilUnlock w⟩
    | ipcSendLock => exact ⟨_, _, _, .ipcSendLock w⟩
    | ipcSending => exact ⟨_, _, _, .ipcSendUnlock w⟩
    | srsSendLock => exact ⟨_, _, _, .srsSendLock w⟩
    | srsSending => exact ⟨_, _, _, .srsSendUnlock w⟩
    | threadStarted c => exact ⟨_, _, _, .threadStarted w c⟩
    | stopLock c => exact ⟨_, _, _, .stopLock w c⟩
    | stopUnlock c => exact ⟨_, _, _, .stopUnlock w c⟩
    | unregister c => exact ⟨_, _, _, .connectionUnregister w c⟩
  | rild => exact ⟨_, _, _, .request⟩
  | readSelect => exact ⟨_, _, _, .readSelect⟩
  | readLock => exact ⟨_, _, _, .readLock⟩
  | readRecv => exact ⟨_, _, _, .readRecv⟩
  | srsHead => exact ⟨_, _, _, .srsRound⟩
  | srsFillLock => exact ⟨_, _, _, .srsFillLock⟩
  | srsFill => exact ⟨_, _, _, .srsFill⟩
  | srsSelect => exact ⟨_, _, _, .srsSelect⟩
  | srsScanLock => exact ⟨_, _, _, .srsScanLock⟩
  | srsScan => exact ⟨_, _, _, .srsScan⟩
  | srsRecvLock => exact ⟨_, _, _, .srsRecvLock⟩
  | srsRecv => exact ⟨_, _, _, .srsRecv⟩
  | srsAccept => exact ⟨_, _, _, .srsAccept⟩
  | srsRegisterLock => exact ⟨_, _, _, .srsRegisterLock⟩
  | srsRegister => exact ⟨_, _, _, .srsRegister⟩
  | batterySleep => exact ⟨_, _, _, .battery⟩
  | batterySendLock => exact ⟨_, _, _, .batterySendLock⟩
  | batterySend => exact ⟨_, _, _, .batterySend⟩
  | tunnelLock c =>
    obtain ⟨n, hn⟩ := hlive c _ rfl
    exact ⟨_, _, _, .tunnelLock c n hn⟩
  | tunnelSelect c =>
    obtain ⟨n, hn⟩ := hlive c _ rfl
    by_cases h2 : n = 2
    · subst h2
      exact ⟨_, _, _, .tunnelStopped c hn⟩
    · exact ⟨_, _, _, .tunnelIdle c n hn h2⟩
  | tunnelUnlock c =>
    obtain ⟨n, hn⟩ := hlive c _ rfl
    exact ⟨_, _, _, .tunnelUnlock c n hn⟩
  | tunnelExit c =>
    obtain ⟨n, hn⟩ := hlive c _ rfl
    exact ⟨_, _, _, .tunnelExit c n hn⟩

/-- A thread that is not blocked goes on. -/
theorem Threads.Sound.exists_step (hs : s.Sound) (hfree : ¬s.Blocked (rilCode κ) t)
    (hstart : s.point t ≠ .notStarted) (hended : s.point t ≠ .ended)
    (hlive : ∀ c sends, (s.point t).tunnel = some (c, sends) → ∃ n, s.connection c = .live n) :
    ∃ q s', ThreadsStep s (t, q) s' := by
  obtain ⟨call, q, k, hstep⟩ := exists_pointStep s.connection hstart hended hlive
  refine ⟨q, _, .act hstep ?_⟩
  have hfits := hstep.fits
  cases call with
  | none => trivial
  | lock l =>
    cases howner : s.owner l with
    | none => exact howner
    | some u => exact absurd ⟨u, l, hfits.1, howner⟩ hfree
  | unlock l =>
    refine (hs.owned.owner l t).mpr ?_
    rw [hfits.2]
    exact List.mem_cons_self

/-- **The mutexes of the daemon.** Threads wait for each other in a circle just when a stop meets a frame
that is to be sent; then `RIL_LOCK` is never released again. Otherwise, while no thread is left with a
freed connection, whoever waits does so for a thread that can go on. -/
theorem ril_deadlock [Finite ι] (h₀ : s₀.Initial) (h : Run ThreadsStep s₀ tr s) :
    (s.Deadlock (rilCode κ) ↔ s.StopMeetsSend) ∧
      (s.StopMeetsSend → ∃ t, ∀ tr' s', Run ThreadsStep s tr' s' →
        s'.Deadlock (rilCode κ) ∧ s'.owner .rilData = some t) ∧
      (¬s.StopMeetsSend → ¬s.Dangling → ∀ t, (s.point t).wants ≠ none →
        ∃ u, ReflTransGen (s.WaitsFor (rilCode κ)) t u ∧ ∃ q s', ThreadsStep s (u, q) s') := by
  obtain ⟨hs, hfits⟩ := h₀.run h
  refine ⟨deadlock_iff hs, fun hmeets => deadlock_forever hs hmeets, ?_⟩
  intro hmeets hdangling t ht
  obtain ⟨u, hu, hfree⟩ := MutexState.exists_not_blocked (mt (deadlock_iff hs).mp hmeets) t
  have hat : s.point u ≠ .notStarted ∧ s.point u ≠ .ended := by
    obtain rfl | ⟨v, -, l, -, howner⟩ := ReflTransGen.cases_tail hu
    · refine ⟨fun h => ht ?_, fun h => ht ?_⟩ <;> rw [h] <;> rfl
    · have hheld := (hs.owned.owner l u).mp howner
      refine ⟨fun h => ?_, fun h => ?_⟩ <;> rw [h] at hheld <;> cases hheld
  refine ⟨u, hu, hs.exists_step hfree hat.1 hat.2 fun c sends hc => ?_⟩
  cases hk : s.connection c with
  | absent => exact absurd ⟨u, sends, hc⟩ ((hfits c).absent hk)
  | live n => exact ⟨n, rfl⟩
  | freed => exact absurd ⟨u, c, sends, hc, hk⟩ hdangling

end Steps

/-- A request thread, the thread of the modem and one that has not started. -/
def threeThreads : Threads (Fin 3) Unit where
  owner _ := none
  point
    | 0 => .rild
    | 1 => .readSelect
    | 2 => .notStarted
  connection _ := .absent

theorem threeThreads_initial : threeThreads.Initial := by
  refine ⟨⟨fun l t => ?_, fun t => ?_⟩, fun t => ?_, fun _ => rfl⟩
  · fin_cases t <;> exact iff_of_false (fun h => nomatch h) (fun h => nomatch h)
  · fin_cases t <;> exact List.nodup_nil
  · fin_cases t <;> trivial

/-- A connection is made, its tunnel has a frame to send, and a request stops it. -/
theorem stop_reached : ∃ tr s, Run ThreadsStep threeThreads tr s ∧ s.StopMeetsSend := by
  refine ⟨_, _, .cons (.act (t := 0) .request (by trivial)) <|
    .cons (.act (t := 0) (.rilLock _) (by rfl)) <|
    .cons (.act (t := 0) (.connectionRegister () (by rfl)) (by trivial)) <|
    .cons (.act (t := 0) (.rilUnlock _) (by rfl)) <|
    .cons (.act (t := 1) .readSelect (by trivial)) <| .cons (.act (t := 1) .readLock (by rfl)) <|
    .cons (.act (t := 1) .readRecv (by rfl)) <| .cons (.act (t := 1) (.rilLock _) (by rfl)) <|
    .cons (.start (t := 1) (u := 2) (c := ()) rfl rfl rfl) <|
    .cons (.act (t := 1) (.threadStarted _ ()) (by trivial)) <|
    .cons (.act (t := 1) (.rilUnlock _) (by rfl)) <|
    .cons (.act (t := 2) (.tunnelLock () 1 rfl) (by rfl)) <|
    .cons (.act (t := 2) (.tunnelRead () 1 rfl (by decide)) (by trivial)) <|
    .cons (.act (t := 0) .request (by trivial)) <| .cons (.act (t := 0) (.rilLock _) (by rfl)) <|
    .cons (.act (t := 0) (.stopTunneling _ (.inl rfl) () (by rfl)) (by trivial)) .nil, ?_⟩
  exact ⟨0, 2, _, _, rfl, rfl⟩

theorem ril_deadlock_reached : ∃ tr s, Run ThreadsStep threeThreads tr s ∧ s.Deadlock (rilCode Unit) ∧
    ∃ t, ∀ tr' s', Run ThreadsStep s tr' s' →
      s'.Deadlock (rilCode Unit) ∧ s'.owner .rilData = some t := by
  obtain ⟨tr, s, h, hmeets⟩ := stop_reached
  obtain ⟨hdead, hforever, -⟩ := ril_deadlock threeThreads_initial h
  exact ⟨tr, s, h, hdead.mpr hmeets, hforever hmeets⟩

theorem frame_connection_live_reached : ∃ tr s t, Run ThreadsStep threeThreads tr s ∧
    (s.point t).tunnel = some ((), true) ∧ ∃ n, s.connection () = .live n := by
  obtain ⟨tr, s, h, t, u, w, c, -, hu⟩ := stop_reached
  have htunnel : (s.point u).tunnel = some ((), true) := congrArg ThreadPoint.tunnel hu
  exact ⟨tr, s, u, h, htunnel, frame_connection_live threeThreads_initial h htunnel⟩

theorem tunnel_stop_safe_threeThreads :
    (∀ tr s, Run (Step.when ThreadsStep StopsSafely) threeThreads tr s →
        ¬s.Deadlock (rilCode Unit) ∧ ¬s.Dangling) ∧
      ∀ tr s a s', Run ThreadsStep threeThreads tr s → ThreadsStep s a s' → ¬StopsSafely s a →
        s'.Deadlock (rilCode Unit) ∨ s'.Dangling :=
  tunnel_stop_safe threeThreads_initial

end Mocha.Ril
