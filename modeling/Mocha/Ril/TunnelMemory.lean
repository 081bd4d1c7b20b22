import Mocha.Ril.Deadlock

/-! The memory of the data connections against the threads that serve, start and stop their tunnels
(`gprs.c`): an invariant of all runs of the threads. -/
namespace Mocha.Ril
open Mocha.Lib Relation

variable {ι κ : Type*} {s s' s₀ : Threads ι κ} {c : κ} {t u : ι}

namespace Threads

/-- Some thread serves the tunnel of the connection. -/
def Serves (s : Threads ι κ) (c : κ) : Prop := ∃ t sends, (s.point t).tunnel = some (c, sends)

/-- Some thread has a frame of the connection to send. -/
def Sends (s : Threads ι κ) (c : κ) : Prop := ∃ t, (s.point t).tunnel = some (c, true)

def AtStage (s : Threads ι κ) (c : κ) (g : ConnectionStage) : Prop :=
  ∃ t, (s.point t).stage = some (g, c)

/-- The memory of a connection, while its tunnel is served, started or stopped. -/
structure Fits (s : Threads ι κ) (c : κ) : Prop where
  absent : s.connection c = .absent → ¬s.Serves c
  freed : s.connection c = .freed → ¬s.Sends c
  settled : (∀ g, ¬s.AtStage c g) → ∀ n, s.connection c = .live n → n = 1 ∨ n = 0 ∧ ¬s.Serves c
  stopLock : s.AtStage c .stopLock → s.connection c = .live 2
  stopUnlock : s.AtStage c .stopUnlock → s.connection c = .live 2
  unregister : s.AtStage c .unregister →
    s.connection c = .live 2 ∧ ¬s.Sends c ∨ s.connection c = .live 0 ∧ ¬s.Serves c

/-- Less service needs no more. -/
theorem Fits.mono (h : s.Fits c) (hconnection : s'.connection c = s.connection c)
    (hstage : ∀ g, s'.AtStage c g ↔ s.AtStage c g) (hserves : s'.Serves c → s.Serves c)
    (hsends : s'.Sends c → s.Sends c) : s'.Fits c := by
  constructor
  · intro hc hs
    exact h.absent (hconnection ▸ hc) (hserves hs)
  · intro hc hs
    exact h.freed (hconnection ▸ hc) (hsends hs)
  · intro hg n hc
    have hbefore := h.settled (fun g hs => hg g ((hstage g).mpr hs)) n (hconnection ▸ hc)
    exact hbefore.imp_right fun hn => ⟨hn.1, fun hs => hn.2 (hserves hs)⟩
  · intro hg
    exact hconnection.trans (h.stopLock ((hstage _).mp hg))
  · intro hg
    exact hconnection.trans (h.stopUnlock ((hstage _).mp hg))
  · intro hg
    obtain ⟨hc, hs⟩ | ⟨hc, hs⟩ := h.unregister ((hstage _).mp hg)
    · exact .inl ⟨hconnection.trans hc, fun h => hs (hsends h)⟩
    · exact .inr ⟨hconnection.trans hc, fun h => hs (hserves h)⟩

theorem Initial.fits (h : s.Initial) (c : κ) : s.Fits c := by
  have hidle : ∀ t, (s.point t).tunnel = none ∧ (s.point t).stage = none := by
    intro t
    have hstart := h.start t
    generalize s.point t = p at hstart
    cases p with
    | rilSection w p => cases w <;> cases p <;> first | exact ⟨rfl, rfl⟩ | cases hstart
    | _ => first | exact ⟨rfl, rfl⟩ | cases hstart
  have habsent := h.connection c
  have hserves : ¬s.Serves c := by
    rintro ⟨t, sends, ht⟩
    rw [(hidle t).1] at ht
    cases ht
  have hstage : ∀ g, ¬s.AtStage c g := by
    rintro g ⟨t, ht⟩
    rw [(hidle t).2] at ht
    cases ht
  refine ⟨fun _ => hserves, fun _ ⟨t, ht⟩ => hserves ⟨t, true, ht⟩, fun _ n hn => ?_,
    fun hg => absurd hg (hstage _), fun hg => absurd hg (hstage _), fun hg => absurd hg (hstage _)⟩
  rw [habsent] at hn
  cases hn

theorem Initial.safe (h : s.Initial) : ¬s.StopMeetsSend ∧ ¬s.Dangling := by
  constructor
  · rintro ⟨t, u, w, c, ht, -⟩
    have hstart := h.start t
    rw [ht] at hstart
    cases w <;> exact hstart
  · rintro ⟨t, c, sends, -, hc⟩
    cases (h.connection c).symm.trans hc

/-- The thread with `RIL_LOCK` is the only one that can start or stop a tunnel. -/
theorem Sound.stage_unique (h : s.Sound) (ht : RilMutex.rilData ∈ (s.point t).held)
    {x : ConnectionStage × κ} (hu : (s.point u).stage = some x) : u = t := by
  refine h.owned.unique ?_ ht
  generalize s.point u = p at hu
  cases p with
  | rilSection w p => exact ThreadPoint.rilData_mem_held w p
  | _ => cases hu

theorem atStage_iff {g : ConnectionStage} : s.AtStage c g ↔
    (s.point t).stage = some (g, c) ∨ ∃ u, u ≠ t ∧ (s.point u).stage = some (g, c) := by
  constructor
  · rintro ⟨u, hu⟩
    by_cases hut : u = t
    · subst hut
      exact .inl hu
    · exact .inr ⟨u, hut, hu⟩
  · rintro (ht | ⟨u, -, hu⟩)
    · exact ⟨t, ht⟩
    · exact ⟨u, hu⟩

/-- With `RIL_LOCK`, the stages are those of the thread that moves. -/
theorem Sound.atStage_holder (hs : s.Sound) (ht : RilMutex.rilData ∈ (s.point t).held)
    (g : ConnectionStage) : s.AtStage c g ↔ (s.point t).stage = some (g, c) := by
  rw [atStage_iff, or_iff_left]
  rintro ⟨u, hut, hu⟩
  exact hut (hs.stage_unique ht hu)

section Act

variable [DecidableEq ι] [DecidableEq κ] {call : MutexCall (RilMutex κ)} {q : ThreadPoint κ}
  {k : κ → ConnectionMemory} {g : ConnectionStage}

/-- A thread goes from its point to another one, with what becomes of the connections. -/
def move (s : Threads ι κ) (t : ι) (call : MutexCall (RilMutex κ)) (q : ThreadPoint κ)
    (k : κ → ConnectionMemory) : Threads ι κ := ⟨s.act t call q, k⟩

theorem serves_of_move (h : (s.move t call q k).Serves c) :
    (∃ sends, q.tunnel = some (c, sends)) ∨ s.Serves c := by
  obtain ⟨u, sends, hu⟩ := h
  by_cases hut : u = t
  · subst hut
    exact .inl ⟨sends, (congrArg _ MutexState.act_point_self.symm).trans hu⟩
  · exact .inr ⟨u, sends, (congrArg _ (MutexState.act_point_of_ne hut).symm).trans hu⟩

theorem sends_of_move (h : (s.move t call q k).Sends c) : q.tunnel = some (c, true) ∨ s.Sends c := by
  obtain ⟨u, hu⟩ := h
  by_cases hut : u = t
  · subst hut
    exact .inl ((congrArg _ MutexState.act_point_self.symm).trans hu)
  · exact .inr ⟨u, (congrArg _ (MutexState.act_point_of_ne hut).symm).trans hu⟩

theorem move_atStage_iff : (s.move t call q k).AtStage c g ↔
    q.stage = some (g, c) ∨ ∃ u, u ≠ t ∧ (s.point u).stage = some (g, c) := by
  constructor
  · rintro ⟨u, hu⟩
    by_cases hut : u = t
    · subst hut
      exact .inl ((congrArg _ MutexState.act_point_self.symm).trans hu)
    · exact .inr ⟨u, hut, (congrArg _ (MutexState.act_point_of_ne hut).symm).trans hu⟩
  · rintro (hq | ⟨u, hut, hu⟩)
    · exact ⟨t, (congrArg _ MutexState.act_point_self).trans hq⟩
    · exact ⟨u, (congrArg _ (MutexState.act_point_of_ne hut)).trans hu⟩

/-- A move that has nothing to do with the connection, or leaves its tunnel. -/
theorem Fits.move (h : s.Fits c) (hk : k c = s.connection c) (hstage : q.stage = (s.point t).stage)
    (hserves : ∀ sends, q.tunnel = some (c, sends) → s.Serves c)
    (hsends : q.tunnel = some (c, true) → s.Sends c) : (s.move t call q k).Fits c := by
  refine h.mono hk (fun g => ?_) (fun hs => ?_) fun hs => ?_
  · rw [move_atStage_iff, atStage_iff, hstage]
  · exact (serves_of_move hs).elim (fun ⟨sends, hq⟩ => hserves sends hq) id
  · exact (sends_of_move hs).elim hsends id

theorem Fits.move_tunnel (h : s.Fits c) (hk : k c = s.connection c)
    (hstage : q.stage = (s.point t).stage) (htunnel : q.tunnel = (s.point t).tunnel) :
    (s.move t call q k).Fits c := by
  refine h.move hk hstage (fun sends hq => ⟨t, sends, htunnel ▸ hq⟩) fun hq => ⟨t, htunnel ▸ hq⟩

/-- A move past the check of `thread_state`. -/
theorem Fits.move_checked (h : s.Fits c) (ht : s.Serves c) {n : ℕ} (hc : s.connection c = .live n)
    (hn : n ≠ 2) (hstage : q.stage = (s.point t).stage) : (s.move t call q s.connection).Fits c := by
  have hsame : ∀ g, (s.move t call q s.connection).AtStage c g ↔ s.AtStage c g := by
    intro g
    rw [move_atStage_iff, atStage_iff, hstage]
  have hnot2 : s.connection c ≠ .live 2 := by
    rw [hc]
    exact fun h => hn (ConnectionMemory.live.inj h)
  constructor
  · intro habsent
    exact absurd ht (h.absent habsent)
  · intro hfreed
    cases hc.symm.trans hfreed
  · intro hg m hm
    have hbefore := h.settled (fun g hs => hg g ((hsame g).mpr hs)) m hm
    exact .inl (hbefore.resolve_right fun hm => hm.2 ht)
  · intro hg
    exact absurd (h.stopLock ((hsame _).mp hg)) hnot2
  · intro hg
    exact absurd (h.stopUnlock ((hsame _).mp hg)) hnot2
  · intro hg
    obtain ⟨h2, -⟩ | ⟨-, hserves⟩ := h.unregister ((hsame _).mp hg)
    · exact absurd h2 hnot2
    · exact absurd ht hserves

/-- As `Sound.atStage_holder`, after the move. -/
theorem Sound.atStage_move_holder (hs : s.Sound) (ht : RilMutex.rilData ∈ (s.point t).held)
    (g : ConnectionStage) : (s.move t call q k).AtStage c g ↔ q.stage = some (g, c) := by
  rw [move_atStage_iff, or_iff_left]
  rintro ⟨u, hut, hu⟩
  exact hut (hs.stage_unique ht hu)

/-- A move with `RIL_LOCK` that starts or stops the tunnel of another connection. -/
theorem Fits.move_other (h : s.Fits c) (hs : s.Sound) (ht : RilMutex.rilData ∈ (s.point t).held)
    (hk : k c = s.connection c) (htunnel : q.tunnel = (s.point t).tunnel)
    (hbefore : ∀ g, (s.point t).stage ≠ some (g, c)) (hafter : ∀ g, q.stage ≠ some (g, c)) :
    (s.move t call q k).Fits c := by
  refine h.mono hk (fun g => ?_) (fun hserves => ?_) fun hsends => ?_
  · rw [hs.atStage_holder ht, hs.atStage_move_holder ht]
    exact iff_of_false (hafter g) (hbefore g)
  · exact (serves_of_move hserves).elim (fun ⟨sends, hq⟩ => ⟨t, sends, htunnel ▸ hq⟩) id
  · exact (sends_of_move hsends).elim (fun hq => ⟨t, htunnel ▸ hq⟩) id

/-- A move with `RIL_LOCK` at a connection that is there afterwards. -/
theorem Sound.fits_live (hs : s.Sound) (ht : RilMutex.rilData ∈ (s.point t).held) {n : ℕ}
    (hk : k c = .live n)
    (hsettled : q.stage = none → n = 1 ∨ n = 0 ∧ ¬(s.move t call q k).Serves c)
    (hstop : q.stage = some (.stopLock, c) ∨ q.stage = some (.stopUnlock, c) → n = 2)
    (hunregister : q.stage = some (.unregister, c) →
      n = 2 ∧ ¬(s.move t call q k).Sends c ∨ n = 0 ∧ ¬(s.move t call q k).Serves c)
    (hq : ∀ c' g, q.stage = some (g, c') → c' = c) : (s.move t call q k).Fits c := by
  have hnew : ∀ g, (s.move t call q k).AtStage c g ↔ q.stage = some (g, c) :=
    hs.atStage_move_holder ht
  have hlive : (s.move t call q k).connection c = .live n := hk
  constructor
  · intro hc
    rw [hlive] at hc
    cases hc
  · intro hc
    rw [hlive] at hc
    cases hc
  · intro hg m hm
    obtain rfl := ConnectionMemory.live.inj (hlive.symm.trans hm)
    refine hsettled ?_
    cases hstage : q.stage with
    | none => rfl
    | some x =>
      obtain rfl := hq x.2 x.1 hstage
      exact absurd ((hnew x.1).mpr hstage) (hg x.1)
  · intro hg
    rw [hlive, hstop (.inl ((hnew _).mp hg))]
  · intro hg
    rw [hlive, hstop (.inr ((hnew _).mp hg))]
  · intro hg
    rw [hlive]
    obtain ⟨rfl, h⟩ | ⟨rfl, h⟩ := hunregister ((hnew _).mp hg)
    · exact .inl ⟨rfl, h⟩
    · exact .inr ⟨rfl, h⟩

theorem Sound.fits_freed (hs : s.Sound) (ht : RilMutex.rilData ∈ (s.point t).held)
    (hk : k c = .freed) (hq : q.stage = none) (hsends : ¬(s.move t call q k).Sends c) :
    (s.move t call q k).Fits c := by
  have hnew : ∀ g, (s.move t call q k).AtStage c g ↔ q.stage = some (g, c) :=
    hs.atStage_move_holder ht
  have hfreed : (s.move t call q k).connection c = .freed := hk
  have hnone : ∀ g, ¬(s.move t call q k).AtStage c g := by
    intro g hg
    have hstage := (hnew g).mp hg
    rw [hq] at hstage
    cases hstage
  refine ⟨fun hc => ?_, fun _ => hsends, fun _ n hc => ?_, fun hg => absurd hg (hnone _),
    fun hg => absurd hg (hnone _), fun hg => absurd hg (hnone _)⟩
  · cases hfreed.symm.trans hc
  · cases hfreed.symm.trans hc

end Act

end Threads

theorem tunnel_rilSection (w : RilLocker κ) (p p' : RilSection κ) :
    (ThreadPoint.rilSection w p).tunnel = (ThreadPoint.rilSection w p').tunnel := by
  cases w <;> rfl

theorem tunnel_of_stops {w : RilLocker κ} (hw : w.StopsTunnels) (p : RilSection κ) :
    (ThreadPoint.rilSection w p).tunnel = none := by
  obtain rfl | rfl := hw <;> rfl

/-- Whoever has a frame of a connection to send has its mutex. -/
theorem ThreadPoint.held_of_sends {p : ThreadPoint κ} (h : p.tunnel = some (c, true)) :
    RilMutex.gprsConnection c ∈ p.held := by
  cases p with
  | rilLock w =>
    cases w with
    | gprsTunnelingThread c' =>
      cases h
      exact List.mem_cons_self
    | _ => cases h
  | rilSection w p =>
    cases w with
    | gprsTunnelingThread c' =>
      cases h
      exact List.mem_append_right _ (List.mem_cons_of_mem _ List.mem_cons_self)
    | _ => cases h
  | tunnelUnlock c' =>
    cases h
    exact List.mem_cons_self
  | _ => cases h

section Steps

variable [DecidableEq ι] [DecidableEq κ] {a : ι × ThreadPoint κ} {tr : List (ι × ThreadPoint κ)}
  {call : MutexCall (RilMutex κ)} {q : ThreadPoint κ} {k : κ → ConnectionMemory}

/-- A move between `RIL_LOCK` and `RIL_UNLOCK` that has to do with one connection. -/
theorem fits_of_section (hs : s.Sound) (hfits : ∀ c, s.Fits c) {w : RilLocker κ} {p p' : RilSection κ}
    (hp : s.point t = .rilSection w p) (c' : κ) (hk : ∀ c, c ≠ c' → k c = s.connection c)
    (hbefore : ∀ g c, (ThreadPoint.rilSection w p).stage = some (g, c) → c = c')
    (hafter : ∀ g c, (ThreadPoint.rilSection w p').stage = some (g, c) → c = c')
    (hc' : (s.move t call (.rilSection w p') k).Fits c') (c : κ) :
    (s.move t call (.rilSection w p') k).Fits c := by
  by_cases hcc : c = c'
  · subst hcc
    exact hc'
  · refine (hfits c).move_other hs ?_ (hk c hcc) ?_ (fun g hg => ?_) fun g hg => hcc (hafter g c hg)
    · rw [hp]
      exact ThreadPoint.rilData_mem_held w p
    · rw [hp]
      exact tunnel_rilSection w p' p
    · rw [hp] at hg
      exact hcc (hbefore g c hg)

/-- One move keeps the memory of all connections right. -/
theorem PointStep.fits_connection (h : PointStep s.connection (s.point t) call q k) (hs : s.Sound)
    (hfits : ∀ c, s.Fits c) (c : κ) : (s.move t call q k).Fits c := by
  generalize hp : s.point t = p at h
  have hlawful := hs.lawful t
  rw [hp] at hlawful
  have hdata : ∀ w p', p = .rilSection w p' → RilMutex.rilData ∈ (s.point t).held := by
    rintro w p' rfl
    rw [hp]
    exact ThreadPoint.rilData_mem_held w p'
  cases h with
  | rilLock w =>
    refine (hfits c).move_tunnel rfl (by rw [hp]; rfl) ?_
    rw [hp]
    cases w <;> rfl
  | rilUnlock w =>
    refine (hfits c).move_tunnel rfl ?_ ?_ <;> rw [hp] <;> cases w <;> rfl
  | ipcSend w | ipcSendLock w | ipcSendUnlock w | srsSend w | srsSendLock w | srsSendUnlock w =>
    refine (hfits c).move_tunnel rfl (by rw [hp]; rfl) ?_
    rw [hp]
    exact tunnel_rilSection w _ _
  | connectionRegister c' hc' =>
    refine fits_of_section hs hfits hp c' (fun c hc => Function.update_of_ne hc ..)
      (fun g c hg => by cases hg) (fun g c hg => by cases hg) ?_ c
    refine hs.fits_live (hdata _ _ rfl) (Function.update_self ..) (fun _ => .inr ⟨rfl, fun hserves => ?_⟩)
      (fun hq => by rcases hq with hq | hq <;> cases hq) (fun hq => by cases hq) fun _ _ hq => by cases hq
    exact (hfits c').absent hc' ((Threads.serves_of_move hserves).elim (fun ⟨_, hq⟩ => by cases hq) id)
  | threadStarted w c' =>
    refine fits_of_section hs hfits hp c' (fun c hc => Function.update_of_ne hc ..)
      (fun g c hg => by cases hg; rfl) (fun g c hg => by cases hg) ?_ c
    exact hs.fits_live (hdata _ _ rfl) (Function.update_self ..) (fun _ => .inl rfl)
      (fun hq => by rcases hq with hq | hq <;> cases hq) (fun hq => by cases hq) fun _ _ hq => by cases hq
  | stopTunneling w hw c' hc' =>
    refine fits_of_section hs hfits hp c' (fun c hc => Function.update_of_ne hc ..)
      (fun g c hg => by cases hg) (fun g c hg => by cases hg; rfl) ?_ c
    exact hs.fits_live (hdata _ _ rfl) (Function.update_self ..) (fun hq => by cases hq) (fun _ => rfl)
      (fun hq => by cases hq) fun _ _ hq => by cases hq; rfl
  | stopIdle w hw c' n hc' hn =>
    refine fits_of_section hs hfits hp c' (fun c _ => rfl) (fun g c hg => by cases hg)
      (fun g c hg => by cases hg; rfl) ?_ c
    have hnone : ∀ g, ¬s.AtStage c' g := by
      intro g hg
      rw [hs.atStage_holder (hdata _ _ rfl), hp] at hg
      cases hg
    obtain ⟨hzero, hserves⟩ := ((hfits c').settled hnone n hc').resolve_left hn
    refine hs.fits_live (hdata _ _ rfl) hc' (fun hq => by cases hq)
      (fun hq => by rcases hq with hq | hq <;> cases hq) (fun _ => .inr ⟨hzero, fun h => ?_⟩)
      fun _ _ hq => by cases hq; rfl
    refine hserves ((Threads.serves_of_move h).resolve_left ?_)
    rintro ⟨sends, hq⟩
    rw [tunnel_of_stops hw] at hq
    cases hq
  | stopLock w c' =>
    refine fits_of_section hs hfits hp c' (fun c _ => rfl) (fun g c hg => by cases hg; rfl)
      (fun g c hg => by cases hg; rfl) ?_ c
    have hlive := (hfits c').stopLock ⟨t, congrArg _ hp⟩
    exact hs.fits_live (hdata _ _ rfl) hlive (fun hq => by cases hq) (fun _ => rfl)
      (fun hq => by cases hq) fun _ _ hq => by cases hq; rfl
  | stopUnlock w c' =>
    refine fits_of_section hs hfits hp c' (fun c _ => rfl) (fun g c hg => by cases hg; rfl)
      (fun g c hg => by cases hg; rfl) ?_ c
    have hlive := (hfits c').stopUnlock ⟨t, congrArg _ hp⟩
    refine hs.fits_live (hdata _ _ rfl) hlive (fun hq => by cases hq)
      (fun hq => by rcases hq with hq | hq <;> cases hq) (fun _ => .inl ⟨rfl, fun h => ?_⟩)
      fun _ _ hq => by cases hq; rfl
    -- The mutex of the connection is taken, so nobody who needs it has a frame to send.
    obtain hq | ⟨u, hu⟩ := Threads.sends_of_move h
    · rw [tunnel_of_stops hlawful] at hq
      cases hq
    · have hheld : RilMutex.gprsConnection c' ∈ (rilCode κ).held (s.point t) := by
        rw [hp]
        exact List.mem_cons_self
      obtain rfl := hs.owned.unique hheld (ThreadPoint.held_of_sends hu)
      rw [hp, tunnel_of_stops hlawful] at hu
      cases hu
  | connectionUnregister w c' =>
    refine fits_of_section hs hfits hp c' (fun c hc => Function.update_of_ne hc ..)
      (fun g c hg => by cases hg; rfl) (fun g c hg => by cases hg) ?_ c
    have hquiet : ¬s.Sends c' := by
      obtain ⟨-, hsends⟩ | ⟨-, hserves⟩ := (hfits c').unregister ⟨t, congrArg _ hp⟩
      · exact hsends
      · exact fun ⟨u, hu⟩ => hserves ⟨u, true, hu⟩
    refine hs.fits_freed (hdata _ _ rfl) (Function.update_self ..) rfl fun h => hquiet ?_
    refine (Threads.sends_of_move h).resolve_left fun hq => ?_
    rw [tunnel_of_stops hlawful] at hq
    cases hq
  | tunnelIdle c' n hc' hn | tunnelRead c' n hc' hn =>
    by_cases hcc : c = c'
    · subst hcc
      refine (hfits c).move_checked ⟨t, false, ?_⟩ hc' hn ?_ <;> rw [hp] <;> rfl
    · refine (hfits c).move rfl (by rw [hp]; rfl) (fun sends hq => ?_) fun hq => ?_
      · cases hq
        exact absurd rfl hcc
      · cases hq
        exact absurd rfl hcc
  | tunnelUnlock c' n hc' =>
    refine (hfits c).move rfl (by rw [hp]; rfl) (fun sends hq => ?_) fun hq => ?_
    · cases hq
      refine ⟨t, true, ?_⟩
      rw [hp]
      rfl
    · cases hq
  | tunnelExit c' n hc' =>
    exact (hfits c).move rfl (by rw [hp]; rfl) (fun sends hq => by cases hq) fun hq => by cases hq
  | _ => exact (hfits c).move_tunnel rfl (by rw [hp]; rfl) (by rw [hp]; rfl)

/-- The thread of a tunnel begins while the one that created it has `RIL_LOCK`. -/
theorem Threads.Sound.fits_started (hs : s.Sound) (hfits : ∀ c, s.Fits c) {w : RilLocker κ} {c' : κ}
    {n : ℕ} (ht : s.point t = .rilSection w (.threadStarted c')) (hu : s.point u = .notStarted)
    (hc' : s.connection c' = .live n) (c : κ) :
    (s.move u .none (.tunnelLock c') s.connection).Fits c := by
  have hstage : (ThreadPoint.tunnelLock c').stage = (s.point u).stage := by
    rw [hu]
    rfl
  by_cases hcc : c = c'
  · subst hcc
    have hdata : RilMutex.rilData ∈ (s.point t).held := by
      rw [ht]
      exact ThreadPoint.rilData_mem_held w _
    have hsame : ∀ g, (s.move u .none (.tunnelLock c) s.connection).AtStage c g ↔
        (s.point t).stage = some (g, c) := by
      intro g
      rw [Threads.move_atStage_iff, hstage, ← Threads.atStage_iff, hs.atStage_holder hdata]
    rw [ht] at hsame
    refine ⟨fun hc => ?_, fun hc => ?_, fun hg => absurd ((hsame .threadStarted).mpr rfl) (hg _),
      fun hg => ?_, fun hg => ?_, fun hg => ?_⟩
    · cases hc'.symm.trans hc
    · cases hc'.symm.trans hc
    · cases (hsame _).mp hg
    · cases (hsame _).mp hg
    · cases (hsame _).mp hg
  · refine (hfits c).move rfl hstage (fun sends hq => ?_) fun hq => ?_
    · cases hq
      exact absurd rfl hcc
    · cases hq

theorem ThreadsStep.fits_connection (h : ThreadsStep s a s') (hs : s.Sound) (hfits : ∀ c, s.Fits c)
    (c : κ) : s'.Fits c := by
  cases h with
  | act hstep hcall => exact hstep.fits_connection hs hfits c
  | @start _ t u c' n ht hu hc' =>
    have hfits₁ : MutexCall.none.Fits (rilCode κ) (s.point t)
        (.rilSection .ipcReadLoop (.threadStarted c')) := by
      rw [ht]
      exact ⟨rfl, rfl⟩
    have hs₁ := (hs.act hfits₁ trivial (.inr rfl) s.connection).sound
    have hdata : RilMutex.rilData ∈ (s.point t).held := by
      rw [ht]
      exact ThreadPoint.rilData_mem_held _ _
    have hfirst : ∀ c, (s.move t .none (.rilSection .ipcReadLoop (.threadStarted c')) s.connection).Fits c :=
      fits_of_section hs hfits ht c' (fun c _ => rfl) (fun g c hg => by cases hg)
        (fun g c hg => by cases hg; rfl) <| hs.fits_live hdata hc' (fun hq => by cases hq)
          (fun hq => by rcases hq with hq | hq <;> cases hq) (fun hq => by cases hq)
          fun _ _ hq => by cases hq; rfl
    have hut : u ≠ t := by
      rintro rfl
      rw [ht] at hu
      cases hu
    exact (hs₁.fits_started hfirst MutexState.act_point_self
      ((MutexState.act_point_of_ne hut).trans hu) hc' c)

/-- The invariant of all runs. -/
theorem Threads.Initial.run (h₀ : s₀.Initial) (h : Run ThreadsStep s₀ tr s) :
    s.Sound ∧ ∀ c, s.Fits c := by
  refine h.invariant (fun s => s.Sound ∧ ∀ c, s.Fits c) (fun s a s' hs hstep => ?_)
    ⟨h₀.sound, h₀.fits⟩
  exact ⟨(hstep.moved hs.1).sound, hstep.fits_connection hs.1 hs.2⟩

end Steps
end Mocha.Ril
