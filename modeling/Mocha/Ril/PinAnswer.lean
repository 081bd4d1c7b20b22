import Mocha.Ril.Pin

/-! CHV events and the requests they answer. Every event is passed to `ipc_lock_status`, which gives
its result to the first of the four requests that waits, whatever the event is about. -/
namespace Mocha.Ril
open Mocha.Lib Mocha.Ipc

/-- Requests that need a PIN, and CHV events with the request they answer. -/
inductive ChvEvent
  | enterSimPin (t : RequestToken) (pointerLength : ℕ) (pin : CString)
  | enterSimPuk (t : RequestToken) (data : Option (List CString))
  | setFacilityLock (t : RequestToken) (data : Option (List CString))
  | changeSimPin (t : RequestToken) (data : Option (List CString))
  | event (k : ChvKind) (t : RilToken) (ev : SimEvent)

/-- The callback that `sim_parse_event` invokes for a CHV event. -/
def chvHandler (s : RilData) : ChvEvent → RilData × List RilEffect
  | .enterSimPin t pointerLength pin => rilRequestEnterSimPin s t.1 pointerLength pin
  | .enterSimPuk t data => rilRequestEnterSimPuk s t.1 data
  | .setFacilityLock t data => rilRequestSetFacilityLock s t.1 data
  | .changeSimPin t data => rilRequestChangeSimPin s t.1 data
  | .event _ _ ev => if simParseEvent ev = .lockStatus then ipcLockStatus s ev else (s, [])

/-- The type of the event that a packet is answered with, and the request the event is about. -/
def IpcCall.chvAnswer : IpcCall → Option (UInt8 × ChvKind)
  | .simVerifyChv .. => some (simEventVerifyChv, .pinStatus)
  | .simUnblockChv .. => some (simEventUnblockChv, .pukStatus)
  | .simEnableChv .. => some (simEventEnableChv, .setFacilityLock)
  | .simDisableChv .. => some (simEventDisableChv, .setFacilityLock)
  | .simChangeChv .. => some (simEventChangeChv, .changeSimPin)
  | _ => none

/-- A packet that the modem has not answered yet: the type of the answer, and the request. -/
structure Unanswered where
  eventType : UInt8
  kind : ChvKind
  token : RilToken
deriving DecidableEq

def unansweredPackets (t : RilToken) (out : List RilEffect) : List Unanswered :=
  out.filterMap fun
    | .ipc c => c.chvAnswer.map fun p => ⟨p.1, p.2, t⟩
    | _ => none

structure ChvExchange where
  ril : RilData
  unanswered : List Unanswered

/-- The packets that are unanswered after an event. -/
def ChvEvent.unanswered (before : List Unanswered) (out : List RilEffect) : ChvEvent → List Unanswered
  | .enterSimPin t .. | .enterSimPuk t _ | .setFacilityLock t _ | .changeSimPin t _ =>
    before ++ unansweredPackets t.1 out
  | .event k t ev => before.erase ⟨ev.eventType, k, t⟩

def chvExchangeHandler (s : ChvExchange) (e : ChvEvent) : ChvExchange × List RilEffect :=
  (⟨(chvHandler s.ril e).1, e.unanswered s.unanswered (chvHandler s.ril e).2⟩,
    (chvHandler s.ril e).2)

/-- The modem sends an event only for an unanswered packet. -/
def ChvEvent.Expected (s : ChvExchange) : ChvEvent → Prop
  | .event k t ev => ⟨ev.eventType, k, t⟩ ∈ s.unanswered
  | _ => True

abbrev ChvStep : Step ChvExchange (ChvEvent × List RilEffect) :=
  (Step.ofFun chvExchangeHandler).when fun s a => a.1.Expected s

/-- An event completes exactly the request that it answers, and touches no request of another kind. -/
def AnswersOwn (s : ChvExchange) (a : ChvEvent × List RilEffect) (u : ChvExchange) : Prop :=
  match a.1 with
  | .event k t _ => completedTokens a.2 = [t] ∧
      ∀ j, j ≠ k → u.ril.tokens.chv j = s.ril.tokens.chv j
  | _ => True

/-- `ipc_lock_status` asks for the token of `j` before that of `k`. -/
def ChvKind.before : ChvKind → ChvKind → Bool
  | .setFacilityLock, .changeSimPin | .setFacilityLock, .pinStatus | .setFacilityLock, .pukStatus
  | .changeSimPin, .pinStatus | .changeSimPin, .pukStatus | .pinStatus, .pukStatus => true
  | _, _ => false

/-- The results that `ipc_lock_status` has a case for. -/
def LockStatusKnown (ev : SimEvent) : Prop :=
  ev.eventStatus = simOk →
    lockStatusStatus ev = 0 ∨ lockStatusStatus ev = 1 ∨ lockStatusStatus ev = 2

/-- An event finds the token of the request that it answers, nothing that is asked for before it, and
has a known result. -/
def FindsOwnRequest (s : ChvExchange) (a : ChvEvent × List RilEffect) : Prop :=
  match a.1 with
  | .event k t ev => s.ril.tokens.chv k = t ∧
      (∀ j, ChvKind.before j k → s.ril.tokens.chv j = rilTokenNull) ∧
      LockStatusKnown ev
  | _ => True

/-- No request for the IMEI, the IMSI or the version waits. -/
structure NoIdentityWaits (ts : RilTokens) : Prop where
  getImei : ts.getImei = rilTokenNull
  getImsi : ts.getImsi = rilTokenNull
  basebandVersion : ts.basebandVersion = rilTokenNull

section Status

variable {s : RilData} {r : RilData × List RilEffect}

/-- What touches no token and completes none. -/
def Quiet (s : RilData) (r : RilData × List RilEffect) : Prop :=
  r.1.tokens = s.tokens ∧ completedTokens r.2 = []

theorem rilTokensCheck_eq (h : NoIdentityWaits s.tokens) : rilTokensCheck s = (s, []) := by
  unfold rilTokensCheck andThen
  simp [h.getImei, h.getImsi, h.basebandVersion]

theorem rilStateUpdate_quiet (h : NoIdentityWaits s.tokens) (simState : RilSimState) :
    Quiet s (rilStateUpdate s simState) := by
  unfold rilStateUpdate
  dsimp only
  split_ifs with hpower
  · exact ⟨rfl, rfl⟩
  · rw [rilTokensCheck_eq]
    · exact ⟨rfl, rfl⟩
    · exact h
  · rw [rilTokensCheck_eq]
    · exact ⟨rfl, rfl⟩
    · exact h

theorem ipcSimStatus_quiet (h : NoIdentityWaits s.tokens) (simState : RilSimState) :
    Quiet s (ipcSimStatus s simState) := by
  obtain ⟨htokens, hout⟩ := rilStateUpdate_quiet h simState
  unfold ipcSimStatus
  constructor
  · dsimp only
    split_ifs
    · exact htokens
    · exact htokens
  · dsimp only
    rw [completedTokens_append, completedTokens_append, hout]
    split_ifs <;> rfl

theorem openSim_quiet (k : ChvKind) : Quiet s (openSim k s) := by
  cases k <;> exact ⟨rfl, rfl⟩

theorem lockSim_quiet (h : NoIdentityWaits s.tokens) (k : ChvKind) : Quiet s (lockSim k s) := by
  cases k with
  | setFacilityLock => exact ⟨rfl, rfl⟩
  | changeSimPin => exact ⟨rfl, rfl⟩
  | pinStatus => exact ipcSimStatus_quiet h .puk
  | pukStatus => exact ipcSimStatus_quiet h .blocked

end Status

section Chain

variable {ts : RilTokens} {s : RilData} {ev : SimEvent} {j k : ChvKind}

theorem pendingChv_eq_some_iff : ts.pendingChv = some k ↔
    ts.chv k ≠ rilTokenNull ∧ ∀ j, ChvKind.before j k → ts.chv j = rilTokenNull := by
  unfold RilTokens.pendingChv
  have hall : ∀ {p : ChvKind → Prop}, (∀ j, p j) ↔
      p .setFacilityLock ∧ p .changeSimPin ∧ p .pinStatus ∧ p .pukStatus := by
    intro p
    constructor
    · exact fun h => ⟨h _, h _, h _, h _⟩
    · rintro ⟨h₁, h₂, h₃, h₄⟩ (_ | _ | _ | _) <;> assumption
  rw [hall]
  cases k <;> simp only [RilTokens.chv, ChvKind.before] <;> split_ifs <;> simp_all

theorem chv_setChv_self : (ts.setChv rilTokenNull k).chv k = rilTokenNull := by
  cases k <;> rfl

theorem chv_setChv_of_ne (h : j ≠ k) : (ts.setChv rilTokenNull k).chv j = ts.chv j := by
  cases k <;> cases j <;> first | rfl | exact absurd rfl h

/-- An if-chain completes the first request that waits, and clears its token. -/
inductive ChainChange (s : RilData) (r : RilData × List RilEffect) : Prop
  | completed (k : ChvKind) (hpending : s.tokens.pendingChv = some k)
      (htokens : r.1.tokens = s.tokens.setChv rilTokenNull k)
      (hout : completedTokens r.2 = [s.tokens.chv k])
  | none (hpending : s.tokens.pendingChv = none) (htokens : r.1.tokens = s.tokens)
      (hout : completedTokens r.2 = [])

theorem completeChv_change (errno : RilErrno) (response : Option RilResponse)
    {besides : ChvKind → RilData → RilData × List RilEffect} (hquiet : ∀ k, Quiet s (besides k s)) :
    ChainChange s (completeChv s errno response besides) := by
  unfold completeChv
  cases hpending : s.tokens.pendingChv with
  | none => exact .none hpending rfl rfl
  | some k =>
    obtain ⟨htokens, hout⟩ := hquiet k
    apply ChainChange.completed k hpending
    · dsimp only
      rw [htokens]
    · exact congrArg (s.tokens.chv k :: ·) hout

theorem ipcLockStatus_known (h : NoIdentityWaits s.tokens) (hknown : LockStatusKnown ev) :
    ChainChange s (ipcLockStatus s ev) := by
  have hnothing : ∀ k : ChvKind, Quiet s ((fun _ s => (s, [])) k s) := fun _ => ⟨rfl, rfl⟩
  unfold ipcLockStatus
  split_ifs with hok
  · rcases hknown hok with hstatus | hstatus | hstatus
    · rw [hstatus]
      exact completeChv_change _ _ openSim_quiet
    · rw [hstatus]
      exact completeChv_change _ _ hnothing
    · rw [hstatus]
      exact completeChv_change _ _ (lockSim_quiet h)
  · exact completeChv_change _ _ hnothing

theorem ipcLockStatus_unknown (hknown : ¬LockStatusKnown ev) : ipcLockStatus s ev = (s, []) := by
  unfold LockStatusKnown at hknown
  push Not at hknown
  obtain ⟨hok, h₀, h₁, h₂⟩ := hknown
  unfold ipcLockStatus
  rw [if_pos hok]
  split
  · exact absurd ‹_› h₀
  · exact absurd ‹_› h₁
  · exact absurd ‹_› h₂
  · rfl

end Chain

section Exchange

variable {s u : ChvExchange} {a : ChvEvent × List RilEffect}

/-- The modem answers the five kinds of packets, and no request waits for an identity. -/
structure ChvInv (s : ChvExchange) : Prop where
  lockStatus : ∀ p ∈ s.unanswered, ∀ ev : SimEvent, ev.eventType = p.eventType →
    simParseEvent ev = .lockStatus
  token : ∀ p ∈ s.unanswered, p.token ≠ rilTokenNull
  identity : NoIdentityWaits s.ril.tokens

theorem chvAnswer_lockStatus {c : IpcCall} {p : UInt8 × ChvKind} (h : c.chvAnswer = some p)
    {ev : SimEvent} (hev : ev.eventType = p.1) : simParseEvent ev = .lockStatus := by
  unfold simParseEvent
  cases c <;> cases h <;> rw [hev] <;> rfl

theorem mem_unansweredPackets {t : RilToken} {out : List RilEffect} {p : Unanswered}
    (h : p ∈ unansweredPackets t out) : p.token = t ∧
      ∃ c : IpcCall, c.chvAnswer = some (p.eventType, p.kind) := by
  obtain ⟨e, -, he⟩ := List.mem_filterMap.mp h
  cases e with
  | ipc c =>
    obtain ⟨q, hq, rfl⟩ := Option.map_eq_some_iff.mp he
    exact ⟨rfl, c, hq⟩
  | _ => cases he

theorem chainChange_identity {s : RilData} {r : RilData × List RilEffect} (h : ChainChange s r)
    (hs : NoIdentityWaits s.tokens) : NoIdentityWaits r.1.tokens := by
  obtain ⟨himei, himsi, hversion⟩ := hs
  cases h with
  | completed k _ htokens =>
    rw [htokens]
    cases k <;> exact ⟨himei, himsi, hversion⟩
  | none _ htokens =>
    rw [htokens]
    exact ⟨himei, himsi, hversion⟩

theorem ipcLockStatus_identity {s : RilData} (hs : NoIdentityWaits s.tokens) (ev : SimEvent) :
    NoIdentityWaits (ipcLockStatus s ev).1.tokens := by
  by_cases hknown : LockStatusKnown ev
  · exact chainChange_identity (ipcLockStatus_known hs hknown) hs
  · rw [ipcLockStatus_unknown hknown]
    exact hs

theorem chvHandler_identity {s : RilData} (hs : NoIdentityWaits s.tokens) (e : ChvEvent) :
    NoIdentityWaits (chvHandler s e).1.tokens := by
  obtain ⟨himei, himsi, hversion⟩ := hs
  cases e with
  | enterSimPin => exact ⟨himei, himsi, hversion⟩
  | enterSimPuk t data =>
    unfold chvHandler rilRequestEnterSimPuk
    dsimp only
    split <;> exact ⟨himei, himsi, hversion⟩
  | setFacilityLock t data =>
    unfold chvHandler rilRequestSetFacilityLock
    dsimp only
    split
    · split_ifs <;> exact ⟨himei, himsi, hversion⟩
    · exact ⟨himei, himsi, hversion⟩
  | changeSimPin t data =>
    unfold chvHandler rilRequestChangeSimPin
    dsimp only
    split <;> exact ⟨himei, himsi, hversion⟩
  | event k t ev =>
    dsimp only [chvHandler]
    split_ifs
    · exact ipcLockStatus_identity ⟨himei, himsi, hversion⟩ ev
    · exact ⟨himei, himsi, hversion⟩

theorem mem_unanswered {p : Unanswered} {before : List Unanswered} {out : List RilEffect} {e : ChvEvent}
    (h : p ∈ e.unanswered before out) : p ∈ before ∨
      ∃ t : RequestToken, p ∈ unansweredPackets t.1 out := by
  cases e with
  | event => exact .inl (List.mem_of_mem_erase h)
  | enterSimPin t | enterSimPuk t | setFacilityLock t | changeSimPin t =>
    exact (List.mem_append.mp h).imp_right fun h => ⟨t, h⟩

theorem chvStep_inv (hs : ChvInv s) (h : ChvStep s a u) : ChvInv u := by
  obtain rfl : (chvExchangeHandler s a.1).1 = u := congrArg Prod.fst h.2
  constructor
  case lockStatus =>
    intro p hp ev hev
    rcases mem_unanswered hp with hp | ⟨t, hp⟩
    · exact hs.lockStatus p hp ev hev
    · obtain ⟨-, c, hc⟩ := mem_unansweredPackets hp
      exact chvAnswer_lockStatus hc hev
  case token =>
    intro p hp
    rcases mem_unanswered hp with hp | ⟨t, hp⟩
    · exact hs.token p hp
    · rw [(mem_unansweredPackets hp).1]
      exact t.2
  case identity => exact chvHandler_identity hs.identity a.1

/-- An event answers its own request exactly if it finds it. -/
theorem answersOwn_iff (hs : ChvInv s) (h : ChvStep s a u) :
    AnswersOwn s a u ↔ FindsOwnRequest s a := by
  obtain ⟨hexpected, hstep⟩ := h
  obtain ⟨e, out⟩ := a
  obtain rfl : (chvExchangeHandler s e).1 = u := congrArg Prod.fst hstep
  obtain rfl : (chvHandler s.ril e).2 = out := congrArg Prod.snd hstep
  cases e with
  | enterSimPin | enterSimPuk | setFacilityLock | changeSimPin => exact iff_of_true trivial trivial
  | event k t ev =>
    have hexpected : (⟨ev.eventType, k, t⟩ : Unanswered) ∈ s.unanswered := hexpected
    have hnonnull : t ≠ rilTokenNull := hs.token _ hexpected
    have hlock : simParseEvent ev = .lockStatus := hs.lockStatus _ hexpected ev rfl
    simp only [AnswersOwn, FindsOwnRequest, chvExchangeHandler, chvHandler, hlock, if_true]
    by_cases hknown : LockStatusKnown ev
    · cases ipcLockStatus_known hs.identity hknown with
      | none hpending htokens hout =>
        rw [hout]
        refine iff_of_false (fun hanswers => List.cons_ne_nil _ _ hanswers.1.symm) ?_
        rintro ⟨rfl, hbefore, -⟩
        have hwaits := pendingChv_eq_some_iff.mpr ⟨hnonnull, hbefore⟩
        rw [hpending] at hwaits
        exact Option.some_ne_none _ hwaits.symm
      | completed j hpending htokens hout =>
        rw [hout, htokens]
        constructor
        · rintro ⟨htoken, hothers⟩
          obtain ⟨hwaits, hbefore⟩ := pendingChv_eq_some_iff.mp hpending
          have hjk : j = k := by
            by_contra hne
            have hkept := hothers j hne
            rw [chv_setChv_self] at hkept
            exact hwaits hkept.symm
          subst hjk
          exact ⟨List.singleton_inj.mp htoken, hbefore, hknown⟩
        · rintro ⟨rfl, hbefore, -⟩
          have hwaits := pendingChv_eq_some_iff.mpr ⟨hnonnull, hbefore⟩
          rw [hpending] at hwaits
          obtain rfl := Option.some_inj.mp hwaits
          exact ⟨rfl, fun i hi => chv_setChv_of_ne hi⟩
    · rw [ipcLockStatus_unknown hknown]
      refine iff_of_false (fun hanswers => List.cons_ne_nil _ _ hanswers.1.symm) ?_
      exact fun hfinds => hknown hfinds.2.2

end Exchange

section Runs

variable {s₀ s : ChvExchange} {tr : List (ChvEvent × List RilEffect)}

/-- **The runs in which every event completes the request it answers** are those in which every event
finds that request first. -/
theorem chv_answersOwn_iff (hidentity : NoIdentityWaits s₀.ril.tokens) (hidle : s₀.unanswered = []) :
    Run (fun s a u => ChvStep s a u ∧ AnswersOwn s a u) s₀ tr s ↔
      Run (ChvStep.when FindsOwnRequest) s₀ tr s := by
  have hinit : ChvInv s₀ := by
    constructor
    case lockStatus => simp [hidle]
    case token => simp [hidle]
    case identity => exact hidentity
  refine Run.congr ChvInv ?_ ?_ hinit
  · exact fun s a u hs h => chvStep_inv hs h.1
  · intro s a u hs
    rw [Step.when, and_comm]
    exact and_congr_left fun h => answersOwn_iff hs h

/-- A CHV event of a type, with the status SIM_OK and a lock status. -/
def chvEvent (eventType lockStatus : UInt8) : SimEvent :=
  .ofBytes [0, 0, 0, 0, eventType, simOk, 0, 0, 0, 0, 0, lockStatus, 3]

/-- The PIN is entered, and the modem takes it. -/
theorem chv_answersOwn_verified :
    let r := Lib.exec chvExchangeHandler ⟨.init, []⟩
      [.enterSimPin ⟨1, by decide⟩ 4 (cString "1234"),
        .event .pinStatus 1 (chvEvent simEventVerifyChv 0)]
    Run (fun s a u => ChvStep s a u ∧ AnswersOwn s a u) ⟨.init, []⟩ r.1 r.2 := by
  intro r
  have hidentity : NoIdentityWaits RilData.init.tokens := ⟨rfl, rfl, rfl⟩
  apply (chv_answersOwn_iff hidentity rfl).mpr
  have hfinds : FindsOwnRequest (chvExchangeHandler ⟨.init, []⟩
      (.enterSimPin ⟨1, by decide⟩ 4 (cString "1234"))).1
      (.event .pinStatus 1 (chvEvent simEventVerifyChv 0),
        [.complete ⟨1, .success, some (.int (-1))⟩, .ipc (.simSendOemData 0x4 2)]) := by
    refine ⟨rfl, ?_, fun _ => .inl rfl⟩
    intro j hj
    cases j with
    | setFacilityLock | changeSimPin => rfl
    | pinStatus | pukStatus => cases hj
  exact .cons ⟨trivial, trivial, rfl⟩ (.cons ⟨hfinds, List.mem_cons_self, rfl⟩ .nil)

/-- The PIN lock is to be switched on while the PIN is being verified: the result of the verification
is reported to the request for the lock. -/
theorem not_answersOwn_lockWhileVerifying :
    ¬∀ (tr : List (ChvEvent × List RilEffect)) (s : ChvExchange), Run ChvStep ⟨.init, []⟩ tr s →
      Run (fun s a u => ChvStep s a u ∧ AnswersOwn s a u) ⟨.init, []⟩ tr s := by
  intro h
  obtain ⟨r, hr⟩ : ∃ r, r = Lib.exec chvExchangeHandler ⟨.init, []⟩
    [.enterSimPin ⟨1, by decide⟩ 4 (cString "1234"),
      .setFacilityLock ⟨2, by decide⟩ (some [cString "SC", cString "1", cString "4321", cString "7"]),
      .event .pinStatus 1 (chvEvent simEventVerifyChv 0)] := ⟨_, rfl⟩
  have hrun : Run ChvStep ⟨.init, []⟩ r.1 r.2 := by
    subst hr
    exact .cons ⟨trivial, rfl⟩ (.cons ⟨trivial, rfl⟩ (.cons ⟨List.mem_cons_self, rfl⟩ .nil))
  have hall := h r.1 r.2 hrun
  subst hr
  obtain ⟨v, -, hlast⟩ := Run.cons_iff.mp hall
  obtain ⟨w, -, hlast⟩ := Run.cons_iff.mp hlast
  obtain ⟨x, ⟨-, hanswers⟩, -⟩ := Run.cons_iff.mp hlast
  exact absurd (List.singleton_inj.mp hanswers.1) (by decide)

end Runs

end Mocha.Ril
