import Mocha.Ril.CallTable

/-! The states of the calls that the modem has given an id, and whether a waiting call has company:
another call that is active, on hold or incoming. Company is lost when the last such call ends. -/
namespace Mocha.Ril
open Mocha.Lib

/-- The state of the call in a slot that the modem has given an id. -/
def CallData.liveState (s : CallData) (i : Fin maxCalls) : Option RilCallState :=
  (s.calls i).bind fun c => if c.callId = 0xFF then none else some c.callState

/-- The states in which a call is company for a waiting one. -/
def RilCallState.companion : RilCallState → Bool
  | .active | .holding | .incoming => true
  | _ => false

/-- Some call is incoming, active or on hold. -/
def CallData.Company (s : CallData) : Prop := s.Has .incoming ∨ s.Has .active ∨ s.Has .holding

/-- A waiting call has company. -/
def CallData.Accompanied (s : CallData) : Prop := s.Has .waiting → s.Company

/-- A waiting call has company without the call in the slot. -/
def CallData.AccompaniedWithout (s : CallData) (j : Fin maxCalls) : Prop :=
  (∃ i, i ≠ j ∧ s.liveState i = some .waiting) →
    ∃ i, i ≠ j ∧ ∃ state, s.liveState i = some state ∧ state.companion

section LiveState

variable {s u : CallData} {i j : Fin maxCalls} {state : RilCallState}

theorem liveState_eq_some_iff :
    s.liveState i = some state ↔ ∃ c, s.Live i c ∧ c.callState = state := by
  rw [CallData.liveState, Option.bind_eq_some_iff]
  refine exists_congr fun c => ?_
  rw [Option.ite_none_left_eq_some, Option.some.injEq, CallData.Live, and_assoc]

theorem has_iff : s.Has state ↔ ∃ i, s.liveState i = some state :=
  exists_congr fun _ => liveState_eq_some_iff.symm

instance (s : CallData) (state : RilCallState) : Decidable (s.Has state) :=
  decidable_of_iff _ has_iff.symm

instance (s : CallData) : Decidable s.Company :=
  inferInstanceAs (Decidable (s.Has .incoming ∨ s.Has .active ∨ s.Has .holding))

theorem company_iff :
    s.Company ↔ ∃ i state, s.liveState i = some state ∧ state.companion := by
  constructor
  · rintro (h | h | h)
    all_goals
      obtain ⟨i, hi⟩ := has_iff.mp h
      exact ⟨i, _, hi, rfl⟩
  · rintro ⟨i, state, hi, hstate⟩
    have hhas : s.Has state := has_iff.mpr ⟨i, hi⟩
    cases state with
    | incoming => exact .inl hhas
    | active => exact .inr (.inl hhas)
    | holding => exact .inr (.inr hhas)
    | dialing => cases hstate
    | alerting => cases hstate
    | waiting => cases hstate

theorem liveState_put_of_ne (h : j ≠ i) (c : Option RilCallContext) :
    (s.put i c).liveState j = s.liveState j := by
  rw [CallData.liveState, CallData.put_calls_of_ne s h, CallData.liveState]

theorem liveState_put_self (c : Option RilCallContext) : (s.put i c).liveState i =
    c.bind fun c => if c.callId = 0xFF then none else some c.callState := by
  rw [CallData.liveState, CallData.put_calls_self]

theorem liveState_setToken (t : RilToken) : (s.setToken i t).liveState = s.liveState := by
  funext j
  by_cases hj : j = i
  · rw [hj, CallData.setToken, CallData.modify, liveState_put_self, CallData.liveState]
    cases s.calls i <;> rfl
  · exact liveState_put_of_ne hj _

theorem liveState_settle (e : RilErrno) : (settle s i e).1.liveState = s.liveState := by
  unfold settle
  split_ifs
  · exact liveState_setToken _
  · rfl

theorem liveState_setState_of_ne (h : j ≠ i) : (s.setState i state).liveState j = s.liveState j :=
  liveState_put_of_ne h _

theorem liveState_setState_self :
    (s.setState i state).liveState i = (s.liveState i).map fun _ => state := by
  rw [CallData.setState, CallData.modify, liveState_put_self, CallData.liveState]
  cases hc : s.calls i with
  | none => rfl
  | some c =>
    change (if c.callId = 0xFF then none else some state) =
      Option.map _ (if c.callId = 0xFF then none else some c.callState)
    split_ifs <;> rfl

end LiveState

section Requests

variable {s : CallData} {t : RilToken}

theorem newRilCallContext_liveState {i : Fin maxCalls} {u : CallData}
    (h : newRilCallContext s = some (i, u)) :
    s.liveState i = none ∧ ∀ j, j ≠ i → u.liveState j = s.liveState j := by
  obtain ⟨k, hk, hu⟩ := Option.map_eq_some_iff.mp h
  obtain ⟨rfl, rfl⟩ := Prod.mk.inj hu
  have hfree : s.calls k = none := by simpa using List.find?_some hk
  exact ⟨by rw [CallData.liveState, hfree, Option.bind_none], fun j hj => liveState_put_of_ne hj _⟩

/-- A call that is dialed has no id yet. -/
theorem rilRequestDialFitting_liveState (data : Option RilDial) (now : UInt32) :
    (rilRequestDialFitting s t data now).1.liveState = s.liveState := by
  rcases rilRequestDialFitting_cases s t data now with hrefused | ⟨dial, i, _, -, -, hfree, hdial⟩
  · rw [hrefused]
  · rw [hdial]
    dsimp only
    rw [liveState_setToken]
    funext j
    by_cases hj : j = i
    · rw [hj, liveState_put_self, CallData.liveState, hfree]
      rfl
    · exact liveState_put_of_ne hj _

/-- Requests leave the states of calls to the modem's indications. -/
theorem callRequest_liveState (c : CallRequest) :
    (callRequestHandler s t c).1.liveState = s.liveState := by
  by_cases hdial : ∃ data now, c = .dial data now
  · obtain ⟨data, now, rfl⟩ := hdial
    exact rilRequestDialFitting_liveState data now
  · push Not at hdial
    exact callRequest_keeps (fun _ _ => liveState_setToken _) hdial

end Requests

/-- The indications that take a companion away, or make a waiting call out of a context without an
id, leave company for every waiting call. -/
def CompanyKept (s : CallData) (a : CallEvent × List CallEffect) : Prop :=
  match a.1 with
  | .indication (.callEnd callId _) | .indication (.alert callId)
  | .indication (.error callId _) =>
    ∀ i, findRilCallContext s callId = some i → s.AccompaniedWithout i
  | .indication (.setupInd callId) =>
    callId ≠ 0xFF → ∀ i c, findRilCallContext s 0xFF = some i → s.calls i = some c →
      c.callState = .waiting → s.Company
  | _ => True

section Company

variable {s u : CallData} {j : Fin maxCalls}

theorem accompanied_congr (h : u.liveState = s.liveState) : u.Accompanied ↔ s.Accompanied := by
  rw [CallData.Accompanied, CallData.Accompanied, company_iff, company_iff, has_iff, has_iff, h]

/-- A call comes into a slot that had none; if it is waiting, it has company already. -/
theorem accompanied_of_vacant (hoff : ∀ i, i ≠ j → u.liveState i = s.liveState i)
    (hj : s.liveState j = none) (hnew : u.liveState j = some .waiting → s.Company)
    (hs : s.Accompanied) : u.Accompanied := by
  intro hwaiting
  obtain ⟨i, hi⟩ := has_iff.mp hwaiting
  have hcompany : s.Company := by
    by_cases hij : i = j
    · exact hnew (hij ▸ hi)
    · exact hs (has_iff.mpr ⟨i, hoff i hij ▸ hi⟩)
  obtain ⟨k, state, hk, hstate⟩ := company_iff.mp hcompany
  have hkj : k ≠ j := by
    rintro rfl
    rw [hj] at hk
    cases hk
  exact company_iff.mpr ⟨k, state, (hoff k hkj).trans hk, hstate⟩

/-- A call goes, or is no longer waiting. -/
theorem accompanied_of_loss (hoff : ∀ i, i ≠ j → u.liveState i = s.liveState i)
    (hj : u.liveState j ≠ some .waiting) (hs : s.AccompaniedWithout j) : u.Accompanied := by
  intro hwaiting
  obtain ⟨i, hi⟩ := has_iff.mp hwaiting
  have hij : i ≠ j := fun h => hj (h ▸ hi)
  obtain ⟨k, hk, state, hkstate, hstate⟩ := hs ⟨i, hij, (hoff i hij).symm.trans hi⟩
  exact company_iff.mpr ⟨k, state, (hoff k hk).trans hkstate, hstate⟩

/-- A call becomes active or is put on hold. -/
theorem accompanied_setState {state : RilCallState} (hstate : state.companion)
    (hs : s.Accompanied) : (s.setState j state).Accompanied := by
  cases hj : s.liveState j with
  | none =>
    refine (accompanied_congr ?_).mpr hs
    funext i
    by_cases hij : i = j
    · rw [hij, liveState_setState_self, hj, Option.map_none]
    · exact liveState_setState_of_ne hij
  | some old =>
    refine fun _ => company_iff.mpr ⟨j, state, ?_, hstate⟩
    rw [liveState_setState_self, hj, Option.map_some]

theorem accompanied_settle (e : RilErrno) : (settle s j e).1.Accompanied ↔ s.Accompanied :=
  accompanied_congr (liveState_settle e)

theorem accompanied_release (hs : s.AccompaniedWithout j) :
    (releaseRilCallContext s j).Accompanied := by
  refine accompanied_of_loss (fun i hi => liveState_put_of_ne hi _) ?_ hs
  rw [releaseRilCallContext, liveState_put_self, Option.bind_none]
  exact nofun

theorem accompanied_alert (hs : s.AccompaniedWithout j) : (s.setState j .alerting).Accompanied := by
  refine accompanied_of_loss (fun i hi => liveState_setState_of_ne hi) ?_ hs
  rw [liveState_setState_self]
  cases s.liveState j <;> exact nofun

theorem ipcCallIncomingFitting_accompanied (callInfo : TapiCallInfo) (hs : s.Accompanied) :
    (ipcCallIncomingFitting s callInfo).1.Accompanied := by
  unfold ipcCallIncomingFitting
  dsimp only
  cases hnew : newRilCallContext s with
  | none => exact hs
  | some p =>
    obtain ⟨i, u⟩ := p
    obtain ⟨hi, hoff⟩ := newRilCallContext_liveState hnew
    refine accompanied_of_vacant (fun k hk => (liveState_put_of_ne hk _).trans (hoff k hk)) hi ?_ hs
    intro hwaiting
    obtain ⟨c, ⟨hc, -⟩, hstate⟩ := liveState_eq_some_iff.mp hwaiting
    obtain ⟨c', -, rfl⟩ :=
      Option.map_eq_some_iff.mp ((CallData.modify_calls_self ..).symm.trans hc)
    dsimp only at hstate
    split_ifs at hstate with hbusy
    · obtain ⟨k, -, hk⟩ := List.any_eq_true.mp hbusy
      obtain ⟨c, hc, hlive⟩ := (Option.any_eq_true _ _).mp hk
      obtain ⟨hid, hactive | hholding⟩ := of_decide_eq_true hlive
      · exact .inr (.inl ⟨k, c, ⟨hc, hid⟩, hactive⟩)
      · exact .inr (.inr ⟨k, c, ⟨hc, hid⟩, hholding⟩)

theorem ipcCallSetupInd_accompanied {callId : UInt32} (hs : s.Accompanied)
    (hkept : callId ≠ 0xFF → ∀ i c, findRilCallContext s 0xFF = some i → s.calls i = some c →
      c.callState = .waiting → s.Company) : (ipcCallSetupInd s callId).1.Accompanied := by
  unfold ipcCallSetupInd
  cases hfind : findRilCallContext s 0xFF with
  | none => exact hs
  | some i =>
    obtain ⟨c, hc, hid⟩ := findRilCallContext_eq_some hfind
    have hmodified : (s.modify i ({ · with callId := callId })).Accompanied := by
      refine accompanied_of_vacant (fun k hk => liveState_put_of_ne hk _) ?_ ?_ hs
      · rw [CallData.liveState, hc, Option.bind_some, if_pos hid]
      · intro hwaiting
        obtain ⟨c', ⟨hc', hne⟩, hstate⟩ := liveState_eq_some_iff.mp hwaiting
        rw [CallData.modify_calls_self, hc, Option.map_some] at hc'
        obtain rfl := Option.some.inj hc'
        exact hkept hne i c hfind hc hstate
    dsimp only
    split
    · exact hmodified
    · exact (accompanied_settle _).mpr hmodified

/-- A call is set active or on hold before a request is settled. -/
theorem accompanied_confirm {state : RilCallState} (hstate : state.companion) (cause : UInt32)
    (e : RilErrno) (hs : s.Accompanied) :
    (settle (if cause = 0 then s.setState j state else s) j e).1.Accompanied := by
  refine (accompanied_settle e).mpr ?_
  split_ifs
  · exact accompanied_setState hstate hs
  · exact hs

section Indications

variable {callId : UInt32}

theorem ipcCallEnd_accompanied (cause : UInt32) (hs : s.Accompanied)
    (hkept : ∀ i, findRilCallContext s callId = some i → s.AccompaniedWithout i) :
    (ipcCallEnd s callId cause).1.Accompanied := by
  unfold ipcCallEnd
  cases hfind : findRilCallContext s callId with
  | none => exact hs
  | some i =>
    have hrelease : (releaseRilCallContext { s with lastCallFailCause := cause } i).Accompanied :=
      accompanied_release (s := { s with lastCallFailCause := cause }) (hkept i hfind)
    dsimp only
    split_ifs
    · exact hrelease
    · exact hrelease

theorem ipcCallAlert_accompanied (hs : s.Accompanied)
    (hkept : ∀ i, findRilCallContext s callId = some i → s.AccompaniedWithout i) :
    (ipcCallAlert s callId).1.Accompanied := by
  unfold ipcCallAlert
  cases hfind : findRilCallContext s callId with
  | none => exact hs
  | some i => exact accompanied_alert (hkept i hfind)

theorem ipcCallConnected_accompanied (hs : s.Accompanied) :
    (ipcCallConnected s callId).1.Accompanied := by
  unfold ipcCallConnected
  cases findRilCallContext s callId with
  | none => exact hs
  | some i =>
    dsimp only
    split_ifs
    · exact (accompanied_settle _).mpr (accompanied_setState rfl hs)
    · exact accompanied_setState rfl hs

theorem ipcCallHold_accompanied (cause : UInt32) (hs : s.Accompanied) :
    (ipcCallHold s callId cause).1.Accompanied := by
  unfold ipcCallHold
  cases findRilCallContext s callId with
  | none => exact hs
  | some i => exact accompanied_confirm rfl cause _ hs

theorem ipcCallSwap_accompanied (activatedCallId heldCallId cause : UInt32) (hs : s.Accompanied) :
    (ipcCallSwap s activatedCallId heldCallId cause).1.Accompanied := by
  unfold ipcCallSwap
  cases findRilCallContext s activatedCallId with
  | none => exact hs
  | some activated =>
    cases findRilCallContext s heldCallId with
    | none => exact hs
    | some held =>
      dsimp only
      split_ifs
      · exact (accompanied_settle _).mpr (accompanied_setState rfl (accompanied_setState rfl hs))
      · exact (accompanied_settle _).mpr hs
      · exact hs

theorem ipcCallActivate_accompanied (cause : UInt32) (hs : s.Accompanied) :
    (ipcCallActivate s callId cause).1.Accompanied := by
  unfold ipcCallActivate
  cases findRilCallContext s callId with
  | none => exact hs
  | some i =>
    dsimp only
    split
    · exact accompanied_confirm rfl cause _ hs
    · exact hs

theorem ipcCallError_accompanied (error : UInt32) (hs : s.Accompanied)
    (hkept : ∀ i, findRilCallContext s callId = some i → s.AccompaniedWithout i) :
    (ipcCallError s callId error).1.Accompanied := by
  unfold ipcCallError
  cases hfind : findRilCallContext s callId with
  | none => exact hs
  | some i =>
    exact accompanied_release (s := { s with lastCallFailCause := error }) (hkept i hfind)

end Indications

theorem callIndication_accompanied {ind : CallIndication} {out : List CallEffect}
    (hs : s.Accompanied) (hkept : CompanyKept s (.indication ind, out)) :
    (callIndicationHandler s ind).1.Accompanied := by
  cases ind with
  | incoming callInfo => exact ipcCallIncomingFitting_accompanied callInfo hs
  | callEnd callId cause => exact ipcCallEnd_accompanied cause hs hkept
  | setupInd callId => exact ipcCallSetupInd_accompanied hs hkept
  | alert callId => exact ipcCallAlert_accompanied hs hkept
  | connected callId => exact ipcCallConnected_accompanied hs
  | dtmfStart reason => exact hs
  | dtmfStop reason => exact hs
  | hold callId cause => exact ipcCallHold_accompanied cause hs
  | swap activatedCallId heldCallId cause => exact ipcCallSwap_accompanied _ _ cause hs
  | activate callId cause => exact ipcCallActivate_accompanied cause hs
  | error callId error => exact ipcCallError_accompanied error hs hkept

/-- Apart from the indications that `CompanyKept` is about, no step takes company away. -/
theorem callStep_accompanied {a : CallEvent × List CallEffect} (hs : s.Accompanied)
    (hkept : CompanyKept s a) (h : CallStep s a u) : u.Accompanied := by
  obtain ⟨e, out⟩ := a
  obtain rfl : (callHandler s e).1 = u := congrArg Prod.fst h
  cases e with
  | request t c => exact (accompanied_congr (callRequest_liveState c)).mpr hs
  | indication ind => exact callIndication_accompanied hs hkept

/-- Along a run that keeps company for waiting calls, no call is left waiting alone. -/
theorem run_accompanied {tr : List (CallEvent × List CallEffect)}
    (h : Run (CallStep.when CompanyKept) .init tr s) : s.Accompanied :=
  h.invariant CallData.Accompanied (fun _ _ _ hs h => callStep_accompanied hs h.1 h.2)
    fun ⟨_, _, ⟨hc, _⟩, _⟩ => nomatch hc

end Company

end Mocha.Ril
