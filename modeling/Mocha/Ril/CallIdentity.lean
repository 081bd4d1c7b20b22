import Mocha.Ril.CallTable

/-! Which call is in which slot. A call comes into a free slot, a dialed call gets its id from
SETUP_IND, and a call leaves with END_IND or ERROR_IND; nothing else moves or renames a call. -/
namespace Mocha.Ril
open Mocha.Lib

/-- What a context keeps from its creation on, except that SETUP_IND gives a dialed call its id. -/
structure CallIdentity where
  callId : UInt32
  callType : UInt32
  bMT : UInt8
  number : CString
deriving DecidableEq

def RilCallContext.identity (c : RilCallContext) : CallIdentity :=
  ⟨c.callId, c.callType, c.bMT, c.number⟩

def CallData.identityAt (s : CallData) (i : Fin maxCalls) : Option CallIdentity :=
  (s.calls i).map (·.identity)

section Operations

variable {s u : CallData} {i j : Fin maxCalls} {f : RilCallContext → RilCallContext}

theorem identityAt_eq_some_iff {x : CallIdentity} :
    s.identityAt i = some x ↔ ∃ c, s.calls i = some c ∧ c.identity = x := Option.map_eq_some_iff

theorem identityAt_eq_none_iff : s.identityAt i = none ↔ s.calls i = none := Option.map_eq_none_iff

theorem identityAt_put (c : Option RilCallContext) :
    (s.put i c).identityAt = Function.update s.identityAt i (c.map (·.identity)) := by
  funext j
  by_cases hj : j = i
  · subst hj
    rw [CallData.identityAt, CallData.put_calls_self, Function.update_self]
  · rw [CallData.identityAt, CallData.put_calls_of_ne s hj, Function.update_of_ne hj,
      CallData.identityAt]

theorem identityAt_modify (g : CallIdentity → CallIdentity) (hf : ∀ c, (f c).identity = g c.identity) :
    (s.modify i f).identityAt = Function.update s.identityAt i ((s.identityAt i).map g) := by
  rw [CallData.modify, identityAt_put, CallData.identityAt, Option.map_map, Option.map_map]
  congr 2
  exact funext hf

/-- Changes of a context other than to its identity. -/
theorem identityAt_modify_of_eq (hf : ∀ c, (f c).identity = c.identity) :
    (s.modify i f).identityAt = s.identityAt := by
  rw [identityAt_modify id hf, Option.map_id, id, Function.update_eq_self]

@[simp] theorem identityAt_setToken (t : RilToken) : (s.setToken i t).identityAt = s.identityAt :=
  identityAt_modify_of_eq fun _ => rfl

@[simp] theorem identityAt_setState (state : RilCallState) :
    (s.setState i state).identityAt = s.identityAt := identityAt_modify_of_eq fun _ => rfl

@[simp] theorem identityAt_settle (e : RilErrno) : (settle s i e).1.identityAt = s.identityAt := by
  unfold settle
  split_ifs
  · exact identityAt_setToken _
  · rfl

theorem identityAt_newRilCallContext (h : newRilCallContext s = some (i, u)) :
    s.identityAt i = none ∧
      u.identityAt = Function.update s.identityAt i (some ⟨0, 0, 0, []⟩) := by
  obtain ⟨k, hk, hu⟩ := Option.map_eq_some_iff.mp h
  obtain ⟨rfl, rfl⟩ := Prod.mk.inj hu
  have hfree : s.calls k = none := by simpa using List.find?_some hk
  constructor
  · exact identityAt_eq_none_iff.mpr hfree
  · exact identityAt_put _

theorem findRilCallContext_identity {callId : UInt32} (h : findRilCallContext s callId = some i) :
    ∃ x, s.identityAt i = some x ∧ x.callId = callId := by
  obtain ⟨c, hc, hid⟩ := findRilCallContext_eq_some h
  exact ⟨c.identity, identityAt_eq_some_iff.mpr ⟨c, hc, rfl⟩, hid⟩

theorem findRilCallContext_eq_none_iff {callId : UInt32} :
    findRilCallContext s callId = none ↔ ∀ i x, s.identityAt i = some x → x.callId ≠ callId := by
  rw [findRilCallContext, List.find?_eq_none]
  constructor
  · intro hno i x hx hid
    obtain ⟨c, hc, rfl⟩ := identityAt_eq_some_iff.mp hx
    have hany : (s.calls i).any (·.callId = callId) := by
      rw [hc, Option.any_some]
      exact decide_eq_true hid
    exact hno i (List.mem_finRange i) hany
  · intro hno i _ hany
    obtain ⟨c, hc, hid⟩ := (Option.any_eq_true _ _).mp hany
    exact hno i c.identity (identityAt_eq_some_iff.mpr ⟨c, hc, rfl⟩) (of_decide_eq_true hid)

end Operations

/-- What an event does to the calls in the slots. -/
inductive IdentityChange (s : CallData) (e : CallEvent) (u : CallData) : Prop
  | same : u.identityAt = s.identityAt → IdentityChange s e u
  | dialed (t : RequestToken) (dial : RilDial) (now : UInt32) (i : Fin maxCalls) :
      e = .request t (.dial (some dial) now) → s.identityAt i = none →
      findRilCallContext s 0xFF = none →
      u.identityAt = Function.update s.identityAt i (some ⟨0xFF, 0, 0, dial.address⟩) →
      IdentityChange s e u
  | arrived (callInfo : TapiCallInfo) (i : Fin maxCalls) :
      e = .indication (.incoming callInfo) → s.identityAt i = none →
      u.identityAt = Function.update s.identityAt i
        (some ⟨callInfo.callId, callInfo.callType.toUInt32, 1, callInfo.phoneNumber⟩) →
      IdentityChange s e u
  | renamed (callId : UInt32) (i : Fin maxCalls) (x : CallIdentity) :
      e = .indication (.setupInd callId) → s.identityAt i = some x → x.callId = 0xFF →
      u.identityAt = Function.update s.identityAt i (some { x with callId := callId }) →
      IdentityChange s e u
  | released (callId cause : UInt32) (i : Fin maxCalls) (x : CallIdentity) :
      e = .indication (.callEnd callId cause) ∨ e = .indication (.error callId cause) →
      s.identityAt i = some x → x.callId = callId →
      u.identityAt = Function.update s.identityAt i none → IdentityChange s e u

section Steps

variable {s : CallData} {t : RilToken}

/-- Only DIAL brings a request's call into the table. -/
theorem callRequest_identityAt (c : CallRequest) (hc : ∀ data now, c ≠ .dial data now) :
    (callRequestHandler s t c).1.identityAt = s.identityAt :=
  callRequest_keeps (fun _ _ => identityAt_setToken _) hc

theorem rilRequestDialFitting_identityChange (t : RequestToken) (data : Option RilDial) (now : UInt32) :
    IdentityChange s (.request t (.dial data now)) (rilRequestDialFitting s t.1 data now).1 := by
  rcases rilRequestDialFitting_cases s t.1 data now with hrefused | ⟨dial, i, _, rfl, hno, hfree, hdial⟩
  · rw [hrefused]
    exact .same rfl
  · rw [hdial]
    refine .dialed t dial now i rfl (identityAt_eq_none_iff.mpr hfree) hno ?_
    rw [identityAt_setToken]
    exact identityAt_put _

theorem ipcCallIncomingFitting_identityChange (callInfo : TapiCallInfo) :
    IdentityChange s (.indication (.incoming callInfo)) (ipcCallIncomingFitting s callInfo).1 := by
  unfold ipcCallIncomingFitting
  dsimp only
  cases hnew : newRilCallContext s with
  | none => exact .same rfl
  | some p =>
    obtain ⟨i, u⟩ := p
    obtain ⟨hfree, hu⟩ := identityAt_newRilCallContext hnew
    refine .arrived callInfo i rfl hfree ?_
    dsimp only
    rw [identityAt_modify (fun _ =>
        ⟨callInfo.callId, callInfo.callType.toUInt32, 1, callInfo.phoneNumber⟩) fun _ => rfl, hu,
      Function.update_self, Option.map_some, Function.update_idem]

theorem ipcCallEnd_identityChange (callId cause : UInt32) :
    IdentityChange s (.indication (.callEnd callId cause)) (ipcCallEnd s callId cause).1 := by
  unfold ipcCallEnd
  cases hfind : findRilCallContext s callId with
  | none => exact .same rfl
  | some i =>
    obtain ⟨x, hx, hid⟩ := findRilCallContext_identity hfind
    dsimp only
    split_ifs
    · exact .released callId cause i x (.inl rfl) hx hid (identityAt_put none)
    · exact .released callId cause i x (.inl rfl) hx hid (identityAt_put none)

theorem ipcCallError_identityChange (callId error : UInt32) :
    IdentityChange s (.indication (.error callId error)) (ipcCallError s callId error).1 := by
  unfold ipcCallError
  cases hfind : findRilCallContext s callId with
  | none => exact .same rfl
  | some i =>
    obtain ⟨x, hx, hid⟩ := findRilCallContext_identity hfind
    exact .released callId error i x (.inr rfl) hx hid (identityAt_put none)

theorem ipcCallSetupInd_identityChange (callId : UInt32) :
    IdentityChange s (.indication (.setupInd callId)) (ipcCallSetupInd s callId).1 := by
  unfold ipcCallSetupInd
  cases hfind : findRilCallContext s 0xFF with
  | none => exact .same rfl
  | some i =>
    obtain ⟨x, hx, hid⟩ := findRilCallContext_identity hfind
    have hrenamed : (s.modify i ({ · with callId := callId })).identityAt =
        Function.update s.identityAt i (some { x with callId := callId }) := by
      rw [identityAt_modify (fun x => { x with callId := callId }) fun _ => rfl, hx,
        Option.map_some]
    dsimp only
    split
    · exact .renamed callId i x rfl hx hid hrenamed
    · exact .renamed callId i x rfl hx hid ((identityAt_settle _).trans hrenamed)

/-! The other indications change the states and the requests of calls only. -/

theorem ipcCallAlert_identityAt (callId : UInt32) :
    (ipcCallAlert s callId).1.identityAt = s.identityAt := by
  unfold ipcCallAlert
  split
  · rfl
  · exact identityAt_setState _

theorem ipcCallConnected_identityAt (callId : UInt32) :
    (ipcCallConnected s callId).1.identityAt = s.identityAt := by
  unfold ipcCallConnected
  split
  · rfl
  · dsimp only
    split_ifs
    · exact (identityAt_settle _).trans (identityAt_setState _)
    · exact identityAt_setState _

theorem ipcCallHold_identityAt (callId cause : UInt32) :
    (ipcCallHold s callId cause).1.identityAt = s.identityAt := by
  unfold ipcCallHold
  split
  · rfl
  · refine (identityAt_settle _).trans ?_
    split_ifs
    · exact identityAt_setState _
    · rfl

theorem ipcCallSwap_identityAt (activatedCallId heldCallId cause : UInt32) :
    (ipcCallSwap s activatedCallId heldCallId cause).1.identityAt = s.identityAt := by
  unfold ipcCallSwap
  split
  · split_ifs
    · refine (identityAt_settle _).trans ?_
      rw [identityAt_setState, identityAt_setState]
    · exact identityAt_settle _
    · rfl
  · rfl

theorem ipcCallActivate_identityAt (callId cause : UInt32) :
    (ipcCallActivate s callId cause).1.identityAt = s.identityAt := by
  unfold ipcCallActivate
  split
  · rfl
  · split_ifs
    · exact (identityAt_settle _).trans (identityAt_setState _)
    · exact identityAt_settle _
    · rfl

theorem callIndication_identityAt (ind : CallIndication) (hincoming : ∀ c, ind ≠ .incoming c)
    (hend : ∀ id cause, ind ≠ .callEnd id cause) (hsetup : ∀ id, ind ≠ .setupInd id)
    (herror : ∀ id error, ind ≠ .error id error) :
    (callIndicationHandler s ind).1.identityAt = s.identityAt := by
  cases ind with
  | incoming callInfo => exact absurd rfl (hincoming callInfo)
  | callEnd callId cause => exact absurd rfl (hend callId cause)
  | setupInd callId => exact absurd rfl (hsetup callId)
  | error callId error => exact absurd rfl (herror callId error)
  | alert callId => exact ipcCallAlert_identityAt callId
  | connected callId => exact ipcCallConnected_identityAt callId
  | dtmfStart reason => rfl
  | dtmfStop reason => rfl
  | hold callId cause => exact ipcCallHold_identityAt callId cause
  | swap activatedCallId heldCallId cause => exact ipcCallSwap_identityAt _ _ cause
  | activate callId cause => exact ipcCallActivate_identityAt callId cause

theorem callIndication_identityChange (ind : CallIndication) :
    IdentityChange s (.indication ind) (callIndicationHandler s ind).1 := by
  cases ind with
  | incoming callInfo => exact ipcCallIncomingFitting_identityChange callInfo
  | callEnd callId cause => exact ipcCallEnd_identityChange callId cause
  | setupInd callId => exact ipcCallSetupInd_identityChange callId
  | error callId error => exact ipcCallError_identityChange callId error
  | _ => exact .same (callIndication_identityAt _ nofun nofun nofun nofun)

/-- Everything that an event can do to the calls in the slots. -/
theorem callHandler_identityChange (e : CallEvent) : IdentityChange s e (callHandler s e).1 := by
  cases e with
  | request t c =>
    by_cases hdial : ∃ data now, c = .dial data now
    · obtain ⟨data, now, rfl⟩ := hdial
      exact rilRequestDialFitting_identityChange t data now
    · refine .same (callRequest_identityAt c ?_)
      exact fun data now h => hdial ⟨data, now, h⟩
  | indication ind => exact callIndication_identityChange ind

end Steps

end Mocha.Ril
