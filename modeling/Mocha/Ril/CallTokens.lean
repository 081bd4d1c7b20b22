import Mocha.Ril.CallTable

/-! What becomes of the tokens of call requests. A request is completed, or its token waits in a
context for an indication, which completes it; only ANSWER without a ringing call and SWITCH with
nothing but waiting calls drop their token, and only ANSWER with several ringing calls uses it more
than once. -/
namespace Mocha.Ril
open Mocha.Lib

/-- The token of a request that an effect completes. -/
def CallEffect.completed : CallEffect → Option RilToken
  | .complete c => if c.token = rilTokenNull then none else some c.token
  | _ => none

/-- The tokens a handler completes, in order. -/
def completions (out : List CallEffect) : List RilToken := out.filterMap CallEffect.completed

/-- The token and the result of a request that an effect completes. -/
def CallEffect.result : CallEffect → Option (RilToken × RilErrno)
  | .complete c => if c.token = rilTokenNull then none else some (c.token, c.errno)
  | _ => none

def results (out : List CallEffect) : List (RilToken × RilErrno) := out.filterMap CallEffect.result

def CallData.Stores (s : CallData) (t : RilToken) : Prop := ∃ i, s.pendingAt i = some t

instance (s : CallData) (t : RilToken) : Decidable (s.Stores t) :=
  inferInstanceAs (Decidable (∃ i, s.pendingAt i = some t))

/-- No request for a tone is pending. -/
def CallData.NoTones (s : CallData) : Prop :=
  s.tokenDtmfStart = rilTokenNull ∧ s.tokenDtmfStop = rilTokenNull

/-- What every handler leaves alone: the tokens of the tone requests. -/
def SameTones (s u : CallData) : Prop :=
  u.tokenDtmfStart = s.tokenDtmfStart ∧ u.tokenDtmfStop = s.tokenDtmfStop

theorem completions_complete {t : RilToken} (ht : t ≠ rilTokenNull) (e : RilErrno)
    (out : List CallEffect) : completions (.complete ⟨t, e, none⟩ :: out) = t :: completions out := by
  rw [completions, List.filterMap_cons_some (by rw [CallEffect.completed, if_neg ht]), completions]

theorem results_complete {t : RilToken} (ht : t ≠ rilTokenNull) (e : RilErrno)
    (out : List CallEffect) :
    results (.complete ⟨t, e, none⟩ :: out) = (t, e) :: results out := by
  rw [results, List.filterMap_cons_some (by rw [CallEffect.result, if_neg ht]), results]

theorem completions_packets {out : List CallEffect} (h : ∀ e ∈ out, e.isPacket) :
    completions out = [] := by
  refine List.filterMap_eq_nil_iff.mpr fun e he => ?_
  have hpacket := h e he
  cases e with
  | complete c => cases hpacket
  | _ => rfl

theorem completions_eq_map_results (out : List CallEffect) :
    completions out = (results out).map Prod.fst := by
  rw [completions, results, List.map_filterMap]
  congr 1
  funext e
  cases e with
  | complete c =>
    dsimp only [CallEffect.completed, CallEffect.result]
    split_ifs <;> rfl
  | _ => rfl

theorem sameTones_newRilCallContext {s u : CallData} {i : Fin maxCalls}
    (h : newRilCallContext s = some (i, u)) : SameTones s u := by
  obtain ⟨k, -, hu⟩ := Option.map_eq_some_iff.mp h
  obtain ⟨-, rfl⟩ := Prod.mk.inj hu
  exact ⟨rfl, rfl⟩

/-- A change that leaves all tokens where they are. -/
structure Keeps (s u : CallData) : Prop where
  tones : SameTones s u
  pending : u.pendingAt = s.pendingAt

section Keeps

variable {s u v : CallData} {i : Fin maxCalls}

theorem Keeps.refl : Keeps s s := ⟨⟨rfl, rfl⟩, rfl⟩

theorem Keeps.trans (h : Keeps s u) (h' : Keeps u v) : Keeps s v :=
  ⟨⟨h'.tones.1.trans h.tones.1, h'.tones.2.trans h.tones.2⟩, h'.pending.trans h.pending⟩

theorem keeps_modify {f : RilCallContext → RilCallContext} (hf : ∀ c, (f c).token = c.token) :
    Keeps s (s.modify i f) := ⟨⟨rfl, rfl⟩, pendingAt_modify hf⟩

theorem keeps_setState (state : RilCallState) : Keeps s (s.setState i state) :=
  keeps_modify fun _ => rfl

theorem keeps_lastCallFailCause (cause : UInt32) :
    Keeps s { s with lastCallFailCause := cause } := ⟨⟨rfl, rfl⟩, rfl⟩

theorem keeps_newRilCallContext (h : newRilCallContext s = some (i, u)) : Keeps s u :=
  ⟨sameTones_newRilCallContext h, (pendingAt_newRilCallContext h).1⟩

theorem keeps_put_context {dial : RilDial} (hfree : s.calls i = none) :
    Keeps s (s.put i (some dial.context)) := by
  refine ⟨⟨rfl, rfl⟩, pendingAt_put_of_token ?_⟩
  rw [CallData.tokenAt, hfree]
  rfl

end Keeps

section Indications

variable {s u : CallData} {i : Fin maxCalls} {r : CallData × List CallEffect}

/-- What an indication does to the pending tokens: nothing, or it completes that of one slot. -/
inductive Settled (s : CallData) (r : CallData × List CallEffect) : Prop
  | kept : Keeps s r.1 → completions r.2 = [] → Settled s r
  | settled (j : Fin maxCalls) : SameTones s r.1 → (∀ i, i ≠ j → r.1.pendingAt i = s.pendingAt i) →
      r.1.pendingAt j = none → completions r.2 = (s.pendingAt j).toList → Settled s r

theorem Settled.sameTones (h : Settled s r) : SameTones s r.1 := by
  cases h with
  | kept hkeeps _ => exact hkeeps.tones
  | settled _ htones _ _ _ => exact htones

theorem Settled.ledger (h : Settled s r) :
    held r.1.pendingAt + (completions r.2 : Multiset RilToken) = held s.pendingAt := by
  cases h with
  | kept hkeeps hout => rw [hkeeps.pending, hout, Multiset.coe_nil, add_zero]
  | settled j _ hoff hj hout =>
    rw [hout]
    exact held_take j hoff hj

/-- A stored token stays in its context or is completed. -/
theorem Settled.stored (h : Settled s r) {t : RilToken} (ht : s.pendingAt i = some t) :
    r.1.pendingAt i = some t ∨ t ∈ completions r.2 := by
  cases h with
  | kept hkeeps _ => exact .inl (by rw [hkeeps.pending, ht])
  | settled j _ hoff _ hout =>
    by_cases hij : i = j
    · subst hij
      exact .inr (by simp [hout, ht])
    · exact .inl ((hoff i hij).trans ht)

/-- The slot whose request an indication settles, and the result it reports. -/
def CallIndication.settles (s : CallData) : CallIndication → Option (Fin maxCalls × RilErrno)
  | .callEnd callId _ | .connected callId => (findRilCallContext s callId).map (·, .success)
  | .setupInd callId => (findRilCallContext s 0xFF).bind fun i =>
    (findRilCallContext (s.modify i ({ · with callId := callId })) callId).map (·, .success)
  | .hold callId cause | .activate callId cause =>
    (findRilCallContext s callId).map (·, causeErrno cause)
  | .swap activatedCallId heldCallId cause => (findRilCallContext s activatedCallId).bind fun _ =>
    (findRilCallContext s heldCallId).map (·, causeErrno cause)
  | .error callId _ => (findRilCallContext s callId).map (·, .genericFailure)
  | .incoming _ | .alert _ | .dtmfStart _ | .dtmfStop _ => none

/-- `Settled`, with the slot and the result. -/
inductive SettledAt (s : CallData) :
    Option (Fin maxCalls × RilErrno) → CallData × List CallEffect → Prop
  | kept {r : CallData × List CallEffect} : Keeps s r.1 → results r.2 = [] → SettledAt s none r
  | settled {r : CallData × List CallEffect} (j : Fin maxCalls) (e : RilErrno) :
      SameTones s r.1 → (∀ i, i ≠ j → r.1.pendingAt i = s.pendingAt i) → r.1.pendingAt j = none →
      results r.2 = (s.pendingAt j).toList.map (·, e) → SettledAt s (some (j, e)) r

theorem SettledAt.forget {target : Option (Fin maxCalls × RilErrno)} (h : SettledAt s target r) :
    Settled s r := by
  cases h with
  | kept hkeeps hout =>
    have hcompletions : completions r.2 = [] := by rw [completions_eq_map_results, hout, List.map_nil]
    exact .kept hkeeps hcompletions
  | settled j e htones hoff hj hout =>
    refine .settled j htones hoff hj ?_
    rw [completions_eq_map_results, hout, List.map_map]
    exact List.map_id _

/-- The request of a context is settled after changes that keep all tokens. -/
theorem settledAt_settle (h : Keeps s u) (e : RilErrno) :
    SettledAt s (some (i, e)) (settle u i e) := by
  unfold settle
  split_ifs with htoken
  · refine .settled i e h.tones (fun j hj => ?_) pendingAt_setToken_null ?_
    · rw [← h.pending]
      exact pendingAt_put_of_ne hj _
    · rw [← h.pending, pendingAt_eq_some_iff.mpr ⟨rfl, htoken⟩, results_complete htoken]
      rfl
  · have hnone : s.pendingAt i = none := by
      rw [← h.pending, pendingAt_eq_none_iff]
      exact not_not.mp htoken
    refine .settled i e h.tones (fun j _ => ?_) ?_ ?_
    · exact congrFun h.pending j
    · exact (congrFun h.pending i).trans hnone
    · rw [hnone]
      rfl

/-- No request was pending. -/
theorem settledAt_of_none (h : Keeps s u) (htoken : u.tokenAt i = rilTokenNull) (e : RilErrno)
    {out : List CallEffect} (hout : results out = []) : SettledAt s (some (i, e)) (u, out) := by
  have hnone : u.pendingAt i = none := pendingAt_eq_none_iff.mpr htoken
  refine .settled i e h.tones (fun j _ => congrFun h.pending j) hnone ?_
  rw [hout, ← h.pending, hnone]
  rfl

/-- A call is set active or on hold before its request is settled. -/
theorem settledAt_confirm (state : RilCallState) (cause : UInt32) (e : RilErrno) :
    SettledAt s (some (i, e)) (settle (if cause = 0 then s.setState i state else s) i e) := by
  refine settledAt_settle ?_ e
  split_ifs
  · exact keeps_setState state
  · exact .refl

/-- A context is released, and its request completed if there is one. -/
theorem settledAt_release (h : Keeps s u) {out : List CallEffect} {e : RilErrno}
    (hout : results out = (u.pendingAt i).toList.map (·, e)) :
    SettledAt s (some (i, e)) (releaseRilCallContext u i, out) := by
  refine .settled i e h.tones (fun j hj => ?_) pendingAt_put_none (h.pending ▸ hout)
  rw [← h.pending]
  exact pendingAt_put_of_ne hj _

theorem ipcCallIncomingFitting_settledAt (callInfo : TapiCallInfo) :
    SettledAt s none (ipcCallIncomingFitting s callInfo) := by
  unfold ipcCallIncomingFitting
  cases hnew : newRilCallContext s with
  | none => exact .kept .refl rfl
  | some p =>
    obtain ⟨i, u⟩ := p
    have hkeeps : Keeps s u := keeps_newRilCallContext hnew
    refine .kept (hkeeps.trans ?_) rfl
    exact keeps_modify fun _ => rfl

theorem ipcCallEnd_settledAt (callId cause : UInt32) :
    SettledAt s ((findRilCallContext s callId).map (·, .success)) (ipcCallEnd s callId cause) := by
  unfold ipcCallEnd
  cases findRilCallContext s callId with
  | none => exact .kept .refl rfl
  | some i =>
    have hkeeps : Keeps s { s with lastCallFailCause := cause } := keeps_lastCallFailCause cause
    dsimp only
    split_ifs with htoken
    · refine settledAt_release hkeeps ?_
      rw [results_complete htoken, pendingAt_eq_some_iff.mpr ⟨rfl, htoken⟩]
      rfl
    · refine settledAt_release hkeeps ?_
      rw [pendingAt_eq_none_iff.mpr (not_not.mp htoken)]
      rfl

theorem ipcCallSetupInd_settledAt (callId : UInt32) :
    SettledAt s ((findRilCallContext s 0xFF).bind fun i =>
        (findRilCallContext (s.modify i ({ · with callId := callId })) callId).map (·, .success))
      (ipcCallSetupInd s callId) := by
  unfold ipcCallSetupInd
  cases findRilCallContext s 0xFF with
  | none => exact .kept .refl rfl
  | some i =>
    have hkeeps : Keeps s (s.modify i ({ · with callId := callId })) := keeps_modify fun _ => rfl
    dsimp only [Option.bind_some]
    cases findRilCallContext (s.modify i ({ · with callId := callId })) callId with
    | none => exact .kept hkeeps rfl
    | some j => exact settledAt_settle hkeeps .success

theorem ipcCallAlert_settledAt (callId : UInt32) : SettledAt s none (ipcCallAlert s callId) := by
  unfold ipcCallAlert
  cases findRilCallContext s callId with
  | none => exact .kept .refl rfl
  | some i => exact .kept (keeps_setState _) rfl

theorem ipcCallConnected_settledAt (callId : UInt32) :
    SettledAt s ((findRilCallContext s callId).map (·, .success)) (ipcCallConnected s callId) := by
  unfold ipcCallConnected
  cases findRilCallContext s callId with
  | none => exact .kept .refl rfl
  | some i =>
    have hkeeps : Keeps s (s.setState i .active) := keeps_setState .active
    dsimp only
    split_ifs with htoken
    · exact settledAt_settle hkeeps .success
    · exact settledAt_of_none hkeeps (not_not.mp htoken) .success rfl

theorem ipcCallHold_settledAt (callId cause : UInt32) :
    SettledAt s ((findRilCallContext s callId).map (·, causeErrno cause))
      (ipcCallHold s callId cause) := by
  unfold ipcCallHold
  cases findRilCallContext s callId with
  | none => exact .kept .refl rfl
  | some i => exact settledAt_confirm .holding cause _

theorem ipcCallSwap_settledAt (activatedCallId heldCallId cause : UInt32) :
    SettledAt s ((findRilCallContext s activatedCallId).bind fun _ =>
        (findRilCallContext s heldCallId).map (·, causeErrno cause))
      (ipcCallSwap s activatedCallId heldCallId cause) := by
  unfold ipcCallSwap
  cases findRilCallContext s activatedCallId with
  | none => exact .kept .refl rfl
  | some activated =>
    cases findRilCallContext s heldCallId with
    | none => exact .kept .refl rfl
    | some held =>
      have hactivated : Keeps s (s.setState activated .active) := keeps_setState .active
      have hheld : Keeps s ((s.setState activated .active).setState held .holding) :=
        hactivated.trans (keeps_setState .holding)
      dsimp only [Option.bind_some, Option.map_some]
      split_ifs with htoken
      · exact settledAt_settle hheld (causeErrno cause)
      · exact settledAt_settle .refl (causeErrno cause)
      · exact settledAt_of_none .refl (not_not.mp htoken) _ rfl

theorem ipcCallActivate_settledAt (callId cause : UInt32) :
    SettledAt s ((findRilCallContext s callId).map (·, causeErrno cause))
      (ipcCallActivate s callId cause) := by
  unfold ipcCallActivate
  cases findRilCallContext s callId with
  | none => exact .kept .refl rfl
  | some i =>
    dsimp only [Option.map_some]
    by_cases htoken : s.tokenAt i = rilTokenNull
    · rw [if_neg (not_not.mpr htoken)]
      exact settledAt_of_none .refl htoken _ rfl
    · rw [if_pos htoken]
      exact settledAt_confirm .active cause _

theorem ipcCallError_settledAt (callId error : UInt32) :
    SettledAt s ((findRilCallContext s callId).map (·, .genericFailure))
      (ipcCallError s callId error) := by
  unfold ipcCallError
  cases findRilCallContext s callId with
  | none => exact .kept .refl rfl
  | some i =>
    have hkeeps : Keeps s { s with lastCallFailCause := error } := keeps_lastCallFailCause error
    dsimp only
    refine settledAt_release hkeeps ?_
    split_ifs with htoken
    · rw [List.singleton_append, results_complete htoken, pendingAt_eq_some_iff.mpr ⟨rfl, htoken⟩]
      rfl
    · rw [pendingAt_eq_none_iff.mpr (not_not.mp htoken)]
      rfl

/-- What an indication does to the pending requests, slot by slot. -/
theorem callIndication_settledAt (hs : s.NoTones) (ind : CallIndication) :
    SettledAt s (ind.settles s) (callIndicationHandler s ind) := by
  cases ind with
  | incoming callInfo => exact ipcCallIncomingFitting_settledAt callInfo
  | callEnd callId cause => exact ipcCallEnd_settledAt callId cause
  | setupInd callId => exact ipcCallSetupInd_settledAt callId
  | alert callId => exact ipcCallAlert_settledAt callId
  | connected callId => exact ipcCallConnected_settledAt callId
  | dtmfStart reason =>
    refine .kept .refl ?_
    simp [callIndicationHandler, ipcCallDtmfStart, results, CallEffect.result, hs.1]
  | dtmfStop reason =>
    refine .kept .refl ?_
    simp [callIndicationHandler, ipcCallDtmfStop, results, CallEffect.result, hs.2]
  | hold callId cause => exact ipcCallHold_settledAt callId cause
  | swap activatedCallId heldCallId cause =>
    exact ipcCallSwap_settledAt activatedCallId heldCallId cause
  | activate callId cause => exact ipcCallActivate_settledAt callId cause
  | error callId error => exact ipcCallError_settledAt callId error

theorem callIndication_settled (hs : s.NoTones) (ind : CallIndication) :
    Settled s (callIndicationHandler s ind) := (callIndication_settledAt hs ind).forget

end Indications

/-- When a handler does not drop the token of its request: ANSWER has a ringing call, and SWITCH has
not just waiting calls without a request. -/
def KeepsToken (s : CallData) : CallRequest → Prop
  | .answer => s.Has .incoming
  | .switchWaitingOrHoldingAndActive =>
    s.Has .active ∨ s.Has .holding ∨ ¬s.Has .waiting ∨
      ∃ i c, s.Live i c ∧ c.callState = .waiting ∧ c.token ≠ rilTokenNull
  | _ => True

/-- The calls that ANSWER is about. -/
def CallData.isIncoming (s : CallData) (i : Fin maxCalls) : Bool :=
  (s.calls i).any fun c => c.callId ≠ 0xFF ∧ c.callState = .incoming

theorem isIncoming_setToken (s : CallData) (i : Fin maxCalls) (t : RilToken) :
    (s.setToken i t).isIncoming = s.isIncoming := by
  funext j
  rw [CallData.isIncoming, CallData.isIncoming, CallData.setToken, CallData.modify]
  by_cases hj : j = i
  · rw [hj, CallData.put_calls_self, Option.any_map]
  · rw [CallData.put_calls_of_ne _ hj]

/-- There is at most one call to answer, or the first of them has a pending request. -/
def OneAnswer (s : CallData) (ringing : List (Fin maxCalls)) : Prop :=
  ringing.length ≤ 1 ∨ ∃ i ∈ ringing.head?, s.pendingAt i ≠ none

section Requests

variable {s : CallData} {t : RilToken} {r : CallData × List CallEffect}

/-- A request has brought in its token, and it is now held or paid out `n` times in all. -/
structure Ledger (s : CallData) (t : RilToken) (n : ℕ) (r : CallData × List CallEffect) : Prop where
  tones : SameTones s r.1
  balance : held r.1.pendingAt + (completions r.2 : Multiset RilToken) =
    held s.pendingAt + Multiset.replicate n t

theorem ledger_drop {out : List CallEffect} (hout : completions out = []) :
    Ledger s t 0 (s, out) :=
  ⟨⟨rfl, rfl⟩, by rw [hout, Multiset.coe_nil, Multiset.replicate_zero]⟩

theorem ledger_complete {u : CallData} (hu : Keeps s u) {out : List CallEffect}
    (hout : completions out = [t]) : Ledger s t 1 (u, out) :=
  ⟨hu.tones, by rw [hout, hu.pending, Multiset.coe_singleton, Multiset.replicate_one]⟩

variable (ht : t ≠ rilTokenNull)
include ht

theorem ledger_refuse (e : RilErrno) : Ledger s t 1 (s, [.complete ⟨t, e, none⟩]) :=
  ledger_complete .refl (completions_complete ht e [])

theorem ledger_store {i : Fin maxCalls} {u : CallData} (hu : Keeps s u) (hi : u.calls i ≠ none)
    (hnone : u.pendingAt i = none) {out : List CallEffect} (hout : completions out = []) :
    Ledger s t 1 (u.setToken i t, out) := by
  refine ⟨hu.tones, ?_⟩
  have hoff : ∀ j, j ≠ i → (u.setToken i t).pendingAt j = u.pendingAt j :=
    fun j hj => pendingAt_put_of_ne hj _
  have hstored : (u.setToken i t).pendingAt i = some t :=
    pendingAt_eq_some_iff.mpr ⟨tokenAt_setToken hi, ht⟩
  rw [hout, Multiset.coe_nil, add_zero, Multiset.replicate_one, ← hu.pending]
  exact held_put i hoff hnone hstored

theorem ledger_answer {i : Fin maxCalls} {n : ℕ} {callType : UInt8} {callId : UInt32}
    (hi : s.calls i ≠ none) (hnone : s.pendingAt i = none) (h : Ledger (s.setToken i t) t n r) :
    Ledger s t (n + 1) (r.1, .tapiCallAnswer callType callId :: r.2) := by
  have hstore : Ledger s t 1 (s.setToken i t, []) := ledger_store ht .refl hi hnone rfl
  refine ⟨⟨h.tones.1, h.tones.2⟩, ?_⟩
  have hbalance := hstore.balance
  rw [completions, List.filterMap_nil, Multiset.coe_nil, add_zero] at hbalance
  change held r.1.pendingAt + (completions r.2 : Multiset RilToken) = _
  rw [h.balance, hbalance, add_assoc, ← Multiset.replicate_add, add_comm 1 n]

/-- A token goes to a call that a loop over the table has found. -/
theorem ledger_found {states : List RilCallState} {found : FoundCalls} {state : RilCallState}
    {i : Fin maxCalls} {c : RilCallContext} (h : findCalls states s = some found)
    (hp : found state = some (i, c)) {out : List CallEffect} (hout : completions out = []) :
    Ledger s t 1 (s.setToken i t, out) := by
  obtain ⟨hcalls, hnone⟩ := pendingAt_found h hp
  exact ledger_store ht .refl hcalls hnone hout

theorem rilRequestDialFitting_ledger (data : Option RilDial) (now : UInt32) :
    Ledger s t 1 (rilRequestDialFitting s t data now) := by
  rcases rilRequestDialFitting_cases s t data now with hrefused | ⟨dial, i, _, -, -, hfree, hdial⟩
  · rw [hrefused]
    exact ledger_refuse ht _
  · rw [hdial]
    obtain ⟨hcalls, hnone⟩ := pendingAt_put_context
    exact ledger_store ht (keeps_put_context hfree) hcalls hnone rfl

/-- A request that uses its token uses it once. -/
theorem tokenUse_ledger {c : CallRequest} (h : TokenUse s t c r)
    (hc : c ≠ .switchWaitingOrHoldingAndActive) : Ledger s t 1 r := by
  cases h with
  | completed errno => exact ledger_refuse ht errno
  | stored i e out hcalls hnone hpackets =>
    exact ledger_store ht .refl hcalls hnone (completions_packets hpackets)
  | dropped hswitch => exact absurd hswitch hc

theorem rilRequestSwitch_ledger :
    ∃ n ≤ 1, Ledger s t n (rilRequestSwitchWaitingOrHoldingAndActive s t) ∧
      (1 ≤ n ↔ KeepsToken s .switchWaitingOrHoldingAndActive) := by
  unfold rilRequestSwitchWaitingOrHoldingAndActive KeepsToken
  cases hfind : findCalls [.active, .holding, .waiting] s with
  | none =>
    refine ⟨1, le_rfl, ledger_refuse ht _, iff_of_true le_rfl ?_⟩
    obtain ⟨i, c, hlive, hstate, htoken⟩ := findCalls_eq_none_iff.mp hfind
    rw [List.mem_cons, List.mem_cons, List.mem_singleton] at hstate
    rcases hstate with hactive | hholding | hwaiting
    · exact .inl ⟨i, c, hlive, hactive⟩
    · exact .inr (.inl ⟨i, c, hlive, hholding⟩)
    · exact .inr (.inr (.inr ⟨i, c, hlive, hwaiting, htoken⟩))
  | some found =>
    have hhas {state : RilCallState} {p : Fin maxCalls × RilCallContext}
        (hp : found state = some p) : s.Has state := has_of_found hfind hp
    have hnone {state : RilCallState} (hp : found state = none)
        (hmem : state ∈ [RilCallState.active, .holding, .waiting]) : ¬s.Has state :=
      (found_eq_none_iff hfind hmem).mp hp
    dsimp only
    split
    case h_1 hactive _ =>
      exact ⟨1, le_rfl, ledger_found ht hfind hactive rfl, iff_of_true le_rfl (.inl (hhas hactive))⟩
    case h_2 hactive _ hwaiting =>
      exact ⟨1, le_rfl, ledger_found ht hfind hwaiting rfl, iff_of_true le_rfl (.inl (hhas hactive))⟩
    case h_3 hholding hwaiting =>
      exact ⟨1, le_rfl, ledger_found ht hfind hwaiting rfl,
        iff_of_true le_rfl (.inr (.inl (hhas hholding)))⟩
    case h_4 hactive _ _ =>
      exact ⟨1, le_rfl, ledger_found ht hfind hactive rfl, iff_of_true le_rfl (.inl (hhas hactive))⟩
    case h_5 hholding _ =>
      exact ⟨1, le_rfl, ledger_found ht hfind hholding rfl,
        iff_of_true le_rfl (.inr (.inl (hhas hholding)))⟩
    case h_6 hwaiting =>
      exact ⟨1, le_rfl, ledger_refuse ht _,
        iff_of_true le_rfl (.inr (.inr (.inl (hnone hwaiting (by simp)))))⟩
    -- nothing but waiting calls, none with a request
    case h_7 hactive hholding hwaiting =>
      refine ⟨0, zero_le_one, ledger_drop rfl, iff_of_false (by simp) ?_⟩
      rintro (h | h | h | ⟨i, c, hlive, hstate, htoken⟩)
      · exact hnone hactive (by simp) h
      · exact hnone hholding (by simp) h
      · exact h (hhas hwaiting)
      · cases hfind.symm.trans (findCalls_eq_none_iff.mpr ⟨i, c, hlive, by simp [hstate], htoken⟩)

/-- The loop of ANSWER uses the token once for each ringing call that it reaches. -/
theorem answerCalls_ledger (is : List (Fin maxCalls)) :
    ∃ n, Ledger s t n (answerCalls t is s) ∧ (1 ≤ n ↔ ∃ i ∈ is, s.isIncoming i) ∧
      (OneAnswer s (is.filter s.isIncoming) → n ≤ 1) := by
  induction is generalizing s with
  | nil => exact ⟨0, ledger_drop rfl, by simp, fun _ => zero_le_one⟩
  | cons i is ih =>
    rw [List.exists_mem_cons_iff, answerCalls]
    cases hc : s.calls i with
    | none =>
      have hi : s.isIncoming i = false := by simp [CallData.isIncoming, hc]
      simpa [hi] using ih
    | some c =>
      have hi : s.isIncoming i = decide (c.callId ≠ 0xFF ∧ c.callState = .incoming) := by
        simp [CallData.isIncoming, hc]
      dsimp only
      split_ifs with hlive htoken
      · refine ⟨1, ledger_refuse ht _, iff_of_true le_rfl (.inl ?_), fun _ => le_rfl⟩
        rw [hi, decide_eq_true hlive]
      · have hnone : s.pendingAt i = none := by
          rw [pendingAt_eq_none_iff, tokenAt_eq hc, not_not.mp htoken]
        have hcalls : s.calls i ≠ none := by simp [hc]
        rw [decide_eq_true hlive] at hi
        obtain ⟨n, hledger, hn, -⟩ := ih (s := s.setToken i t)
        rw [isIncoming_setToken] at hn
        have hpos : 1 ≤ n + 1 := by omega
        refine ⟨n + 1, ledger_answer ht hcalls hnone hledger, iff_of_true hpos (.inl hi), ?_⟩
        intro hone
        rw [List.filter_cons_of_pos hi] at hone
        -- the call is the only one to answer, as its request is not pending
        have hlast : is.filter s.isIncoming = [] := by
          rcases hone with hlength | ⟨k, hk, hpending⟩
          · have hzero : (is.filter s.isIncoming).length = 0 := by
              rw [List.length_cons] at hlength
              omega
            exact List.length_eq_zero_iff.mp hzero
          · obtain rfl := Option.some.inj hk
            exact absurd hnone hpending
        have hn0 : ¬1 ≤ n := by
          intro h1
          obtain ⟨k, hk, hkin⟩ := hn.mp h1
          exact List.filter_eq_nil_iff.mp hlast k hk hkin
        omega
      · rw [decide_eq_false hlive] at hi
        simpa [hi] using ih

end Requests

/-- ANSWER uses its token at most once. -/
def AnswersOnce (s : CallData) : CallRequest → Prop
  | .answer => OneAnswer s ((List.finRange maxCalls).filter s.isIncoming)
  | _ => True

theorem has_incoming_iff {s : CallData} :
    s.Has .incoming ↔ ∃ i ∈ List.finRange maxCalls, s.isIncoming i := by
  simp [CallData.Has, CallData.Live, CallData.isIncoming, Option.any_eq_true, and_assoc]

/-- What a request does with its token: it uses it unless it drops it, and just once unless it
answers several calls. -/
theorem callRequest_ledger {s : CallData} {t : RilToken} (ht : t ≠ rilTokenNull) (c : CallRequest) :
    ∃ n, Ledger s t n (callRequestHandler s t c) ∧ (1 ≤ n ↔ KeepsToken s c) ∧
      (AnswersOnce s c → n ≤ 1) := by
  have hone {r : CallData × List CallEffect} {P Q : Prop} (h : Ledger s t 1 r) (hP : P) :
      ∃ n, Ledger s t n r ∧ (1 ≤ n ↔ P) ∧ (Q → n ≤ 1) :=
    ⟨1, h, iff_of_true le_rfl hP, fun _ => le_rfl⟩
  cases c with
  | dial data now => exact hone (rilRequestDialFitting_ledger ht data now) trivial
  | hangup data => exact hone (tokenUse_ledger (c := .hangup data) ht (rilRequestHangup_use data) nofun) trivial
  | hangupWaitingOrBackground =>
    exact hone (tokenUse_ledger (c := .hangupWaitingOrBackground) ht rilRequestHangupWaitingOrBackground_use nofun) trivial
  | hangupForegroundResumeBackground =>
    exact hone (tokenUse_ledger (c := .hangupForegroundResumeBackground) ht rilRequestHangupForegroundResumeBackground_use nofun) trivial
  | answer =>
    obtain ⟨n, hledger, hn, hle⟩ := answerCalls_ledger (s := s) ht (List.finRange maxCalls)
    exact ⟨n, hledger, hn.trans has_incoming_iff.symm, hle⟩
  | switchWaitingOrHoldingAndActive =>
    obtain ⟨n, hle, hledger, hn⟩ := rilRequestSwitch_ledger (s := s) ht
    exact ⟨n, hledger, hn, fun _ => hle⟩

end Mocha.Ril
