import Mocha.Lib.Slots
import Mocha.Ril.Call

/-! What the operations on the call table change of its pending tokens, what the loops over the table
find, and what the requests do with it. -/
namespace Mocha.Ril
open Mocha.Lib

/-- The pending token in a slot. -/
def CallData.pendingAt (s : CallData) (i : Fin maxCalls) : Option RilToken :=
  if s.tokenAt i = rilTokenNull then none else some (s.tokenAt i)

/-- A call that the modem has given an id. -/
def CallData.Live (s : CallData) (i : Fin maxCalls) (c : RilCallContext) : Prop :=
  s.calls i = some c ∧ c.callId ≠ 0xFF

/-- Some call with an id is in the state. -/
def CallData.Has (s : CallData) (state : RilCallState) : Prop :=
  ∃ i c, s.Live i c ∧ c.callState = state

/-- The context of a call that has been dialed and not named yet. -/
def RilDial.context (dial : RilDial) : RilCallContext :=
  ⟨0xFF, 0, 0, dial.address, .dialing, rilTokenNull⟩

section Operations

variable {s : CallData} {i j : Fin maxCalls} {f : RilCallContext → RilCallContext} {t : RilToken}

theorem tokenAt_eq {c : RilCallContext} (h : s.calls i = some c) : s.tokenAt i = c.token := by
  rw [CallData.tokenAt, h]
  rfl

theorem pendingAt_eq_none_iff : s.pendingAt i = none ↔ s.tokenAt i = rilTokenNull := by
  rw [CallData.pendingAt]
  split_ifs with h <;> simp [h]

theorem pendingAt_eq_some_iff :
    s.pendingAt i = some t ↔ s.tokenAt i = t ∧ t ≠ rilTokenNull := by
  rw [CallData.pendingAt]
  split_ifs with h
  · simp only [false_iff, not_and, not_not]
    rintro rfl
    exact h
  · rw [Option.some.injEq]
    exact ⟨fun ht => ⟨ht, ht ▸ h⟩, And.left⟩

theorem tokenAt_put_self (c : Option RilCallContext) :
    (s.put i c).tokenAt i = (c.map (·.token)).getD rilTokenNull := by
  rw [CallData.tokenAt, CallData.put_calls_self]

theorem tokenAt_put_of_ne (h : j ≠ i) (c : Option RilCallContext) :
    (s.put i c).tokenAt j = s.tokenAt j := by
  rw [CallData.tokenAt, CallData.put_calls_of_ne s h, CallData.tokenAt]

theorem pendingAt_put_of_ne (h : j ≠ i) (c : Option RilCallContext) :
    (s.put i c).pendingAt j = s.pendingAt j := by
  rw [CallData.pendingAt, CallData.pendingAt, tokenAt_put_of_ne h]

theorem pendingAt_put_none : (s.put i none).pendingAt i = none := by
  rw [pendingAt_eq_none_iff, tokenAt_put_self]
  rfl

/-- Only the token of what is put into a slot matters. -/
theorem pendingAt_put_of_token {c : Option RilCallContext}
    (h : (c.map (·.token)).getD rilTokenNull = s.tokenAt i) :
    (s.put i c).pendingAt = s.pendingAt := by
  funext j
  by_cases hj : j = i
  · rw [hj, CallData.pendingAt, CallData.pendingAt, tokenAt_put_self, h]
  · exact pendingAt_put_of_ne hj c

/-- Changes of a context other than to its token. -/
theorem pendingAt_modify (hf : ∀ c, (f c).token = c.token) :
    (s.modify i f).pendingAt = s.pendingAt := by
  refine pendingAt_put_of_token ?_
  rw [Option.map_map, CallData.tokenAt]
  congr 2
  exact funext hf

theorem tokenAt_setToken (h : s.calls i ≠ none) : (s.setToken i t).tokenAt i = t := by
  obtain ⟨c, hc⟩ := Option.ne_none_iff_exists'.mp h
  rw [CallData.setToken, CallData.modify, tokenAt_put_self, hc]
  rfl

theorem pendingAt_setToken_null : (s.setToken i rilTokenNull).pendingAt i = none := by
  rw [pendingAt_eq_none_iff, CallData.setToken, CallData.modify, tokenAt_put_self]
  cases s.calls i <;> rfl

/-- A fresh context has no token. -/
theorem pendingAt_newRilCallContext {u : CallData} (h : newRilCallContext s = some (i, u)) :
    u.pendingAt = s.pendingAt ∧ u.calls i ≠ none := by
  obtain ⟨k, hk, hu⟩ := Option.map_eq_some_iff.mp h
  obtain ⟨rfl, rfl⟩ := Prod.mk.inj hu
  have hfree : s.calls k = none := by simpa using List.find?_some hk
  have htoken : s.tokenAt k = rilTokenNull := by
    rw [CallData.tokenAt, hfree]
    rfl
  constructor
  · exact pendingAt_put_of_token htoken.symm
  · simp

/-- The context of a dialed call is there, and has no request yet. -/
theorem pendingAt_put_context {dial : RilDial} :
    (s.put i (some dial.context)).calls i ≠ none ∧
      (s.put i (some dial.context)).pendingAt i = none := by
  constructor
  · rw [CallData.put_calls_self]
    exact Option.some_ne_none _
  · rw [pendingAt_eq_none_iff, tokenAt_put_self]
    rfl

/-- DIAL is refused, or it puts a call into a free slot and waits there. -/
theorem rilRequestDialFitting_cases (s : CallData) (t : RilToken) (data : Option RilDial) (now : UInt32) :
    rilRequestDialFitting s t data now = (s, [.complete ⟨t, .genericFailure, none⟩]) ∨
    ∃ (dial : RilDial) (i : Fin maxCalls) (callSetup : TapiCallSetup), data = some dial ∧
      findRilCallContext s 0xFF = none ∧ s.calls i = none ∧
      rilRequestDialFitting s t data now =
        ((s.put i (some dial.context)).setToken i t, [.tapiCallSetup callSetup]) := by
  unfold rilRequestDialFitting
  dsimp only
  split_ifs with hdialing
  · exact .inl rfl
  cases data with
  | none => exact .inl rfl
  | some dial =>
    dsimp only
    cases hnew : newRilCallContext s with
    | none => exact .inl rfl
    | some p =>
      obtain ⟨k, hk, rfl⟩ := Option.map_eq_some_iff.mp hnew
      have hfree : s.calls k = none := by simpa using List.find?_some hk
      have hcontext : ((s.put k (some ⟨0, 0, 0, [], .active, rilTokenNull⟩)).modify k fun c => { c with
          callId := 0xFF
          callState := .dialing
          bMT := 0
          number := dial.address }) = s.put k (some dial.context) := by
        rw [CallData.modify, CallData.put_calls_self, Option.map_some, CallData.put, CallData.put,
          Function.update_idem]
        rfl
      have htoken : (s.put k (some dial.context)).tokenAt k = rilTokenNull := tokenAt_put_self _
      dsimp only
      rw [hcontext, if_neg (not_not.mpr htoken)]
      exact .inr ⟨dial, k, _, rfl, not_not.mp hdialing, hfree, rfl⟩

theorem findRilCallContext_eq_some {callId : UInt32} (h : findRilCallContext s callId = some i) :
    ∃ c, s.calls i = some c ∧ c.callId = callId := by
  have hi := List.find?_some h
  rw [Option.any_eq_true] at hi
  obtain ⟨c, hc, hid⟩ := hi
  exact ⟨c, hc, of_decide_eq_true hid⟩

end Operations

section Scan

variable {states : List RilCallState} {s : CallData}

/-- The loop breaks off exactly at a pending request. -/
theorem scanCalls_eq_none_iff (is : List (Fin maxCalls)) (found : FoundCalls) :
    scanCalls states s is found = none ↔
      ∃ i ∈ is, ∃ c, s.Live i c ∧ c.callState ∈ states ∧ c.token ≠ rilTokenNull := by
  induction is generalizing found with
  | nil => simp [scanCalls]
  | cons i is ih =>
    rw [List.exists_mem_cons_iff, scanCalls]
    cases hc : s.calls i with
    | none => simp [ih, CallData.Live, hc]
    | some c =>
      dsimp only
      split_ifs with hlive htoken
      · exact iff_of_true rfl (.inl ⟨c, ⟨hc, hlive.1⟩, hlive.2, htoken⟩)
      · rw [ih, or_iff_right]
        rintro ⟨c', ⟨hc', -⟩, -, htoken'⟩
        obtain rfl := Option.some.inj (hc.symm.trans hc')
        exact htoken htoken'
      · rw [ih, or_iff_right]
        rintro ⟨c', ⟨hc', hid⟩, hstate, -⟩
        obtain rfl := Option.some.inj (hc.symm.trans hc')
        exact hlive ⟨hid, hstate⟩

/-- What the loop has found for a state it looks for: a call, or that there is none. -/
theorem scanCalls_eq_some (is : List (Fin maxCalls)) {found found' : FoundCalls}
    (h : scanCalls states s is found = some found') (state : RilCallState) :
    (found' state = found state ∧ (state ∈ states → ∀ i ∈ is, ∀ c, s.Live i c → c.callState ≠ state)) ∨
      ∃ p, found' state = some p ∧ s.Live p.1 p.2 ∧ p.2.callState = state ∧
        p.2.token = rilTokenNull := by
  induction is generalizing found with
  | nil =>
    obtain rfl := Option.some.inj h
    exact .inl ⟨rfl, by simp⟩
  | cons i is ih =>
    rw [scanCalls] at h
    cases hc : s.calls i with
    | none =>
      rw [hc] at h
      refine (ih h).imp_left fun ⟨hfound, hno⟩ => ⟨hfound, fun hmem => ?_⟩
      refine List.forall_mem_cons.mpr ⟨fun c' hc' => ?_, hno hmem⟩
      rw [CallData.Live, hc] at hc'
      cases hc'.1
    | some c =>
      rw [hc] at h
      dsimp only at h
      split_ifs at h with hlive htoken
      · rcases ih h with ⟨hfound, hno⟩ | hp
        · by_cases hstate : c.callState = state
          · subst hstate
            rw [Function.update_self] at hfound
            exact .inr ⟨(i, c), hfound, ⟨hc, hlive.1⟩, rfl, not_not.mp htoken⟩
          · rw [Function.update_of_ne (Ne.symm hstate)] at hfound
            refine .inl ⟨hfound, fun hmem => List.forall_mem_cons.mpr ⟨fun c' hc' => ?_, hno hmem⟩⟩
            obtain rfl := Option.some.inj (hc.symm.trans hc'.1)
            exact hstate
        · exact .inr hp
      · refine (ih h).imp_left fun ⟨hfound, hno⟩ => ⟨hfound, fun hmem => ?_⟩
        refine List.forall_mem_cons.mpr ⟨fun c' hc' hstate => ?_, hno hmem⟩
        obtain rfl := Option.some.inj (hc.symm.trans hc'.1)
        exact hlive ⟨hc'.2, hstate ▸ hmem⟩

theorem findCalls_eq_none_iff : findCalls states s = none ↔
    ∃ i c, s.Live i c ∧ c.callState ∈ states ∧ c.token ≠ rilTokenNull := by
  simp [findCalls, scanCalls_eq_none_iff]

variable {found : FoundCalls} {state : RilCallState}

theorem found_eq_some (h : findCalls states s = some found) {p : Fin maxCalls × RilCallContext}
    (hp : found state = some p) :
    s.Live p.1 p.2 ∧ p.2.callState = state ∧ p.2.token = rilTokenNull := by
  rcases scanCalls_eq_some _ h state with ⟨hnone, -⟩ | ⟨q, hq, hlive⟩
  · rw [hnone] at hp
    cases hp
  · obtain rfl := Option.some.inj (hp.symm.trans hq)
    exact hlive

/-- A call that a loop has found is there, and has no request. -/
theorem has_of_found (h : findCalls states s = some found) {p : Fin maxCalls × RilCallContext}
    (hp : found state = some p) : s.Has state := by
  obtain ⟨hlive, hstate, -⟩ := found_eq_some h hp
  exact ⟨p.1, p.2, hlive, hstate⟩

theorem pendingAt_found (h : findCalls states s = some found) {i : Fin maxCalls}
    {c : RilCallContext} (hp : found state = some (i, c)) :
    s.calls i ≠ none ∧ s.pendingAt i = none := by
  obtain ⟨⟨hi, -⟩, -, htoken⟩ := found_eq_some h hp
  constructor
  · rw [hi]
    exact Option.some_ne_none c
  · rw [pendingAt_eq_none_iff, tokenAt_eq hi]
    exact htoken

theorem found_eq_none_iff (h : findCalls states s = some found) (hmem : state ∈ states) :
    found state = none ↔ ¬s.Has state := by
  rcases scanCalls_eq_some _ h state with ⟨hnone, hno⟩ | ⟨p, hp, hlive, hstate, -⟩
  · refine iff_of_true hnone ?_
    rintro ⟨i, c, hlive, hstate⟩
    exact hno hmem i (List.mem_finRange i) c hlive hstate
  · exact iff_of_false (by simp [hp]) (not_not.mpr ⟨p.1, p.2, hlive, hstate⟩)

end Scan

/-- The effects that are packets to the modem. -/
def CallEffect.isPacket : CallEffect → Bool
  | .complete _ | .rilUnsolCallRing | .rilUnsolResponseCallStateChanged => false
  | _ => true

/-- What a request that looks for a call does: it completes its token at once, or it sends packets
and its token waits at a call without a request, or it drops it. -/
inductive TokenUse (s : CallData) (t : RilToken) (c : CallRequest) :
    CallData × List CallEffect → Prop
  | completed (errno : RilErrno) : TokenUse s t c (s, [.complete ⟨t, errno, none⟩])
  | stored (i : Fin maxCalls) (e : CallEffect) (out : List CallEffect) (hcalls : s.calls i ≠ none)
      (hnone : s.pendingAt i = none) (hpackets : ∀ e' ∈ e :: out, e'.isPacket) :
      TokenUse s t c (s.setToken i t, e :: out)
  | dropped (hc : c = .switchWaitingOrHoldingAndActive) : TokenUse s t c (s, [])

section Requests

variable {s : CallData} {t : RilToken} {c : CallRequest}

/-- A token goes to a call that a loop over the table has found. -/
theorem tokenUse_found {states : List RilCallState} {found : FoundCalls} {state : RilCallState}
    {i : Fin maxCalls} {callCtxt : RilCallContext} (h : findCalls states s = some found)
    (hp : found state = some (i, callCtxt)) {e : CallEffect} {out : List CallEffect}
    (hpackets : ∀ e' ∈ e :: out, e'.isPacket) : TokenUse s t c (s.setToken i t, e :: out) := by
  obtain ⟨hcalls, hnone⟩ := pendingAt_found h hp
  exact .stored i e out hcalls hnone hpackets

theorem rilRequestHangup_use (data : Option CallIndex) :
    TokenUse s t c (rilRequestHangup s t data) := by
  unfold rilRequestHangup
  cases data with
  | none => exact .completed _
  | some index =>
    dsimp only
    cases hc : s.calls index.slot with
    | none => exact .completed _
    | some callCtxt =>
      dsimp only
      split_ifs with htoken
      · exact .completed _
      · have hcalls : s.calls index.slot ≠ none := by simp [hc]
        have hnone : s.pendingAt index.slot = none := by
          rw [pendingAt_eq_none_iff, tokenAt_eq hc, not_not.mp htoken]
        exact .stored _ _ _ hcalls hnone (by simp [CallEffect.isPacket])

theorem rilRequestHangupWaitingOrBackground_use :
    TokenUse s t c (rilRequestHangupWaitingOrBackground s t) := by
  unfold rilRequestHangupWaitingOrBackground
  cases hfind : findCalls [.active, .holding, .waiting, .incoming] s with
  | none => exact .completed _
  | some found =>
    dsimp only
    split
    case h_7 => exact .completed _
    all_goals exact tokenUse_found hfind (by assumption) (by simp [CallEffect.isPacket])

theorem rilRequestHangupForegroundResumeBackground_use :
    TokenUse s t c (rilRequestHangupForegroundResumeBackground s t) := by
  unfold rilRequestHangupForegroundResumeBackground
  cases hfind : findCalls [.active, .holding] s with
  | none => exact .completed _
  | some found =>
    dsimp only
    split
    case h_4 => exact .completed _
    all_goals exact tokenUse_found hfind (by assumption) (by simp [CallEffect.isPacket])

theorem rilRequestSwitch_use : TokenUse s t .switchWaitingOrHoldingAndActive
    (rilRequestSwitchWaitingOrHoldingAndActive s t) := by
  unfold rilRequestSwitchWaitingOrHoldingAndActive
  cases hfind : findCalls [.active, .holding, .waiting] s with
  | none => exact .completed _
  | some found =>
    dsimp only
    split
    case h_6 => exact .completed _
    case h_7 => exact .dropped rfl
    all_goals exact tokenUse_found hfind (by assumption) (by simp [CallEffect.isPacket])

/-- Of the requests, only DIAL makes a call, and only ANSWER goes through all of them. -/
theorem callRequest_use (hdial : ∀ data now, c ≠ .dial data now) (hanswer : c ≠ .answer) :
    TokenUse s t c (callRequestHandler s t c) := by
  cases c with
  | dial data now => exact absurd rfl (hdial data now)
  | hangup data => exact rilRequestHangup_use data
  | hangupWaitingOrBackground => exact rilRequestHangupWaitingOrBackground_use
  | hangupForegroundResumeBackground => exact rilRequestHangupForegroundResumeBackground_use
  | answer => exact absurd rfl hanswer
  | switchWaitingOrHoldingAndActive => exact rilRequestSwitch_use

/-- What is read off the table without its tokens is the same when ANSWER has gone through it. -/
theorem answerCalls_keeps {α : Type} {f : CallData → α} (hf : ∀ s i, f (s.setToken i t) = f s)
    (is : List (Fin maxCalls)) : f (answerCalls t is s).1 = f s := by
  induction is generalizing s with
  | nil => rfl
  | cons i is ih =>
    rw [answerCalls]
    cases s.calls i with
    | none => exact ih
    | some c =>
      dsimp only
      split_ifs
      · rfl
      · exact ih.trans (hf s i)
      · exact ih

/-- So it is after each of the requests that make no call. -/
theorem callRequest_keeps {α : Type} {f : CallData → α} (hf : ∀ s i, f (s.setToken i t) = f s)
    (hdial : ∀ data now, c ≠ .dial data now) : f (callRequestHandler s t c).1 = f s := by
  by_cases hanswer : c = .answer
  · subst hanswer
    exact answerCalls_keeps hf _
  · have huse := callRequest_use (s := s) (t := t) hdial hanswer
    generalize callRequestHandler s t c = r at huse ⊢
    cases huse with
    | completed => rfl
    | stored i => exact hf s i
    | dropped => rfl

end Requests

end Mocha.Ril
