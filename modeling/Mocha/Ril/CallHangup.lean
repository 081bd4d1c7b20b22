import Mocha.Ril.CallCompany

/-! Which call HANGUP_WAITING_OR_BACKGROUND hangs up. A waiting call comes first, but the active call
comes before one on hold and one that rings. -/
namespace Mocha.Ril
open Mocha.Lib

/-- A call that is waiting, on hold or incoming. -/
def RilCallState.background : RilCallState → Bool
  | .waiting | .holding | .incoming => true
  | _ => false

/-- Some call with an id is in the background. -/
def CallData.HasBackground (s : CallData) : Prop := s.Has .waiting ∨ s.Has .holding ∨ s.Has .incoming

/-- The states that the loop looks for. -/
def hangupStates : List RilCallState := [.active, .holding, .waiting, .incoming]

/-- A call in one of these states has a pending request. -/
def CallData.HangupPending (s : CallData) : Prop :=
  ∃ i c, s.Live i c ∧ c.callState ∈ hangupStates ∧ c.token ≠ rilTokenNull

/-- The request releases the call in a slot and waits there. -/
def HangsUp (s : CallData) (t : RilToken) (i : Fin maxCalls) (c : RilCallContext) : Prop :=
  s.Live i c ∧ rilRequestHangupWaitingOrBackground s t = releaseCall s (i, c) t

def CallEffect.isRelease : CallEffect → Bool
  | .tapiCallRelease .. => true
  | _ => false

/-- At most one call is released, the active one only without another call in the background; and
where there is one and no request is pending, such a call is released. -/
structure HangsUpBackground (s : CallData) (t : RilToken) : Prop where
  atMostOne : ((rilRequestHangupWaitingOrBackground s t).2.filter CallEffect.isRelease).length ≤ 1
  active : ∀ i c, c.callState = .active → HangsUp s t i c → ¬s.HasBackground
  background : s.HasBackground → ¬s.HangupPending →
    ∃ i c, c.callState.background ∧ HangsUp s t i c

/-- There is no active call, or a waiting one, or none else in the background; or a request is
pending. -/
def NoneBehindActive (s : CallData) : Prop :=
  s.Has .active → s.Has .holding ∨ s.Has .incoming → s.Has .waiting ∨ s.HangupPending

section

variable {s : CallData} {t : RilToken} {found : FoundCalls}

/-- The cascade, in the order of preference. -/
theorem rilRequestHangupWaitingOrBackground_eq (h : findCalls hangupStates s = some found) :
    rilRequestHangupWaitingOrBackground s t =
      match (found .waiting).or ((found .active).or ((found .holding).or (found .incoming))) with
      | some p => releaseCall s p t
      | none => (s, [.complete ⟨t, .success, none⟩]) := by
  unfold hangupStates at h
  unfold rilRequestHangupWaitingOrBackground
  rw [h]
  dsimp only
  cases found .waiting <;> cases found .active <;> cases found .holding <;>
    cases found .incoming <;> rfl

theorem rilRequestHangupWaitingOrBackground_refused (h : findCalls hangupStates s = none) :
    rilRequestHangupWaitingOrBackground s t = (s, [.complete ⟨t, .genericFailure, none⟩]) := by
  unfold hangupStates at h
  rw [rilRequestHangupWaitingOrBackground, h]

/-- The slot in which the token waits shows which call was released. -/
theorem releaseCall_inj {i j : Fin maxCalls} {c d : RilCallContext} (ht : t ≠ rilTokenNull)
    (hc : s.calls i = some c) (hd : s.calls j = some d) (hnull : d.token = rilTokenNull)
    (h : releaseCall s (i, c) t = releaseCall s (j, d) t) : i = j ∧ c = d := by
  have hslot : j = i := by
    by_contra hne
    have htoken : (s.setToken i t).tokenAt j = (s.setToken j t).tokenAt j :=
      congrArg (fun r => r.1.tokenAt j) h
    have hd' : s.calls j ≠ none := hd ▸ Option.some_ne_none d
    rw [tokenAt_setToken hd', CallData.setToken, CallData.modify, tokenAt_put_of_ne hne, tokenAt_eq hd,
      hnull] at htoken
    exact ht htoken.symm
  subst hslot
  exact ⟨rfl, Option.some.inj (hc.symm.trans hd)⟩

theorem has_iff_found (h : findCalls hangupStates s = some found) {state : RilCallState}
    (hmem : state ∈ hangupStates) : s.Has state ↔ found state ≠ none := by
  rw [Ne, found_eq_none_iff h hmem, not_not]

/-- Where no request is pending, the call that the cascade prefers is the only one hung up. -/
theorem hangsUp_iff (ht : t ≠ rilTokenNull) (h : findCalls hangupStates s = some found)
    {p : Fin maxCalls × RilCallContext} {state : RilCallState} (hp : found state = some p)
    (heq : rilRequestHangupWaitingOrBackground s t = releaseCall s p t) {i : Fin maxCalls}
    {c : RilCallContext} : HangsUp s t i c ↔ (i, c) = p := by
  obtain ⟨hlive, -, hnull⟩ := found_eq_some h hp
  constructor
  · rintro ⟨hc, hrelease⟩
    obtain ⟨rfl, rfl⟩ := releaseCall_inj ht hc.1 hlive.1 hnull (hrelease.symm.trans heq)
    rfl
  · rintro rfl
    exact ⟨hlive, heq⟩

/-- A request that is refused or has nothing to hang up. -/
theorem hangsUpBackground_of_complete {c : Completion Unit}
    (heq : rilRequestHangupWaitingOrBackground s t = (s, [.complete c]))
    (hnone : ¬s.HasBackground ∨ s.HangupPending) : HangsUpBackground s t := by
  refine ⟨by rw [heq]; exact List.length_filter_le _ _, fun i d _ hrelease => ?_, fun hhas hpending => ?_⟩
  · have hout := congrArg Prod.snd (heq.symm.trans hrelease.2)
    exact absurd hout (by simp [releaseCall])
  · exact absurd hnone (not_or_intro (not_not.mpr hhas) hpending)

theorem hangsUpBackground_of_release (ht : t ≠ rilTokenNull)
    (h : findCalls hangupStates s = some found) {p : Fin maxCalls × RilCallContext}
    {state : RilCallState} (hp : found state = some p)
    (heq : rilRequestHangupWaitingOrBackground s t = releaseCall s p t)
    (hstate : state = .active → ¬s.HasBackground) (hbackground : state ≠ .active → state.background) :
    HangsUpBackground s t := by
  obtain ⟨hlive, hcallState, -⟩ := found_eq_some h hp
  refine ⟨by rw [heq]; exact List.length_filter_le _ _, fun i c hc hhangs => ?_,
    fun hhas _ => ⟨p.1, p.2, ?_, (hangsUp_iff ht h hp heq).mpr rfl⟩⟩
  · obtain rfl := (hangsUp_iff ht h hp heq).mp hhangs
    exact hstate (hcallState.symm.trans hc)
  · rw [hcallState]
    exact hbackground fun hactive => hstate hactive hhas

/-- **HANGUP_WAITING_OR_BACKGROUND hangs up a call in the background if there is one**, exactly unless
it finds an active call, none waiting, and another one on hold or incoming. -/
theorem hangsUpBackground_iff (s : CallData) (t : RequestToken) :
    HangsUpBackground s t.1 ↔ NoneBehindActive s := by
  cases hfind : findCalls hangupStates s with
  | none =>
    have hpending : s.HangupPending := findCalls_eq_none_iff.mp hfind
    exact iff_of_true (hangsUpBackground_of_complete
      (rilRequestHangupWaitingOrBackground_refused hfind) (.inr hpending)) fun _ _ => .inr hpending
  | some found =>
    have heq := rilRequestHangupWaitingOrBackground_eq (t := t.1) hfind
    have hhas {state : RilCallState} (hmem : state ∈ hangupStates) := has_iff_found hfind hmem
    cases hwaiting : found .waiting with
    | some p =>
      rw [hwaiting] at heq
      have hsome : s.Has .waiting := (hhas (by decide)).mpr (by simp [hwaiting])
      refine iff_of_true (hangsUpBackground_of_release t.2 hfind hwaiting heq ?_ fun _ => rfl)
        fun _ _ => .inl hsome
      rintro ⟨⟩
    | none =>
      have hnoWaiting : ¬s.Has .waiting := (found_eq_none_iff hfind (by decide)).mp hwaiting
      cases hactive : found .active with
      | some p =>
        rw [hwaiting, hactive] at heq
        have hsome : s.Has .active := (hhas (by decide)).mpr (by simp [hactive])
        constructor
        · intro h _ hother
          obtain ⟨hlive, hstate, -⟩ := found_eq_some hfind hactive
          exact absurd (.inr hother) (h.active p.1 p.2 hstate ⟨hlive, heq⟩)
        · intro h
          refine hangsUpBackground_of_release t.2 hfind hactive heq (fun _ hbackground => ?_)
            fun hne => absurd rfl hne
          rcases h hsome (hbackground.resolve_left hnoWaiting) with hcall | hpending
          · exact hnoWaiting hcall
          · rw [findCalls_eq_none_iff.mpr hpending] at hfind
            cases hfind
      | none =>
        have hnoActive : ¬s.Has .active := (found_eq_none_iff hfind (by decide)).mp hactive
        refine iff_of_true ?_ fun hcall => absurd hcall hnoActive
        cases hholding : found .holding with
        | some p =>
          rw [hwaiting, hactive, hholding] at heq
          exact hangsUpBackground_of_release t.2 hfind hholding heq (by rintro ⟨⟩) fun _ => rfl
        | none =>
          cases hincoming : found .incoming with
          | some p =>
            rw [hwaiting, hactive, hholding, hincoming] at heq
            exact hangsUpBackground_of_release t.2 hfind hincoming heq (by rintro ⟨⟩) fun _ => rfl
          | none =>
            rw [hwaiting, hactive, hholding, hincoming] at heq
            refine hangsUpBackground_of_complete heq (.inl ?_)
            rintro (hcall | hcall | hcall)
            · exact hnoWaiting hcall
            · exact (hhas (by decide)).mp hcall hholding
            · exact (hhas (by decide)).mp hcall hincoming

/-- The active call is hung up, and the one on hold stays. -/
theorem not_hangsUpBackground_onHold :
    ¬∀ (tr : List (CallEvent × List CallEffect)) (s : CallData) (t : RequestToken),
      Run CallStep .init tr s → HangsUpBackground s t.1 := by
  intro h
  have hbackground := h _ _ ⟨3, by decide⟩ (Run.exec callHandler .init
    [.indication (.incoming ⟨1, 0, []⟩), .request ⟨1, by decide⟩ .answer, .indication (.connected 1),
      .request ⟨2, by decide⟩ .switchWaitingOrHoldingAndActive, .indication (.hold 1 0),
      .indication (.incoming ⟨2, 0, []⟩), .indication (.connected 2)])
  refine hbackground.active ⟨1, by decide⟩ ⟨2, 0, 1, [], .active, rilTokenNull⟩ rfl ⟨⟨rfl, by decide⟩, ?_⟩
    (.inr (.inl ⟨⟨0, by decide⟩, ⟨1, 0, 1, [], .holding, rilTokenNull⟩, ⟨rfl, by decide⟩, rfl⟩))
  decide

end

end Mocha.Ril
