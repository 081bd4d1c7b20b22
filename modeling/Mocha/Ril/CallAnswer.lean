import Mocha.Ril.CallCompany

/-! Accepting a ringing call. ANSWER is for incoming calls, and SWITCH accepts a waiting call next to
an active one or one on hold. A waiting call that is left alone is accepted by neither. -/
namespace Mocha.Ril
open Mocha.Lib

/-- ANSWER or SWITCH tells the modem to answer a ringing call. -/
def Accepts (s : CallData) (t : RilToken) : Prop :=
  ∃ i c, s.Live i c ∧ (c.callState = .incoming ∨ c.callState = .waiting) ∧
    (.tapiCallAnswer c.callType.toUInt8 c.callId ∈ (callRequestHandler s t .answer).2 ∨
      .tapiCallAnswer c.callType.toUInt8 c.callId ∈
        (callRequestHandler s t .switchWaitingOrHoldingAndActive).2)

section

variable {s : CallData} {t : RilToken}

/-- Without pending requests the loop of ANSWER answers the first incoming call. -/
theorem answerCalls_answers (hpending : ∀ i, s.pendingAt i = none) {is : List (Fin maxCalls)}
    (h : ∃ i ∈ is, s.liveState i = some .incoming) :
    ∃ i c, s.Live i c ∧ c.callState = .incoming ∧
      .tapiCallAnswer c.callType.toUInt8 c.callId ∈ (answerCalls t is s).2 := by
  induction is with
  | nil => simp at h
  | cons i is ih =>
    rw [List.exists_mem_cons_iff, liveState_eq_some_iff] at h
    rw [answerCalls]
    cases hc : s.calls i with
    | none =>
      refine ih (h.resolve_left ?_)
      rintro ⟨c, ⟨hc', -⟩, -⟩
      cases hc.symm.trans hc'
    | some c =>
      have htoken : c.token = rilTokenNull := by
        rw [← tokenAt_eq hc]
        exact pendingAt_eq_none_iff.mp (hpending i)
      dsimp only
      split_ifs with hlive hne
      · exact absurd htoken hne
      · exact ⟨i, c, ⟨hc, hlive.1⟩, hlive.2, List.mem_cons_self⟩
      · refine ih (h.resolve_left ?_)
        rintro ⟨c', ⟨hc', hid⟩, hstate⟩
        obtain rfl := Option.some.inj (hc.symm.trans hc')
        exact hlive ⟨hid, hstate⟩

theorem answerCalls_of_none {is : List (Fin maxCalls)}
    (h : ∀ i ∈ is, s.liveState i ≠ some .incoming) : answerCalls t is s = (s, []) := by
  induction is with
  | nil => rfl
  | cons i is ih =>
    obtain ⟨hi, his⟩ := List.forall_mem_cons.mp h
    rw [answerCalls]
    cases hc : s.calls i with
    | none => exact ih his
    | some c =>
      dsimp only
      rw [if_neg fun hlive => hi (liveState_eq_some_iff.mpr ⟨c, ⟨hc, hlive.1⟩, hlive.2⟩)]
      exact ih his

/-- SWITCH answers no call unless one is active or on hold. -/
theorem switch_answers_only {callType : UInt8} {callId : UInt32}
    (h : .tapiCallAnswer callType callId ∈ (rilRequestSwitchWaitingOrHoldingAndActive s t).2) :
    s.Has .active ∨ s.Has .holding := by
  unfold rilRequestSwitchWaitingOrHoldingAndActive at h
  cases hfind : findCalls [.active, .holding, .waiting] s with
  | none =>
    rw [hfind] at h
    simp at h
  | some found =>
    have hhas {state : RilCallState} {p : Fin maxCalls × RilCallContext}
        (hp : found state = some p) : s.Has state := has_of_found hfind hp
    rw [hfind] at h
    dsimp only at h
    split at h
    case h_1 hactive _ => exact .inl (hhas hactive)
    case h_2 hactive _ _ => exact .inl (hhas hactive)
    case h_3 hholding _ => exact .inr (hhas hholding)
    case h_4 hactive _ _ => exact .inl (hhas hactive)
    case h_5 hholding _ => exact .inr (hhas hholding)
    all_goals simp at h

/-- Without pending requests SWITCH answers a waiting call next to one that is active or on hold. -/
theorem switch_answers (hpending : ∀ i, s.pendingAt i = none)
    (hboth : ¬(s.Has .active ∧ s.Has .holding)) (hwaiting : s.Has .waiting)
    (h : s.Has .active ∨ s.Has .holding) :
    ∃ i c, s.Live i c ∧ c.callState = .waiting ∧ .tapiCallAnswer c.callType.toUInt8 c.callId ∈
      (rilRequestSwitchWaitingOrHoldingAndActive s t).2 := by
  unfold rilRequestSwitchWaitingOrHoldingAndActive
  cases hfind : findCalls [.active, .holding, .waiting] s with
  | none =>
    obtain ⟨i, c, ⟨hc, -⟩, -, htoken⟩ := findCalls_eq_none_iff.mp hfind
    refine absurd ?_ htoken
    rw [← tokenAt_eq hc]
    exact pendingAt_eq_none_iff.mp (hpending i)
  | some found =>
    have hhas {state : RilCallState} {p : Fin maxCalls × RilCallContext}
        (hp : found state = some p) : s.Live p.1 p.2 ∧ p.2.callState = state :=
      (found_eq_some hfind hp).imp_right And.left
    have hnone {state : RilCallState} (hp : found state = none)
        (hmem : state ∈ [RilCallState.active, .holding, .waiting]) : ¬s.Has state :=
      (found_eq_none_iff hfind hmem).mp hp
    dsimp only
    split
    case h_1 hactive hholding =>
      exact absurd ⟨⟨_, _, hhas hactive⟩, ⟨_, _, hhas hholding⟩⟩ hboth
    case h_2 hwait => exact ⟨_, _, (hhas hwait).1, (hhas hwait).2, by simp⟩
    case h_3 hwait => exact ⟨_, _, (hhas hwait).1, (hhas hwait).2, by simp⟩
    case h_4 hwait => exact absurd hwaiting (hnone hwait (by simp))
    case h_5 hwait => exact absurd hwaiting (hnone hwait (by simp))
    case h_6 hwait => exact absurd hwaiting (hnone hwait (by simp))
    case h_7 hactive hholding _ =>
      exact absurd h (not_or_intro (hnone hactive (by simp)) (hnone hholding (by simp)))

theorem accepts_iff (hpending : ∀ i, s.pendingAt i = none)
    (hboth : ¬(s.Has .active ∧ s.Has .holding)) (hringing : s.Has .incoming ∨ s.Has .waiting) :
    Accepts s t ↔ s.Company := by
  constructor
  · rintro ⟨i, c, -, -, hanswer | hswitch⟩
    · refine .inl (by_contra fun hnone => ?_)
      have hanswer' : _ ∈ (answerCalls t (List.finRange maxCalls) s).2 := hanswer
      rw [answerCalls_of_none fun i _ hi => hnone (has_iff.mpr ⟨i, hi⟩)] at hanswer'
      simp at hanswer'
    · exact .inr (switch_answers_only hswitch)
  · intro hcompany
    by_cases hincoming : s.Has .incoming
    · obtain ⟨i, hi⟩ := has_iff.mp hincoming
      obtain ⟨j, c, hlive, hstate, hanswer⟩ :=
        answerCalls_answers (t := t) hpending ⟨i, List.mem_finRange i, hi⟩
      exact ⟨j, c, hlive, .inl hstate, .inl hanswer⟩
    · obtain ⟨j, c, hlive, hstate, hanswer⟩ := switch_answers (t := t) hpending hboth
        (hringing.resolve_left hincoming) (hcompany.resolve_left hincoming)
      exact ⟨j, c, hlive, .inr hstate, .inr hanswer⟩

/-- **A ringing call can be accepted** exactly if some call is incoming, active or on hold, and this
is so in every state of a run that takes no company away from waiting calls. -/
theorem call_acceptable (hpending : ∀ i, s.pendingAt i = none)
    (hboth : ¬(s.Has .active ∧ s.Has .holding)) (hringing : s.Has .incoming ∨ s.Has .waiting) :
    (Accepts s t ↔ s.Company) ∧ ∀ tr, Run (CallStep.when CompanyKept) .init tr s → Accepts s t := by
  have haccepts : Accepts s t ↔ s.Company := accepts_iff hpending hboth hringing
  refine ⟨haccepts, fun tr h => ?_⟩
  have haccompanied : s.Accompanied := run_accompanied h
  rw [haccepts]
  rcases hringing with hincoming | hwaiting
  · exact .inl hincoming
  · exact haccompanied hwaiting

end

/-- A call comes while another one is active. -/
def secondCall : List CallEvent :=
  [.indication (.incoming ⟨1, 0, []⟩), .indication (.connected 1), .indication (.incoming ⟨2, 0, []⟩)]

theorem call_acceptable_second : Accepts (exec callHandler .init secondCall).2 1 := by
  have hrun : Run (CallStep.when CompanyKept) .init (exec callHandler .init secondCall).1
      (exec callHandler .init secondCall).2 :=
    .cons ⟨trivial, rfl⟩ (.cons ⟨trivial, rfl⟩ (.cons ⟨trivial, rfl⟩ .nil))
  exact (call_acceptable (by decide) (by decide) (by decide)).2 _ hrun

/-- The active call ends before the waiting one is accepted. -/
theorem not_acceptable_leftWaiting :
    ¬∀ (tr : List (CallEvent × List CallEffect)) (s : CallData) (t : RilToken),
      Run CallStep .init tr s → (∀ i, s.pendingAt i = none) →
      ¬(s.Has .active ∧ s.Has .holding) → s.Has .incoming ∨ s.Has .waiting → Accepts s t := by
  intro h
  have haccepts := h _ _ 1 (Run.exec callHandler .init (secondCall ++ [.indication (.callEnd 1 0)]))
    (by decide) (by decide) (by decide)
  rw [accepts_iff (by decide) (by decide) (by decide)] at haccepts
  exact absurd haccepts (by decide)

end Mocha.Ril
