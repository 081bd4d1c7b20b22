import Mocha.Ril.CallTable
import Mocha.Ril.Request

/-! Requests of the call module that are refused with a failure. All of them look for a pending request
before they do anything, but for ANSWER, which answers call after call until it finds one. -/
namespace Mocha.Ril
open Mocha.Lib

/-- If the result of a request completes it with a failure, nothing has been changed and nothing sent. -/
def RefusedUntouched (s : CallModule) (t : RilToken) (r : CallModule × List CallModuleEffect) : Prop :=
  .control (.complete ⟨t, .genericFailure, none⟩) ∈ r.2 → r.1 = s ∧ ∀ e ∈ r.2, ¬e.isPacket

/-- A request is handled within the bounds of the contexts, and if it is completed with a failure it has
changed nothing and sent nothing. -/
def RefusesUntouched (s : CallModule) (t : RilToken) (c : CallModuleRequest) : Prop :=
  ∃ r, callModuleRequestHandlerInBounds s t c = some r ∧ RefusedUntouched s t r

/-- The call in a slot, if ANSWER is about it. -/
def CallData.ringing (s : CallData) (i : Fin maxCalls) : Option RilCallContext :=
  (s.calls i).filter fun c => c.callId ≠ 0xFF ∧ c.callState = .incoming

/-- The calls that ring, in the order of their slots. -/
def CallData.ringingCalls (s : CallData) : List RilCallContext :=
  (List.finRange maxCalls).filterMap s.ringing

/-- The first call that rings has a pending request, or none has. -/
def FirstPendingIfAny (s : CallData) : Prop :=
  (∃ c ∈ s.ringingCalls.head?, c.token ≠ rilTokenNull) ∨
    ∀ c ∈ s.ringingCalls, c.token = rilTokenNull

section Answer

variable {s : CallData} {t : RilToken} {i : Fin maxCalls} {is : List (Fin maxCalls)}
  {c : RilCallContext}

theorem answerCalls_cons : answerCalls t (i :: is) s =
    match s.ringing i with
    | none => answerCalls t is s
    | some c =>
      if c.token ≠ rilTokenNull then (s, [.complete ⟨t, .genericFailure, none⟩])
      else ((answerCalls t is (s.setToken i t)).1,
        .tapiCallAnswer c.callType.toUInt8 c.callId :: (answerCalls t is (s.setToken i t)).2) := by
  rw [answerCalls, CallData.ringing]
  cases s.calls i with
  | none => rfl
  | some c =>
    by_cases hringing : c.callId ≠ 0xFF ∧ c.callState = .incoming
    · rw [Option.filter_some_pos (by simpa using hringing)]
      dsimp only
      rw [if_pos hringing]
    · rw [Option.filter_some_neg (by simpa using hringing)]
      dsimp only
      rw [if_neg hringing]

theorem filterMap_ringing_setToken (hi : i ∉ is) :
    is.filterMap (s.setToken i t).ringing = is.filterMap s.ringing := by
  refine List.filterMap_congr fun j hj => ?_
  have hne : j ≠ i := fun h => hi (h ▸ hj)
  rw [CallData.ringing, CallData.ringing, CallData.setToken, CallData.modify,
    CallData.put_calls_of_ne s hne]

/-- Where no call that rings has a pending request, they are answered. -/
theorem answerCalls_free (his : is.Nodup)
    (hfree : ∀ c ∈ is.filterMap s.ringing, c.token = rilTokenNull) :
    ∀ e ∈ (answerCalls t is s).2, e.isPacket := by
  induction is generalizing s with
  | nil => exact fun e he => absurd he List.not_mem_nil
  | cons i is ih =>
    obtain ⟨hi, his⟩ := List.nodup_cons.mp his
    rw [answerCalls_cons]
    cases hringing : s.ringing i with
    | none =>
      rw [List.filterMap_cons_none hringing] at hfree
      exact ih his hfree
    | some c =>
      rw [List.filterMap_cons_some hringing] at hfree
      obtain ⟨hc, hrest⟩ := List.forall_mem_cons.mp hfree
      dsimp only
      rw [if_neg (not_not.mpr hc)]
      refine List.forall_mem_cons.mpr ⟨rfl, ih his ?_⟩
      rwa [filterMap_ringing_setToken hi]

/-- Where one has, the loop ends with the failure. -/
theorem answerCalls_pending (his : is.Nodup)
    (hpending : ∃ c ∈ is.filterMap s.ringing, c.token ≠ rilTokenNull) :
    .complete ⟨t, .genericFailure, none⟩ ∈ (answerCalls t is s).2 := by
  induction is generalizing s with
  | nil =>
    obtain ⟨c, hc, -⟩ := hpending
    exact absurd hc List.not_mem_nil
  | cons i is ih =>
    obtain ⟨hi, his⟩ := List.nodup_cons.mp his
    rw [answerCalls_cons]
    cases hringing : s.ringing i with
    | none =>
      rw [List.filterMap_cons_none hringing] at hpending
      exact ih his hpending
    | some c =>
      rw [List.filterMap_cons_some hringing, List.exists_mem_cons_iff] at hpending
      dsimp only
      split_ifs with hc
      · exact List.mem_cons_self
      · refine List.mem_cons_of_mem _ (ih his ?_)
        rw [filterMap_ringing_setToken hi]
        exact hpending.resolve_left hc

/-- The first call that rings decides what the loop begins with. -/
theorem answerCalls_head (h : c ∈ (is.filterMap s.ringing).head?) :
    if c.token ≠ rilTokenNull then
      answerCalls t is s = (s, [.complete ⟨t, .genericFailure, none⟩])
    else .tapiCallAnswer c.callType.toUInt8 c.callId ∈ (answerCalls t is s).2 := by
  induction is with
  | nil => cases h
  | cons i is ih =>
    rw [answerCalls_cons]
    cases hringing : s.ringing i with
    | none =>
      rw [List.filterMap_cons_none hringing] at h
      exact ih h
    | some d =>
      rw [List.filterMap_cons_some hringing, List.head?_cons] at h
      obtain rfl : d = c := Option.some.inj h
      dsimp only
      split_ifs with hc
      · rfl
      · exact List.mem_cons_self

end Answer

section

variable {s : CallModule} {t : RilToken}

theorem control_isPacket (e : CallEffect) : (CallModuleEffect.control e).isPacket = e.isPacket := by
  cases e <;> rfl

/-- Nothing but packets is no refusal. -/
theorem refusedUntouched_of_packets {c : CallModuleRequest}
    (h : ∀ e ∈ (callModuleRequestHandler s t c).2, e.isPacket) :
    RefusedUntouched s t (callModuleRequestHandler s t c) :=
  fun hrefused => absurd (h _ hrefused) Bool.false_ne_true

theorem refusedUntouched_of_same {c : CallModuleRequest} {e : CallModuleEffect}
    (h : callModuleRequestHandler s t c = (s, [e])) (he : e.isPacket = false) :
    RefusedUntouched s t (callModuleRequestHandler s t c) := by
  intro _
  rw [h]
  refine ⟨rfl, fun e' he' => ?_⟩
  rw [List.mem_singleton.mp he', he]
  exact Bool.false_ne_true

theorem refusedUntouched_packets {c : CallRequest}
    (h : ∀ e ∈ (callRequestHandler s.table t c).2, e.isPacket) :
    RefusedUntouched s t (callModuleRequestHandler s t (.control c)) := by
  refine refusedUntouched_of_packets fun e he => ?_
  obtain ⟨e', he', rfl⟩ := List.mem_map.mp he
  rw [control_isPacket]
  exact h e' he'

theorem refusedUntouched_same {c : CallRequest} {e : CallEffect}
    (h : callRequestHandler s.table t c = (s.table, [e])) (he : e.isPacket = false) :
    RefusedUntouched s t (callModuleRequestHandler s t (.control c)) := by
  refine refusedUntouched_of_same (e := .control e) ?_ (by rwa [control_isPacket])
  rw [callModuleRequestHandler, h]
  rfl

/-- The requests that control calls, but for ANSWER, complete their token or send packets. -/
theorem callRequest_refusedUntouched {c : CallRequest} (hc : c ≠ .answer) :
    RefusedUntouched s t (callModuleRequestHandler s t (.control c)) := by
  by_cases hdial : ∀ data now, c ≠ .dial data now
  · have huse := callRequest_use (s := s.table) (t := t) hdial hc
    generalize hr : callRequestHandler s.table t c = r at huse
    cases huse with
    | completed errno => exact refusedUntouched_same hr rfl
    | stored i e out _ _ hpackets =>
      refine refusedUntouched_packets ?_
      rw [hr]
      exact hpackets
    | dropped hswitch =>
      refine refusedUntouched_packets ?_
      rw [hr]
      exact fun e he => absurd he List.not_mem_nil
  · push Not at hdial
    obtain ⟨data, now, rfl⟩ := hdial
    rcases rilRequestDialFitting_cases s.table t data now with h | ⟨_, _, _, _, _, _, h⟩
    · exact refusedUntouched_same h rfl
    · refine refusedUntouched_packets ?_
      rw [callRequestHandler, h]
      exact List.forall_mem_singleton.mpr rfl

theorem dtmfStart_refusedUntouched (data : Option UInt8) :
    RefusedUntouched s t (callModuleRequestHandler s t (.dtmfStart data)) := by
  let refusal : CallModuleEffect := .control (.complete ⟨t, .genericFailure, none⟩)
  have hhandler : callModuleRequestHandler s t (.dtmfStart data) = rilRequestDtmfStart s t data := rfl
  cases hcall : findActiveCall s.table with
  | none =>
    refine refusedUntouched_of_same (e := refusal) (hhandler.trans ?_) rfl
    unfold rilRequestDtmfStart
    rw [hcall]
  | some activeCall =>
    cases data with
    | none =>
      refine refusedUntouched_of_same (e := refusal) (hhandler.trans ?_) rfl
      unfold rilRequestDtmfStart
      rw [hcall]
    | some tone =>
      refine refusedUntouched_of_packets ?_
      rw [hhandler]
      unfold rilRequestDtmfStart
      rw [hcall]
      dsimp only
      split_ifs <;> simp [CallModuleEffect.isPacket]

theorem dtmfStop_refusedUntouched : RefusedUntouched s t (callModuleRequestHandler s t .dtmfStop) := by
  let refusal : CallModuleEffect := .control (.complete ⟨t, .genericFailure, none⟩)
  have hhandler : callModuleRequestHandler s t .dtmfStop = rilRequestDtmfStop s t := rfl
  cases hcall : findActiveCall s.table with
  | none =>
    refine refusedUntouched_of_same (e := refusal) (hhandler.trans ?_) rfl
    rw [rilRequestDtmfStop, hcall]
  | some activeCall =>
    refine refusedUntouched_of_packets ?_
    rw [hhandler, rilRequestDtmfStop, hcall]
    exact List.forall_mem_singleton.mpr rfl

/-- All requests but ANSWER look before they act. -/
theorem refusedUntouched_of_ne_answer {c : CallModuleRequest} (hc : c ≠ .control .answer) :
    RefusedUntouched s t (callModuleRequestHandler s t c) := by
  cases c with
  | control c => exact callRequest_refusedUntouched fun h => hc (h ▸ rfl)
  | getCurrentCalls => exact refusedUntouched_of_same rfl rfl
  | lastCallFailCause => exact refusedUntouched_of_same rfl rfl
  | dtmf => exact refusedUntouched_of_same rfl rfl
  | dtmfStart data => exact dtmfStart_refusedUntouched data
  | dtmfStop => exact dtmfStop_refusedUntouched

/-- ANSWER is refused before or after it has answered a call. -/
theorem answer_refusedUntouched_iff :
    RefusedUntouched s t (callModuleRequestHandler s t (.control .answer)) ↔
      FirstPendingIfAny s.table := by
  have hnodup := List.nodup_finRange maxCalls
  have hhandler : callRequestHandler s.table t .answer =
      answerCalls t (List.finRange maxCalls) s.table := rfl
  by_cases hpending : ∃ c ∈ s.table.ringingCalls, c.token ≠ rilTokenNull
  · obtain ⟨c, hc⟩ : ∃ c, c ∈ s.table.ringingCalls.head? := by
      obtain ⟨d, hd, -⟩ := hpending
      exact ⟨_, List.head?_eq_some_head (List.ne_nil_of_mem hd)⟩
    have hhead := answerCalls_head (t := t) hc
    by_cases htoken : c.token ≠ rilTokenNull
    · rw [if_pos htoken] at hhead
      exact iff_of_true (refusedUntouched_same (hhandler.trans hhead) rfl) (.inl ⟨c, hc, htoken⟩)
    · rw [if_neg htoken] at hhead
      refine iff_of_false (fun h => ?_) ?_
      · have hrefused := answerCalls_pending (t := t) hnodup hpending
        have hnone := (h (List.mem_map_of_mem (f := CallModuleEffect.control) hrefused)).2
        exact hnone _ (List.mem_map_of_mem (f := CallModuleEffect.control) hhead) rfl
      · rintro (⟨d, hd, hne⟩ | hall)
        · obtain rfl := Option.some.inj (hc.symm.trans hd)
          exact htoken hne
        · obtain ⟨d, hd, hne⟩ := hpending
          exact hne (hall d hd)
  · have hfree : ∀ c ∈ s.table.ringingCalls, c.token = rilTokenNull := by
      intro c hc
      by_contra hne
      exact hpending ⟨c, hc, hne⟩
    refine iff_of_true (refusedUntouched_packets ?_) (.inr hfree)
    rw [hhandler]
    exact answerCalls_free hnodup hfree

/-- **A refused request has changed nothing and sent nothing** exactly if it is not an ANSWER that
meets a pending request behind a call that rings without one, nor a DIAL of a number that does not fit
the context that is made for it. -/
theorem refusesUntouched_iff (s : CallModule) (t : RilToken) (c : CallModuleRequest) :
    RefusesUntouched s t c ↔ (c = .control .answer → FirstPendingIfAny s.table) ∧ c.InBounds s := by
  have hbounds : RefusesUntouched s t c ↔
      RefusedUntouched s t (callModuleRequestHandler s t c) ∧ c.InBounds s := by
    unfold RefusesUntouched
    simp only [callModuleRequestHandlerInBounds_eq_some]
    constructor
    · rintro ⟨_, ⟨rfl, hin⟩, h⟩
      exact ⟨h, hin⟩
    · exact fun ⟨h, hin⟩ => ⟨_, ⟨rfl, hin⟩, h⟩
  rw [hbounds]
  refine and_congr_left fun _ => ?_
  by_cases hc : c = .control .answer
  · subst hc
    rw [answer_refusedUntouched_iff]
    exact ⟨fun h _ => h, fun h => h rfl⟩
  · exact iff_of_true (refusedUntouched_of_ne_answer hc) fun h => absurd h hc

/-- Two calls ring, and the second one is being hung up: ANSWER answers the first one and fails. -/
theorem not_refusesUntouched_twoRinging :
    ¬∀ (tr : List (CallModuleEvent × List CallModuleEffect)) (s : CallModule) (t : RequestToken)
      (c : CallModuleRequest), Run CallModuleStep .init tr s → RefusesUntouched s t.1 c := by
  intro h
  have hrun := Run.exec callModuleHandler .init [.indication (.incoming ⟨1, 0, []⟩),
    .indication (.incoming ⟨2, 0, []⟩),
    .request ⟨1, by decide⟩ (.control (.hangup (some ⟨2, by decide⟩)))]
  obtain ⟨_, hr, huntouched⟩ := h _ _ ⟨2, by decide⟩ (.control .answer) hrun
  obtain ⟨rfl, -⟩ := callModuleRequestHandlerInBounds_eq_some.mp hr
  have hnone := (huntouched (by decide)).2
  exact hnone (.control (.tapiCallAnswer 0 1)) (by decide) rfl

end

end Mocha.Ril
