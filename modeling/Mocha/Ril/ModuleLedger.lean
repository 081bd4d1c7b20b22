import Mocha.Lib.Ledger
import Mocha.Ril.DtmfAnswer
import Mocha.Ril.SimIoQueue
import Mocha.Ril.SmsStatus
import Mocha.Ril.SystemModules

/-! What each module does to the tokens that it keeps. The null token stands for no request, and is
not accounted for. -/
namespace Mocha.Ril
open Mocha.Lib

/-- The token of the message that is with the modem, and those of the messages that wait. -/
def SmsData.tokens (s : SmsData) : List RilToken :=
  s.tokenOutgoingSms :: s.outgoingSms.map (·.token)

def SmsEffect.completed : SmsEffect → Option RilToken
  | .complete c => some c.token
  | _ => none

def SimIoData.tokens (s : SimIoData) : List RilToken := s.simIo.map (·.token)

def GprsEffect.completed (e : GprsEffect) : Option RilToken := e.completion.map (·.token)

section Calls

variable {D E : RilToken → Prop} {s : CallData}

theorem completed_control (out : List CallEffect) :
    ((out.map CallModuleEffect.control).filterMap CallModuleEffect.completed).filter
      (· ≠ rilTokenNull) = completions out := by
  rw [List.filterMap_map, List.filter_filterMap]
  refine List.filterMap_congr fun e _ => ?_
  cases e with
  | complete c =>
    by_cases hnull : c.token = rilTokenNull
    · simp [CallModuleEffect.completed, CallEffect.completed, hnull]
    · simp [CallModuleEffect.completed, CallEffect.completed, hnull]
  | _ => rfl

/-- A request that moves calls loses its token, or uses it more than once, only if ANSWER or SWITCH
does. -/
theorem callRequest_entry (hE : E rilTokenNull) (t : RequestToken) (c : CallRequest)
    (hdrop : ¬KeepsToken s c → D t) (hdouble : ¬AnswersOnce s c → E t) :
    Entry D E (held s.pendingAt) (held (callRequestHandler s t.1 c).1.pendingAt) {t.1}
      (((callRequestHandler s t.1 c).2.map CallModuleEffect.control).filterMap
        CallModuleEffect.completed : List RilToken) := by
  obtain ⟨n, hledger, hkept, honce⟩ := callRequest_ledger (s := s) t.2 c
  refine .of_filter (p := (· ≠ rilTokenNull)) (fun b hb => not_not.mp hb ▸ hE) ?_
  rw [completed_control]
  have hbalance := hledger.balance
  rcases Nat.lt_or_ge n 1 with hzero | hpos
  · obtain rfl : n = 0 := by omega
    have hlost : ¬KeepsToken s c := fun hk => absurd (hkept.mpr hk) (by omega)
    refine .losesOne t.1 ?_ (hdrop hlost)
    rw [hbalance, Multiset.replicate_zero, add_zero]
  · obtain ⟨k, rfl⟩ : ∃ k, n = k + 1 := ⟨n - 1, by omega⟩
    refine .makes (Multiset.replicate k t.1) ?_ fun b hb => ?_
    · rw [hbalance, Multiset.replicate_succ, ← Multiset.singleton_add, add_assoc]
    · obtain ⟨hk, rfl⟩ := Multiset.mem_replicate.mp hb
      refine hdouble fun h => hk ?_
      have hle := honce h
      omega

/-- Indications that confirm no tone settle the request of a call, or none. -/
theorem callIndication_settledAt_of_ne {ind : CallIndication} (hstart : ∀ reason, ind ≠ .dtmfStart reason)
    (hstop : ∀ reason, ind ≠ .dtmfStop reason) :
    SettledAt s (ind.settles s) (callIndicationHandler s ind) := by
  cases ind with
  | incoming callInfo => exact ipcCallIncomingFitting_settledAt callInfo
  | callEnd callId cause => exact ipcCallEnd_settledAt callId cause
  | setupInd callId => exact ipcCallSetupInd_settledAt callId
  | alert callId => exact ipcCallAlert_settledAt callId
  | connected callId => exact ipcCallConnected_settledAt callId
  | dtmfStart reason => exact absurd rfl (hstart reason)
  | dtmfStop reason => exact absurd rfl (hstop reason)
  | hold callId cause => exact ipcCallHold_settledAt callId cause
  | swap activatedCallId heldCallId cause =>
    exact ipcCallSwap_settledAt activatedCallId heldCallId cause
  | activate callId cause => exact ipcCallActivate_settledAt callId cause
  | error callId error => exact ipcCallError_settledAt callId error

theorem settled_entry (hE : E rilTokenNull) {r : CallData × List CallEffect} (h : Settled s r) :
    Entry D E (held s.pendingAt) (held r.1.pendingAt) 0
      ((r.2.map CallModuleEffect.control).filterMap CallModuleEffect.completed : List RilToken) := by
  refine .of_filter (p := (· ≠ rilTokenNull)) (fun b hb => not_not.mp hb ▸ hE) ?_
  rw [completed_control]
  exact .exact (by rw [h.ledger, add_zero])

end Calls

section Sms

variable {D E : RilToken → Prop} {s : SmsData} {queue : List RilRequestSendSmsInfo}

/-- Looking for the next message completes those that are given up, and puts the token of the one
that is sent into the slot. -/
theorem drain_entry (hE : E rilTokenNull) (hproper : ∀ info ∈ queue, info.Proper) :
    Entry D E (queue.map (·.token) : List RilToken) ((drain queue).1.tokens : List RilToken) 0
      ((drain queue).2.filterMap SmsEffect.completed : List RilToken) := by
  induction queue with
  | nil =>
    refine .makesOne rilTokenNull ?_ hE
    rfl
  | cons info rest ih =>
    obtain ⟨hinfo, hrest⟩ := List.forall_mem_cons.mp hproper
    by_cases href : info.refused
    · obtain ⟨hstate, hout⟩ := drain_refused rest hinfo href
      rw [hstate, hout _ fun _ _ => rfl]
      exact (Entry.pop info.token (rest.map (·.token))).trans (ih hrest)
    · obtain ⟨hstate, hout⟩ := drain_sent rest hinfo href
      rw [hstate, hout _ fun _ _ => rfl]
      exact .exact (by rfl)

/-- A malformed message is refused, and the next one is looked for, whatever is being sent. -/
theorem sendSms_entry (hD : D rilTokenNull) (hE : E rilTokenNull) (hs : s.WellFormed)
    (t : RequestToken) (number : CString) (data : Option (List (Option CString)))
    (hdrop : (sendSmsInfo t.1 number data).toOption = none → D s.tokenOutgoingSms) :
    Entry D E (s.tokens : List RilToken)
      ((smsOutcome s (.rilRequestSendSms t number data)).1.tokens : List RilToken) {t.1}
      ((smsOutcome s (.rilRequestSendSms t number data)).2.filterMap SmsEffect.completed :
        List RilToken) := by
  dsimp only [smsOutcome]
  cases hinfo : sendSmsInfo t.1 number data with
  | error frees =>
    have hrefused : Entry D E (s.tokens : List RilToken) (s.outgoingSms.map (·.token) : List RilToken)
        {t.1} ([t.1] : List RilToken) := by
      refine .losesOne s.tokenOutgoingSms ?_ (hdrop (by rw [hinfo]; rfl))
      simp only [SmsData.tokens, ← Multiset.cons_coe, ← Multiset.singleton_add, Multiset.coe_nil]
      abel
    have hout : (frees ++ (drain s.outgoingSms).2).filterMap SmsEffect.completed =
        (drain s.outgoingSms).2.filterMap SmsEffect.completed :=
      filterMap_frees_append (sendSmsInfo_eq_error hinfo) _ fun _ _ => rfl
    dsimp only
    rw [List.filterMap_cons_some (b := t.1) (by rfl), hout]
    exact hrefused.trans (drain_entry hE hs.proper)
  | ok info =>
    have htoken : info.token = t.1 := (sendSmsInfo_eq_ok hinfo).2
    dsimp only
    split_ifs with hbusy
    · refine .exact ?_
      rw [SmsData.tokens, SmsData.tokens, rilRequestSendSmsRegister, List.map_append,
        List.map_singleton, htoken, ← List.cons_append, ← Multiset.coe_add, Multiset.coe_singleton]
      exact add_zero _
    · have hidle : s.tokenOutgoingSms = rilTokenNull := not_not.mp hbusy
      have htaken : Entry D E (s.tokens : List RilToken)
          ((info :: s.outgoingSms).map (·.token) : List RilToken) {t.1} 0 := by
        refine .losesOne rilTokenNull ?_ hD
        rw [SmsData.tokens, hidle, List.map_cons, htoken, ← Multiset.cons_coe, ← Multiset.cons_coe,
          ← Multiset.singleton_add, ← Multiset.singleton_add]
        abel
      have hproper : ∀ i ∈ info :: s.outgoingSms, i.Proper := by
        refine List.forall_mem_cons.mpr ⟨?_, hs.proper⟩
        have haccepted : (SmsEvent.rilRequestSendSms t number data).accepted = some info := by
          rw [SmsEvent.accepted, hinfo]
          rfl
        exact SmsEvent.accepted_proper haccepted
      have h := htaken.trans (drain_entry hE hproper)
      rwa [zero_add] at h

theorem smsSendStatus_entry (hE : E rilTokenNull) (hs : s.WellFormed) (status : UInt32) :
    Entry D E (s.tokens : List RilToken)
      ((smsOutcome s (.ipcSmsSendStatus status)).1.tokens : List RilToken) 0
      ((smsOutcome s (.ipcSmsSendStatus status)).2.filterMap SmsEffect.completed : List RilToken) :=
  (Entry.pop s.tokenOutgoingSms (s.outgoingSms.map (·.token))).trans (drain_entry hE hs.proper)

end Sms

section SimIo

variable {D E : RilToken → Prop} {s : SimIoData}

/-- The token that an event brings in. -/
def SimIoEvent.brought : SimIoEvent → List RilToken
  | .rilRequestSimIo t _ => [t.1]
  | _ => []

theorem rilRequestSimIoNext_tokens (s : SimIoData) :
    (rilRequestSimIoNext s).1.tokens = s.tokens ∧
      (rilRequestSimIoNext s).2.filterMap SimIoEffect.completed = [] := by
  unfold rilRequestSimIoNext SimIoData.tokens
  cases s.simIo with
  | nil => exact ⟨rfl, rfl⟩
  | cons info rest => exact ⟨rfl, (handed_rilRequestSimIoComplete info.call).2⟩

theorem simIo_entry (hs : s.WellFormed) (e : SimIoEvent) :
    Entry D E (s.tokens : List RilToken) ((simIoHandler s e).1.tokens : List RilToken)
      (e.brought : List RilToken)
      ((simIoHandler s e).2.filterMap SimIoEffect.completed : List RilToken) := by
  cases e with
  | rilRequestSimIo t data =>
    dsimp only [simIoHandler, rilRequestSimIo, SimIoEvent.brought]
    cases hinfo : simIoInfo t.1 data with
    | none => exact .answer t.1
    | some info =>
      have htoken : info.token = t.1 := simIoInfo_token hinfo
      have hadded : ∀ info' : RilRequestSimIoInfo, info'.token = t.1 → Entry D E
          (s.tokens : Multiset RilToken) ((s.simIo ++ [info']).map (·.token) : List RilToken)
          ([t.1] : List RilToken) (([] : List RilToken) : Multiset RilToken) := by
        intro info' h
        refine .exact ?_
        rw [List.map_append, List.map_singleton, h, ← Multiset.coe_add]
        exact add_zero _
      dsimp only
      split_ifs
      · exact hadded info htoken
      · exact hadded info htoken
      · have hcompleted := (handed_rilRequestSimIoComplete info.call).2
        rw [hcompleted]
        exact hadded info.handedOver htoken
  | ipcSimIoResponse ev =>
    dsimp only [simIoHandler, SimIoEvent.brought]
    by_cases hb : s.Busy
    · obtain ⟨info, rest, hlist, hslot, hresponse⟩ := ipcSimIoResponse_busy hs hb ev
      obtain ⟨htokens, hcompleted⟩ := rilRequestSimIoNext_tokens { s with simIo := rest }
      rw [hresponse, htokens, List.filterMap_cons_some (b := s.tokenSimIo) (by rfl), hcompleted, ← hslot,
        SimIoData.tokens, hlist]
      exact Entry.pop info.token (rest.map (·.token))
    · obtain ⟨htokens, hcompleted⟩ := rilRequestSimIoNext_tokens s
      rw [ipcSimIoResponse_stray hs hb, htokens, hcompleted]
      exact .same
  | ipcSimSmscNumber ev =>
    dsimp only [simIoHandler, ipcSimSmscNumber, SimIoEvent.brought]
    split_ifs
    · obtain ⟨htokens, hcompleted⟩ := rilRequestSimIoNext_tokens { s with smscNumber := _ }
      rw [htokens, hcompleted]
      exact .same
    · exact .same
    · exact .same

end SimIo

section Gprs

variable {D E : RilToken → Prop} {s u : GprsData} {e : GprsEvent} {out : List GprsEffect}
  {left right : List RilGprsConnection} {c d : RilGprsConnection} {p : RilGprsConnection → Bool}

/-- The tokens of the connections. -/
def GprsData.stored (s : GprsData) : List RilToken := s.gprsConnections.map (·.token)

/-- The connections whose request is dropped when the event changes them. -/
inductive GprsTouches (s : GprsData) : GprsEvent → RilGprsConnection → Prop
  | deactivate {t : RequestToken} {cid : CString} {i : ℕ} {c : RilGprsConnection}
      (h : rilGprsConnectionFindCid s (atoi cid) = some (i, c)) :
      GprsTouches s (.deactivateDataCall t (some cid)) c
  | query {t : RequestToken} {i : ℕ} {c : RilGprsConnection} (hcid : s.gprsLastFailedCid ≠ 0)
      (h : rilGprsConnectionFindCid s s.gprsLastFailedCid = some (i, c)) :
      GprsTouches s (.lastDataCallFailCause t) c

theorem stored_split (hfirst : IsFirst p s.gprsConnections left c right) :
    (s.stored : Multiset RilToken) = {c.token} + ((left ++ right).map (·.token) : List RilToken) := by
  rw [GprsData.stored, hfirst.eq, Multiset.singleton_add, Multiset.cons_coe, Multiset.coe_eq_coe,
    ← List.map_cons (f := RilGprsConnection.token)]
  exact List.perm_middle.map _

theorem stored_replaced (d : RilGprsConnection) :
    ((left ++ d :: right).map (·.token) : Multiset RilToken) =
      {d.token} + ((left ++ right).map (·.token) : List RilToken) := by
  rw [Multiset.singleton_add, Multiset.cons_coe, Multiset.coe_eq_coe,
    ← List.map_cons (f := RilGprsConnection.token)]
  exact List.perm_middle.map _

theorem completed_of_completions {completions : List (Completion GprsResponse)}
    (hout : gprsCompletions out = completions) :
    out.filterMap GprsEffect.completed = completions.map (·.token) := by
  rw [← hout, gprsCompletions, List.map_filterMap]
  rfl

/-- Only DEACTIVATE_DATA_CALL and LAST_DATA_CALL_FAIL_CAUSE lose a token, that of the connection that
they find, and none is used twice. -/
theorem gprs_entry (hD : D rilTokenNull) (hE : E rilTokenNull) (h : GprsChange s e u out)
    (hdrop : ∀ c, GprsTouches s e c → D c.token) :
    Entry D E (s.stored : List RilToken) (u.stored : List RilToken) (e.issued : List RilToken)
      (out.filterMap GprsEffect.completed : List RilToken) := by
  have hissued : ∀ {t : RequestToken}, e.token = some t → e.issued = [t.1] := by
    intro t ht
    rw [GprsEvent.issued, ht]
    rfl
  have hnone : e.token = none → e.issued = [] := by
    intro ht
    rw [GprsEvent.issued, ht]
    rfl
  cases h with
  | opened t d iface c _ _ _ _ _ htoken _ hout =>
    rw [hissued rfl, completed_of_completions hout, ← htoken, GprsData.stored, GprsData.stored,
      List.map_append]
    exact .push _ c.token
  | answered answer ht htoken _ _ _ hout =>
    rw [hissued ht, completed_of_completions hout, List.map_singleton, htoken]
    exact .answer _
  | deactivating t cid hfirst hout =>
    rw [hissued rfl, completed_of_completions hout, stored_split hfirst, GprsData.stored,
      stored_replaced]
    exact (Entry.store (hdrop _ (.deactivate hfirst.findCell?_eq))).frame _
  | queried t hcid hfirst hout =>
    rw [hissued rfl, completed_of_completions hout, stored_split hfirst]
    exact .drop (hdrop _ (.query hcid hfirst.findCell?_eq)) _
  | queriedNone t _ hout =>
    rw [hissued rfl, completed_of_completions hout]
    exact .answer t.1
  | failed he _ hfirst _ hnull _ hout | established he _ hfirst _ hnull hout =>
    rw [hnone (token_of_answers he), completed_of_completions hout, stored_split hfirst,
      GprsData.stored, stored_replaced, hnull]
    exact (Entry.clear hE _).frame _
  | @ended e contextId he left right c out errno hfirst hout =>
    have htoken : e.token = none := by
      rcases he with rfl | rfl
      · rfl
      · rfl
    have hcompleted : out.filterMap GprsEffect.completed =
        if c.token ≠ rilTokenNull then [c.token] else [] := by
      rw [completed_of_completions hout]
      split_ifs <;> rfl
    rw [hnone htoken, hcompleted, stored_split hfirst]
    exact .release _ _ fun hnull => not_not.mp hnull ▸ hD
  | linked active he hfirst hout =>
    have htoken : e.token = none := by
      rcases he with rfl | rfl
      · rfl
      · rfl
    rw [hnone htoken, completed_of_completions hout, stored_split hfirst, GprsData.stored,
      stored_replaced]
    exact .same
  | idle ht _ hout =>
    rw [hnone ht, completed_of_completions hout]
    exact .same

end Gprs

end Mocha.Ril
