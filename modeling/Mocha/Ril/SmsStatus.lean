import Mocha.Ril.SmsQueue

/-! Send statuses from the modem and the tokens they complete. A request that is refused as malformed
looks for the next message like a send status does, although the one that is being sent has not
been reported on; apart from this, every status completes the request of its own message. -/
namespace Mocha.Ril
open Mocha.Lib

/-- The module together with the messages the modem has not reported on yet. -/
structure SmsSystem where
  ril : SmsData
  inFlight : List RilRequestSendSmsInfo
deriving DecidableEq

def SmsSystem.init : SmsSystem := ⟨.init, []⟩

/-- Requests, and statuses with the message they report on. -/
inductive SmsSystemEvent
  | rilRequestSendSms (t : RequestToken) (smscNumber : CString) (data : Option (List (Option CString)))
  | sendStatus (message : RilRequestSendSmsInfo) (status : UInt32)
deriving DecidableEq

def SmsEffect.transmitted : SmsEffect → Option RilRequestSendSmsInfo
  | .tapiNettextSend message => some message
  | _ => none

/-- The modem reports once on each message, in the order in which they were sent. -/
inductive SmsSystemStep : SmsSystem → SmsSystemEvent × List SmsEffect → SmsSystem → Prop
  | request {s s' : SmsData} {out : List SmsEffect} {t : RequestToken} {smscNumber : CString}
      {data : Option (List (Option CString))} {inFlight : List RilRequestSendSmsInfo} :
      SmsStep s (.rilRequestSendSms t smscNumber data, out) s' →
      SmsSystemStep ⟨s, inFlight⟩ (.rilRequestSendSms t smscNumber data, out)
        ⟨s', inFlight ++ out.filterMap SmsEffect.transmitted⟩
  | status {s s' : SmsData} {out : List SmsEffect} {message : RilRequestSendSmsInfo}
      {status : UInt32} {inFlight : List RilRequestSendSmsInfo} :
      SmsStep s (.ipcSmsSendStatus status, out) s' →
      SmsSystemStep ⟨s, message :: inFlight⟩ (.sendStatus message status, out)
        ⟨s', inFlight ++ out.filterMap SmsEffect.transmitted⟩

/-- The completions that pass on a send status. -/
def SmsEffect.report : SmsEffect → Option (RilToken × RilErrno)
  | .complete ⟨t, e, some _⟩ => some (t, e)
  | _ => none

/-- The completions of accepted requests: those that are not refusals of malformed ones. -/
def SmsEffect.settled : SmsEffect → Option RilToken
  | .complete ⟨_, .genericFailure, none⟩ => none
  | .complete c => some c.token
  | _ => none

namespace SmsSystemEvent

def token : SmsSystemEvent → Option RilToken
  | .rilRequestSendSms t _ _ => some t
  | .sendStatus _ _ => none

def accepted : SmsSystemEvent → Option RilRequestSendSmsInfo
  | .rilRequestSendSms t smscNumber data => (sendSmsInfo t smscNumber data).toOption
  | .sendStatus _ _ => none

def malformed : SmsSystemEvent → Bool
  | .rilRequestSendSms t smscNumber data => (sendSmsInfo t smscNumber data).toOption.isNone
  | .sendStatus _ _ => false

/-- The completions with a status that an event should lead to. -/
def reported : SmsSystemEvent → List (RilToken × RilErrno)
  | .rilRequestSendSms _ _ _ => []
  | .sendStatus message status => [(message.token, sendStatusErrno status)]

end SmsSystemEvent

/-- What a run should keep to: one message at a time is with the modem, each status completes the
request of the message it reports on, and the request of each accepted message is completed or
still has its message with the modem or in the list. -/
structure TokensKept (tr : List (SmsSystemEvent × List SmsEffect)) (s : SmsSystem) : Prop where
  one_in_flight : s.inFlight.length ≤ 1
  own_status : ∀ a ∈ tr, a.2.filterMap SmsEffect.report = a.1.reported
  not_lost : (((inputs tr).filterMap SmsSystemEvent.accepted).map (·.token)).Perm
    ((outputs tr).filterMap SmsEffect.settled ++ s.inFlight.map (·.token) ++
      s.ril.outgoingSms.map (·.token))

/-- A malformed request comes only while nothing is being sent. -/
def RefusesIdle (s : SmsSystem) (a : SmsSystemEvent × List SmsEffect) : Prop :=
  a.1.malformed → s.ril.tokenOutgoingSms = rilTokenNull

/-- The token in the slot, if any. -/
def SmsData.inSlot (s : SmsData) : List RilToken :=
  if s.tokenOutgoingSms = rilTokenNull then [] else [s.tokenOutgoingSms]

/-- Looking for the next message puts the token of what is transmitted into the slot. -/
theorem drain_inSlot {queue : List RilRequestSendSmsInfo} (h : ∀ info ∈ queue, info.Proper) :
    ((drain queue).2.filterMap SmsEffect.transmitted).map (·.token) = (drain queue).1.inSlot ∧
      (drain queue).2.filterMap SmsEffect.report = [] ∧
      queue.map (·.token) = (drain queue).2.filterMap SmsEffect.settled ++
        (drain queue).1.inSlot ++ (drain queue).1.outgoingSms.map (·.token) := by
  induction queue with
  | nil => simp [drain, SmsData.inSlot]
  | cons info rest ih =>
    obtain ⟨hinfo, hrest⟩ := List.forall_mem_cons.mp h
    by_cases href : info.refused
    · obtain ⟨hstate, hout⟩ := drain_refused rest hinfo href
      obtain ⟨hslot, hreport, htokens⟩ := ih hrest
      rw [hstate, hout _ fun _ _ => rfl, hout _ fun _ _ => rfl, hout _ fun _ _ => rfl]
      exact ⟨hslot, hreport, congrArg (info.token :: ·) htokens⟩
    · obtain ⟨hstate, hout⟩ := drain_sent rest hinfo href
      rw [hstate, hout _ fun _ _ => rfl, hout _ fun _ _ => rfl, hout _ fun _ _ => rfl, SmsData.inSlot,
        if_neg hinfo.token_ne]
      exact ⟨rfl, rfl, rfl⟩

/-- The slot holds the token of the message that is with the modem. -/
structure SmsSystem.Inv (s : SmsSystem) : Prop where
  wellFormed : s.ril.WellFormed
  inFlight : s.inFlight.map (·.token) = s.ril.inSlot

namespace SmsSystem.Inv

variable {s : SmsSystem}

theorem idle (h : s.Inv) (hidle : s.ril.tokenOutgoingSms = rilTokenNull) :
    s.inFlight = [] ∧ s.ril.outgoingSms = [] := by
  refine ⟨List.map_eq_nil_iff.mp (h.inFlight.trans ?_), h.wellFormed.idle hidle⟩
  rw [SmsData.inSlot, if_pos hidle]

theorem busy {message : RilRequestSendSmsInfo} {rest : List RilRequestSendSmsInfo} (h : s.Inv)
    (hs : s.inFlight = message :: rest) : s.ril.tokenOutgoingSms = message.token ∧ rest = [] := by
  have hslot := h.inFlight
  rw [hs, List.map_cons, SmsData.inSlot] at hslot
  split_ifs at hslot
  obtain ⟨htoken, hrest⟩ := List.cons_eq_cons.mp hslot
  exact ⟨htoken.symm, List.map_eq_nil_iff.mp hrest⟩

theorem length_le (h : s.Inv) : s.inFlight.length ≤ 1 := by
  rw [← List.length_map (·.token), h.inFlight, SmsData.inSlot]
  split_ifs <;> simp

end SmsSystem.Inv

/-- The tokens of the messages that are with the modem or in the list. -/
def SmsSystem.tokens (s : SmsSystem) : List RilToken :=
  s.inFlight.map (·.token) ++ s.ril.outgoingSms.map (·.token)

/-- What a step should do: keep the invariant, report what it has to, and lose no token. -/
structure StepKept (s : SmsSystem) (a : SmsSystemEvent × List SmsEffect) (t : SmsSystem) : Prop where
  inv : t.Inv
  reported : a.2.filterMap SmsEffect.report = a.1.reported
  tokens : (a.2.filterMap SmsEffect.settled ++ t.tokens).Perm
    (s.tokens ++ (a.1.accepted.map (·.token)).toList)

section Step

variable {s s' : SmsData} {out : List SmsEffect} {inFlight : List RilRequestSendSmsInfo}

theorem request_kept {token : RequestToken} {smscNumber : CString}
    {data : Option (List (Option CString))} (hs : SmsSystem.Inv ⟨s, inFlight⟩)
    (hmalformed : RefusesIdle ⟨s, inFlight⟩ (.rilRequestSendSms token smscNumber data, out))
    (h : SmsStep s (.rilRequestSendSms token smscNumber data, out) s') :
    StepKept ⟨s, inFlight⟩ (.rilRequestSendSms token smscNumber data, out)
      ⟨s', inFlight ++ out.filterMap SmsEffect.transmitted⟩ := by
  have hwf := smsStep_wellFormed hs.wellFormed h
  rcases smsStep_cases h with ⟨info, hacc, hbusy, rfl, rfl⟩ | ⟨info, hacc, hidle, hdrain⟩ |
    ⟨hacc, rfl, c, frees, rfl, hfrees, hc⟩
  · change (sendSmsInfo token.1 smscNumber data).toOption = some info at hacc
    refine ⟨⟨hwf, (congrArg _ (List.append_nil _)).trans hs.inFlight⟩, rfl, ?_⟩
    simp [SmsSystemEvent.accepted, hacc, SmsSystem.tokens, rilRequestSendSmsRegister]
  · obtain ⟨rfl, hqueue⟩ : inFlight = [] ∧ s.outgoingSms = [] := hs.idle hidle
    have hproper := List.forall_mem_cons.mpr
      ⟨SmsEvent.accepted_proper hacc, hs.wellFormed.proper⟩
    obtain ⟨hslot, hreport, htokens⟩ := drain_inSlot hproper
    rw [hdrain] at hslot hreport htokens
    change (sendSmsInfo token.1 smscNumber data).toOption = some info at hacc
    refine ⟨⟨hwf, hslot⟩, hreport, ?_⟩
    simp only [SmsSystem.tokens, SmsSystemEvent.accepted, hacc, hqueue, List.nil_append, hslot,
      List.map_nil, Option.map_some, Option.toList_some, List.map_cons] at htokens ⊢
    rw [htokens, List.append_assoc]
  · have hnone : (sendSmsInfo token.1 smscNumber data).toOption = none := hacc
    obtain ⟨rfl, hqueue⟩ : inFlight = [] ∧ s.outgoingSms = [] :=
      hs.idle (hmalformed (by simp [SmsSystemEvent.malformed, hnone]))
    obtain ⟨t, n, d, -, rfl⟩ | ⟨_, _, hev, -⟩ := hc
    swap
    · cases hev
    have hout : ∀ {β : Type} (f : SmsEffect → Option β), (∀ b again, f (.free b again) = none) →
        (frees ++ (drain s.outgoingSms).2).filterMap f = [] := by
      intro β f hf
      rw [filterMap_frees_append hfrees f hf, hqueue]
      rfl
    refine ⟨⟨hwf, ?_⟩, hout _ fun _ _ => rfl, ?_⟩
    · change ((frees ++ (drain s.outgoingSms).2).filterMap SmsEffect.transmitted).map _ = _
      rw [hout _ fun _ _ => rfl, hqueue]
      rfl
    · change ((frees ++ (drain s.outgoingSms).2).filterMap SmsEffect.settled ++
        (((frees ++ (drain s.outgoingSms).2).filterMap SmsEffect.transmitted).map _ ++ _)).Perm _
      rw [hout _ fun _ _ => rfl, hout _ fun _ _ => rfl, hqueue]
      simp [SmsSystemEvent.accepted, hnone, SmsSystem.tokens, hqueue, drain]

theorem status_kept {message : RilRequestSendSmsInfo} {status : UInt32}
    (hs : SmsSystem.Inv ⟨s, message :: inFlight⟩) (h : SmsStep s (.ipcSmsSendStatus status, out) s') :
    StepKept ⟨s, message :: inFlight⟩ (.sendStatus message status, out)
      ⟨s', inFlight ++ out.filterMap SmsEffect.transmitted⟩ := by
  have hwf := smsStep_wellFormed hs.wellFormed h
  obtain ⟨hslot, rfl⟩ := hs.busy rfl
  rcases smsStep_cases h with ⟨_, hacc, -⟩ | ⟨_, hacc, -⟩ | ⟨-, rfl, c, frees, rfl, hfrees, hc⟩
  · cases hacc
  · cases hacc
  · obtain ⟨_, _, _, hev, -⟩ | ⟨status', response, hev, rfl⟩ := hc
    · cases hev
    cases hev
    obtain ⟨hin, hreport, htokens⟩ := drain_inSlot hs.wellFormed.proper
    have hout : ∀ {β : Type} (f : SmsEffect → Option β), (∀ b again, f (.free b again) = none) →
        (frees ++ (drain s.outgoingSms).2).filterMap f = (drain s.outgoingSms).2.filterMap f :=
      fun f hf => filterMap_frees_append hfrees f hf
    have htransmitted : ((frees ++ (drain s.outgoingSms).2).filterMap
        SmsEffect.transmitted).map (·.token) = (drain s.outgoingSms).1.inSlot := by
      rw [hout _ fun _ _ => rfl, hin]
    refine ⟨⟨hwf, htransmitted⟩, ?_, ?_⟩
    · change (s.tokenOutgoingSms, sendStatusErrno status) ::
        (frees ++ (drain s.outgoingSms).2).filterMap SmsEffect.report = _
      rw [hout _ fun _ _ => rfl, hreport, hslot]
      rfl
    · have hsettled : SmsEffect.settled (.complete ⟨s.tokenOutgoingSms, sendStatusErrno status,
          some response⟩) = some message.token := by
        rw [← hslot]
        unfold sendStatusErrno
        split_ifs <;> rfl
      change (List.filterMap SmsEffect.settled (_ :: (frees ++ (drain s.outgoingSms).2)) ++
        (((frees ++ (drain s.outgoingSms).2).filterMap SmsEffect.transmitted).map _ ++ _)).Perm
        ((message.token :: s.outgoingSms.map _) ++ [])
      rw [List.filterMap_cons_some hsettled, hout _ fun _ _ => rfl, htransmitted, htokens]
      simp

/-- One step, unless it refuses a malformed request while a message is with the modem. -/
theorem smsSystemStep_kept {s t : SmsSystem} {a : SmsSystemEvent × List SmsEffect} (hs : s.Inv)
    (hmalformed : RefusesIdle s a) (h : SmsSystemStep s a t) : StepKept s a t := by
  cases h with
  | request h => exact request_kept hs hmalformed h
  | status h => exact status_kept hs h

end Step

/-- **Along every run in which malformed requests come only while nothing is being sent**, no token
is lost or completed with another message's status. -/
theorem sms_tokensKept {tr : List (SmsSystemEvent × List SmsEffect)} {s : SmsSystem}
    (h : Run (Step.when SmsSystemStep RefusesIdle) .init tr s) : TokensKept tr s := by
  have hinit : SmsSystem.init.Inv := ⟨⟨by simp [SmsSystem.init, SmsData.init], fun _ => rfl⟩, rfl⟩
  have hstep := fun s a t (hs : SmsSystem.Inv s) (h : Step.when SmsSystemStep RefusesIdle s a t) =>
    (smsSystemStep_kept hs h.1 h.2).inv
  have h' := h.strengthen SmsSystem.Inv hstep hinit
  have hinv : s.Inv := h.invariant _ hstep hinit
  refine ⟨hinv.length_le, h'.labels _ fun s a t hs => (smsSystemStep_kept hs.1 hs.2.1 hs.2.2).reported, ?_⟩
  have hbalance := h'.conservation (fun s => (s.tokens : Multiset RilToken))
    (fun a => ((a.1.accepted.map (·.token)).toList : Multiset RilToken))
    (fun a => (a.2.filterMap SmsEffect.settled : Multiset RilToken)) fun s a t hs => by
      rw [add_comm, Multiset.coe_add, Multiset.coe_add, Multiset.coe_eq_coe]
      exact (smsSystemStep_kept hs.1 hs.2.1 hs.2.2).tokens
  rw [sum_map_coe, sum_map_coe, ← filterMap_outputs,
    ← filterMap_inputs fun ev : SmsSystemEvent => ev.accepted.map (·.token), ← List.map_filterMap,
    Multiset.coe_add, Multiset.coe_add, Multiset.coe_eq_coe] at hbalance
  rw [List.append_assoc]
  exact hbalance.symm.trans List.perm_append_comm

theorem sms_tokensKept_one :
    TokensKept [(.rilRequestSendSms ⟨1, by decide⟩ [] shortMessageData, shortMessageSent 1),
      (.sendStatus (shortMessage 1) 0, [.complete ⟨1, .success, some ⟨0, none, -1⟩⟩])]
      ⟨.init, []⟩ := by
  have hrequest : Step.when SmsSystemStep RefusesIdle .init
      (.rilRequestSendSms ⟨1, by decide⟩ [] shortMessageData, shortMessageSent 1)
      ⟨⟨1, []⟩, [shortMessage 1]⟩ := ⟨fun _ => rfl, .request (smsStep_iff.mpr (by decide))⟩
  have hstatus : Step.when SmsSystemStep RefusesIdle ⟨⟨1, []⟩, [shortMessage 1]⟩
      (.sendStatus (shortMessage 1) 0, [.complete ⟨1, .success, some ⟨0, none, -1⟩⟩])
      ⟨.init, []⟩ := ⟨fun h => absurd h (by decide), .status (smsStep_iff.mpr (by decide))⟩
  exact sms_tokensKept ((Run.one hrequest).snoc hstatus)

/-- A message is with the modem when a request with an empty PDU comes: the status that follows
completes no request. -/
theorem not_tokensKept_malformed :
    ¬∀ (tr : List (SmsSystemEvent × List SmsEffect)) (s : SmsSystem), Run SmsSystemStep .init tr s →
      ((inputs tr).filterMap SmsSystemEvent.token).Nodup → TokensKept tr s := by
  intro h
  have hrequest : SmsSystemStep .init
      (.rilRequestSendSms ⟨1, by decide⟩ [] shortMessageData, shortMessageSent 1)
      ⟨⟨1, []⟩, [shortMessage 1]⟩ := .request (smsStep_iff.mpr (by decide))
  have hmalformed : SmsSystemStep ⟨⟨1, []⟩, [shortMessage 1]⟩
      (.rilRequestSendSms ⟨2, by decide⟩ [] (some [none, some []]),
        [.complete ⟨2, .genericFailure, none⟩])
      ⟨⟨rilTokenNull, []⟩, [shortMessage 1]⟩ := .request (smsStep_iff.mpr (by decide))
  have hstatus : SmsSystemStep ⟨⟨rilTokenNull, []⟩, [shortMessage 1]⟩
      (.sendStatus (shortMessage 1) 0, [.complete ⟨rilTokenNull, .success, some ⟨0, none, -1⟩⟩])
      ⟨⟨rilTokenNull, []⟩, []⟩ := .status (smsStep_iff.mpr (by decide))
  have hkept := h _ _ (((Run.one hrequest).snoc hmalformed).snoc hstatus) (by decide)
  have hown := hkept.own_status _ (List.mem_append_right _ (List.mem_singleton_self _))
  exact absurd hown (by decide)

end Mocha.Ril
