import Mocha.Ril.Sms

/-! The waiting messages under any order of requests and send statuses: the recursion ends, and
messages leave the list in the order in which they were accepted. -/
namespace Mocha.Ril
open Mocha.Lib

/-- What becomes of the waiting messages when the next one is looked for: the refused ones at the
head leave the list, and the first other one is transmitted. -/
def drain : List RilRequestSendSmsInfo → SmsData × List SmsEffect
  | [] => (⟨rilTokenNull, []⟩, [])
  | info :: rest =>
    if info.pdu = none then (⟨rilTokenNull, rest⟩, info.smsc.toList.map (.free · false))
    else if info.refused then
      ((drain rest).1, .complete ⟨info.token, .smsSendFailRetry, none⟩ ::
        (info.freeBuffers false ++ (drain rest).2) ++ info.freeBuffers true)
    else (⟨info.token, rest⟩,
      [.tapiNettextSetNetBurst 0, .tapiNettextSend info] ++ info.freeBuffers false)

/-- The outcome of a handler. -/
def smsOutcome (s : SmsData) : SmsEvent → SmsData × List SmsEffect
  | .rilRequestSendSms t smscNumber data =>
    match sendSmsInfo t smscNumber data with
    | .error frees => ((drain s.outgoingSms).1,
        .complete ⟨t, .genericFailure, none⟩ :: (frees ++ (drain s.outgoingSms).2))
    | .ok info =>
      if s.tokenOutgoingSms ≠ rilTokenNull then (rilRequestSendSmsRegister s info, [])
      else drain (info :: s.outgoingSms)
  | .ipcSmsSendStatus status => ((drain s.outgoingSms).1,
      .complete ⟨s.tokenOutgoingSms, sendStatusErrno status,
        some ⟨0, none, if status = 0 then -1 else 500⟩⟩ :: (drain s.outgoingSms).2)

section Recursion

variable {fuel : ℕ} {s t : SmsData} {info : RilRequestSendSmsInfo} {out : List SmsEffect}

/-- One unit of fuel for each of the two functions and each waiting message is enough. -/
theorem rilRequestSendSmsNext_eq (h : 2 * s.outgoingSms.length < fuel) :
    rilRequestSendSmsNext fuel s = some (drain s.outgoingSms) := by
  obtain ⟨slot, queue⟩ := s
  induction queue generalizing fuel slot with
  | nil =>
    obtain ⟨fuel, rfl⟩ := Nat.exists_eq_add_one.mpr (Nat.zero_lt_of_lt h)
    simp only [rilRequestSendSmsNext, drain]
  | cons info rest ih =>
    simp only [List.length_cons] at h
    obtain ⟨fuel, rfl⟩ : ∃ n, fuel = n + 2 := ⟨fuel - 2, by omega⟩
    cases hpdu : info.pdu with
    | none => simp only [rilRequestSendSmsNext, hpdu, drain, if_true]
    | some pdu =>
      simp only [rilRequestSendSmsNext, rilRequestSendSmsComplete, drain, hpdu, reduceCtorEq, if_false]
      split_ifs with href
      · rw [ih info.token (by simp only; omega), href]
        rfl
      · rw [Bool.not_eq_true] at href
        rw [href]
        rfl

/-- Whatever the fuel, a result is this one. -/
theorem rilRequestSendSmsNext_eq_some {r : SmsData × List SmsEffect}
    (h : rilRequestSendSmsNext fuel s = some r) : r = drain s.outgoingSms := by
  obtain ⟨slot, queue⟩ := s
  induction queue generalizing fuel slot r with
  | nil =>
    cases fuel with
    | zero => simp [rilRequestSendSmsNext] at h
    | succ fuel =>
      simp only [rilRequestSendSmsNext, Option.some.injEq] at h
      rw [← h, drain]
  | cons info rest ih =>
    match fuel with
    | 0 => simp [rilRequestSendSmsNext] at h
    | fuel + 1 =>
      cases hpdu : info.pdu with
      | none =>
        simp only [rilRequestSendSmsNext, hpdu, Option.some.injEq] at h
        rw [← h, drain, if_pos hpdu]
      | some pdu =>
        cases fuel with
        | zero => simp [rilRequestSendSmsNext, rilRequestSendSmsComplete, hpdu] at h
        | succ fuel =>
          simp only [rilRequestSendSmsNext, rilRequestSendSmsComplete, hpdu] at h
          rw [drain, if_neg (by simp [hpdu])]
          split_ifs at h ⊢ with href
          · cases hnext : rilRequestSendSmsNext fuel ⟨info.token, rest⟩ with
            | none => simp [hnext] at h
            | some p =>
              obtain rfl := ih info.token hnext
              simpa [hnext, href] using h.symm
          · rw [Bool.not_eq_true] at href
            simpa [href] using h.symm

/-- An accepted message that finds the slot free is treated like a waiting one. -/
theorem rilRequestSendSms_idle {t : RilToken} {smscNumber : CString}
    {data : Option (List (Option CString))} (h : sendSmsInfo t smscNumber data = .ok info)
    (hidle : s.tokenOutgoingSms = rilTokenNull) :
    rilRequestSendSms fuel s t smscNumber data =
      rilRequestSendSmsNext (fuel + 1) ⟨rilTokenNull, info :: s.outgoingSms⟩ := by
  obtain ⟨⟨pdu, hpdu⟩, htoken⟩ := sendSmsInfo_eq_ok h
  rw [rilRequestSendSms, h, rilRequestSendSmsNext]
  simp only [hidle, ne_eq, not_true, if_false, hpdu, htoken]

end Recursion

/-- A handler either does not recurse, or wraps one search for the next message. -/
theorem smsHandler_cases (s : SmsData) (ev : SmsEvent) :
    (∀ fuel, smsHandler fuel s ev = some (smsOutcome s ev)) ∨
      ∃ (u : SmsData) (more : ℕ) (wrap : SmsData × List SmsEffect → SmsData × List SmsEffect),
        (∀ fuel, smsHandler fuel s ev = (rilRequestSendSmsNext (fuel + more) u).map wrap) ∧
          smsOutcome s ev = wrap (drain u.outgoingSms) := by
  cases ev with
  | ipcSmsSendStatus status =>
    refine .inr ⟨s, 0, fun r => (r.1, .complete ⟨s.tokenOutgoingSms, sendStatusErrno status,
      some ⟨0, none, if status = 0 then -1 else 500⟩⟩ :: r.2), fun fuel => ?_, rfl⟩
    rw [Option.map_eq_bind]
    rfl
  | rilRequestSendSms t smscNumber data =>
    cases h : sendSmsInfo t.1 smscNumber data with
    | error frees =>
      refine .inr ⟨s, 0, fun r => (r.1, .complete ⟨t, .genericFailure, none⟩ :: (frees ++ r.2)),
        fun fuel => ?_, by simp only [smsOutcome, h]⟩
      rw [Option.map_eq_bind, smsHandler, rilRequestSendSms, h]
      rfl
    | ok info =>
      by_cases hidle : s.tokenOutgoingSms = rilTokenNull
      · refine .inr ⟨⟨rilTokenNull, info :: s.outgoingSms⟩, 1, id, fun fuel => ?_, ?_⟩
        · rw [Option.map_id]
          exact rilRequestSendSms_idle h hidle
        · simp only [smsOutcome, h, hidle, ne_eq, not_true, if_false, id]
      · refine .inl fun fuel => ?_
        simp only [smsHandler, rilRequestSendSms, smsOutcome, h, ne_eq, hidle, not_false_eq_true,
          if_true]

theorem smsStep_iff {s t : SmsData} {ev : SmsEvent} {out : List SmsEffect} :
    SmsStep s (ev, out) t ↔ smsOutcome s ev = (t, out) ∧ freesOnce out := by
  refine and_congr_left fun _ => ?_
  constructor
  · rintro ⟨fuel, h⟩
    change smsHandler fuel s ev = some (t, out) at h
    rcases smsHandler_cases s ev with hconst | ⟨u, more, wrap, hwrap, hout⟩
    · exact Option.some.inj ((hconst fuel).symm.trans h)
    · rw [hwrap, Option.map_eq_some_iff] at h
      obtain ⟨r, hr, hrt⟩ := h
      rw [hout, ← rilRequestSendSmsNext_eq_some hr, hrt]
  · intro h
    rcases smsHandler_cases s ev with hconst | ⟨u, more, wrap, hwrap, hout⟩
    · exact ⟨0, (hconst 0).trans (congrArg some h)⟩
    · refine ⟨2 * u.outgoingSms.length + 1, (hwrap _).trans ?_⟩
      rw [rilRequestSendSmsNext_eq (by omega), Option.map_some, ← hout, h]

/-! The order in which messages leave the list. -/

/-- How a message leaves the list: handed to the modem, or given up. -/
inductive Departure
  | transmitted (message : RilRequestSendSmsInfo)
  | refused (t : RilToken)
deriving DecidableEq

def SmsEffect.departure : SmsEffect → Option Departure
  | .tapiNettextSend message => some (.transmitted message)
  | .complete ⟨t, .smsSendFailRetry, _⟩ => some (.refused t)
  | _ => none

def RilRequestSendSmsInfo.departure (info : RilRequestSendSmsInfo) : Departure :=
  if info.refused then .refused info.token else .transmitted info

/-- The message of a request that passes the checks. -/
def SmsEvent.accepted : SmsEvent → Option RilRequestSendSmsInfo
  | .rilRequestSendSms t smscNumber data => (sendSmsInfo t smscNumber data).toOption
  | .ipcSmsSendStatus _ => none

/-- The list holds proper messages only, and none while nothing is being sent. -/
structure SmsData.WellFormed (s : SmsData) : Prop where
  proper : ∀ info ∈ s.outgoingSms, info.Proper
  idle : s.tokenOutgoingSms = rilTokenNull → s.outgoingSms = []

section Drain

variable {info : RilRequestSendSmsInfo} {queue : List RilRequestSendSmsInfo}

theorem drain_refused (rest : List RilRequestSendSmsInfo) (hinfo : info.Proper) (href : info.refused) :
    (drain (info :: rest)).1 = (drain rest).1 ∧
      ∀ {β : Type} (f : SmsEffect → Option β), (∀ b again, f (.free b again) = none) →
        (drain (info :: rest)).2.filterMap f =
          (f (.complete ⟨info.token, .smsSendFailRetry, none⟩)).toList ++
            (drain rest).2.filterMap f := by
  rw [drain, if_neg hinfo.pdu_ne, if_pos href]
  refine ⟨rfl, fun f hf => ?_⟩
  simp only [List.cons_append, List.filterMap_cons, List.filterMap_append,
    info.filterMap_freeBuffers _ f hf, List.nil_append, List.append_nil]
  cases f (.complete ⟨info.token, .smsSendFailRetry, none⟩) <;> rfl

theorem drain_sent (rest : List RilRequestSendSmsInfo) (hinfo : info.Proper) (href : ¬info.refused) :
    (drain (info :: rest)).1 = ⟨info.token, rest⟩ ∧
      ∀ {β : Type} (f : SmsEffect → Option β), (∀ b again, f (.free b again) = none) →
        (drain (info :: rest)).2.filterMap f =
          [.tapiNettextSetNetBurst 0, .tapiNettextSend info].filterMap f := by
  rw [drain, if_neg hinfo.pdu_ne, if_neg href]
  refine ⟨rfl, fun f hf => ?_⟩
  rw [List.filterMap_append, info.filterMap_freeBuffers _ f hf, List.append_nil]

theorem drain_wellFormed (h : ∀ info ∈ queue, info.Proper) : (drain queue).1.WellFormed := by
  induction queue with
  | nil => exact ⟨by simp [drain], fun _ => rfl⟩
  | cons info rest ih =>
    obtain ⟨hinfo, hrest⟩ := List.forall_mem_cons.mp h
    by_cases href : info.refused
    · rw [(drain_refused _ hinfo href).1]
      exact ih hrest
    · rw [(drain_sent _ hinfo href).1]
      exact ⟨hrest, fun hnull => absurd hnull hinfo.token_ne⟩

/-- Searching the list for the next message takes messages from its head only. -/
theorem drain_departures (h : ∀ info ∈ queue, info.Proper) :
    ∃ gone, queue = gone ++ (drain queue).1.outgoingSms ∧
      (drain queue).2.filterMap SmsEffect.departure = gone.map RilRequestSendSmsInfo.departure := by
  induction queue with
  | nil => exact ⟨[], rfl, rfl⟩
  | cons info rest ih =>
    obtain ⟨hinfo, hrest⟩ := List.forall_mem_cons.mp h
    by_cases href : info.refused
    · obtain ⟨hstate, hout⟩ := drain_refused rest hinfo href
      obtain ⟨gone, hgone, hdep⟩ := ih hrest
      refine ⟨info :: gone, by rw [hstate]; exact congrArg _ hgone, ?_⟩
      rw [hout _ fun _ _ => rfl, hdep, List.map_cons, RilRequestSendSmsInfo.departure, if_pos href]
      rfl
    · obtain ⟨hstate, hout⟩ := drain_sent rest hinfo href
      refine ⟨[info], by rw [hstate]; rfl, ?_⟩
      rw [hout _ fun _ _ => rfl, List.map_singleton, RilRequestSendSmsInfo.departure, if_neg href]
      rfl

end Drain

section Step

variable {s t : SmsData} {ev : SmsEvent} {out : List SmsEffect}

theorem SmsEvent.accepted_proper {info : RilRequestSendSmsInfo} (h : ev.accepted = some info) :
    info.Proper := by
  cases ev with
  | ipcSmsSendStatus status => cases h
  | rilRequestSendSms t smscNumber data =>
    cases hinfo : sendSmsInfo t.1 smscNumber data with
    | error frees => simp [SmsEvent.accepted, hinfo, Except.toOption] at h
    | ok info' =>
      obtain rfl : info' = info := by simpa [SmsEvent.accepted, hinfo, Except.toOption] using h
      obtain ⟨⟨pdu, hpdu⟩, htoken⟩ := sendSmsInfo_eq_ok hinfo
      exact ⟨by simp [hpdu], htoken ▸ t.2⟩

/-- What a step does to the list: an accepted message waits, or the list is searched. -/
theorem smsStep_cases (h : SmsStep s (ev, out) t) :
    (∃ info, ev.accepted = some info ∧ s.tokenOutgoingSms ≠ rilTokenNull ∧
      t = rilRequestSendSmsRegister s info ∧ out = []) ∨
    (∃ info, ev.accepted = some info ∧ s.tokenOutgoingSms = rilTokenNull ∧
      drain (info :: s.outgoingSms) = (t, out)) ∨
    (ev.accepted = none ∧ t = (drain s.outgoingSms).1 ∧ ∃ c frees,
      out = .complete c :: (frees ++ (drain s.outgoingSms).2) ∧
      (∀ e ∈ frees, ∃ b, e = .free b false) ∧
      ((∃ t smscNumber data, ev = .rilRequestSendSms t smscNumber data ∧
        c = ⟨t, .genericFailure, none⟩) ∨
        ∃ status response, ev = .ipcSmsSendStatus status ∧
          c = ⟨s.tokenOutgoingSms, sendStatusErrno status, some response⟩)) := by
  replace h := (smsStep_iff.mp h).1
  cases ev with
  | ipcSmsSendStatus status =>
    obtain ⟨rfl, rfl⟩ := Prod.mk.inj h
    exact .inr (.inr ⟨rfl, rfl, _, [], rfl, by simp, .inr ⟨status, _, rfl, rfl⟩⟩)
  | rilRequestSendSms token smscNumber data =>
    cases hinfo : sendSmsInfo token.1 smscNumber data with
    | error frees =>
      simp only [smsOutcome, hinfo] at h
      obtain ⟨rfl, rfl⟩ := Prod.mk.inj h
      refine .inr (.inr ⟨by simp [SmsEvent.accepted, hinfo, Except.toOption], rfl, _, frees, rfl,
        sendSmsInfo_eq_error hinfo, .inl ⟨token, smscNumber, data, rfl, rfl⟩⟩)
    | ok info =>
      have hacc : (SmsEvent.rilRequestSendSms token smscNumber data).accepted = some info := by
        simp [SmsEvent.accepted, hinfo, Except.toOption]
      simp only [smsOutcome, hinfo] at h
      split_ifs at h with hidle
      · obtain ⟨rfl, rfl⟩ := Prod.mk.inj h
        exact .inl ⟨info, hacc, hidle, rfl, rfl⟩
      · exact .inr (.inl ⟨info, hacc, not_not.mp hidle, h⟩)

theorem smsStep_wellFormed (hs : s.WellFormed) (h : SmsStep s (ev, out) t) : t.WellFormed := by
  rcases smsStep_cases h with ⟨info, hacc, hbusy, rfl, -⟩ | ⟨info, hacc, -, hdrain⟩ | ⟨-, rfl, -⟩
  · refine ⟨?_, fun hnull => absurd hnull hbusy⟩
    simpa [rilRequestSendSmsRegister, or_imp, forall_and] using ⟨hs.proper, ev.accepted_proper hacc⟩
  · have := drain_wellFormed (List.forall_mem_cons.mpr ⟨ev.accepted_proper hacc, hs.proper⟩)
    rwa [hdrain] at this
  · exact drain_wellFormed hs.proper

/-- Messages leave at the head of the list and join at its end. -/
theorem smsStep_departures (hs : s.WellFormed) (h : SmsStep s (ev, out) t) :
    ∃ gone, s.outgoingSms ++ ev.accepted.toList = gone ++ t.outgoingSms ∧
      out.filterMap SmsEffect.departure = gone.map RilRequestSendSmsInfo.departure := by
  rcases smsStep_cases h with ⟨info, hacc, -, rfl, rfl⟩ | ⟨info, hacc, hidle, hdrain⟩ |
    ⟨hacc, rfl, c, frees, rfl, hfrees, hc⟩
  · exact ⟨[], by simp [hacc, rilRequestSendSmsRegister], rfl⟩
  · have hall := List.forall_mem_cons.mpr ⟨ev.accepted_proper hacc, hs.proper⟩
    obtain ⟨gone, hgone, hdep⟩ := drain_departures hall
    rw [hdrain] at hgone hdep
    refine ⟨gone, ?_, hdep⟩
    rw [hacc, hs.idle hidle, ← hgone, hs.idle hidle]
    rfl
  · obtain ⟨gone, hgone, hdep⟩ := drain_departures hs.proper
    refine ⟨gone, by simpa [hacc] using hgone, ?_⟩
    have hnone : SmsEffect.departure (.complete c) = none := by
      rcases hc with ⟨t, smscNumber, data, -, rfl⟩ | ⟨status, response, -, rfl⟩
      · rfl
      · unfold sendStatusErrno; split_ifs <;> rfl
    rw [List.filterMap_cons_none hnone, filterMap_frees_append hfrees _ fun _ _ => rfl, hdep]

end Step

/-- A message that passes the checks of the request is not too large for those that follow. -/
def SmsEvent.Fits (ev : SmsEvent) : Prop :=
  ∀ info ∈ ev.accepted, info.pduSize / 2 + info.smscSize ≤ 0xfe

/-- What a run should keep to: nothing waits while nothing is being sent, the handler of every further
event (of those in `E`) returns, and the accepted messages are those that have left the list, each in
its own way and once, followed by those that wait. -/
structure QueueKept (E : SmsEvent → Prop) (tr : List (SmsEvent × List SmsEffect)) (s : SmsData) :
    Prop where
  idle : s.tokenOutgoingSms = rilTokenNull → s.outgoingSms = []
  returns : ∀ ev, E ev → ∃ out t, SmsStep s (ev, out) t
  fifo : ∃ gone, (inputs tr).filterMap SmsEvent.accepted = gone ++ s.outgoingSms ∧
    (outputs tr).filterMap SmsEffect.departure = gone.map RilRequestSendSmsInfo.departure

section Fits

variable {s t : SmsData} {ev : SmsEvent} {out : List SmsEffect}

theorem SmsEvent.Fits.not_refused {info : RilRequestSendSmsInfo} (h : ev.Fits)
    (hacc : ev.accepted = some info) : ¬info.refused := by
  have hsize := h info hacc
  cases ev with
  | ipcSmsSendStatus status => cases hacc
  | rilRequestSendSms t smscNumber data =>
    cases hinfo : sendSmsInfo t.1 smscNumber data with
    | error frees => simp [SmsEvent.accepted, hinfo, Except.toOption] at hacc
    | ok info' =>
      obtain rfl : info' = info := by simpa [SmsEvent.accepted, hinfo, Except.toOption] using hacc
      rw [sendSmsInfo_refused hinfo]
      omega

theorem freesOnce_iff : freesOnce out ↔ ∀ e ∈ out, e.freesAgain = false := by
  simp [freesOnce]

theorem freesOnce_frees {frees : List SmsEffect} (h : ∀ e ∈ frees, ∃ b, e = .free b false) :
    ∀ e ∈ frees, e.freesAgain = false := by
  intro e he
  obtain ⟨b, rfl⟩ := h e he
  rfl

/-- Where no message is refused, none is freed twice. -/
theorem drain_freesOnce {queue : List RilRequestSendSmsInfo} (h : ∀ info ∈ queue, ¬info.refused) :
    ∀ e ∈ (drain queue).2, e.freesAgain = false := by
  cases queue with
  | nil => exact fun e he => absurd he List.not_mem_nil
  | cons info rest =>
    rw [drain]
    split_ifs with hpdu href
    · intro e he
      obtain ⟨b, -, rfl⟩ := List.mem_map.mp he
      rfl
    · exact absurd href (h info List.mem_cons_self)
    · refine List.forall_mem_append.mpr ⟨?_, freesOnce_frees fun _ => RilRequestSendSmsInfo.mem_freeBuffers⟩
      simp [SmsEffect.freesAgain]

/-- What is left of a list that is searched for the next message. -/
theorem drain_suffix (queue : List RilRequestSendSmsInfo) : (drain queue).1.outgoingSms <:+ queue := by
  induction queue with
  | nil => exact List.suffix_rfl
  | cons info rest ih =>
    rw [drain]
    split_ifs
    · exact List.suffix_cons info rest
    · exact ih.trans (List.suffix_cons info rest)
    · exact List.suffix_cons info rest

theorem smsStep_queueFits (hs : ∀ info ∈ s.outgoingSms, ¬info.refused) (hfits : ev.Fits)
    (h : SmsStep s (ev, out) t) : ∀ info ∈ t.outgoingSms, ¬info.refused := by
  rcases smsStep_cases h with ⟨info, hacc, -, rfl, -⟩ | ⟨info, hacc, -, hdrain⟩ | ⟨-, rfl, -⟩
  · exact List.forall_mem_append.mpr ⟨hs, List.forall_mem_singleton.mpr (hfits.not_refused hacc)⟩
  · have hall : ∀ i ∈ info :: s.outgoingSms, ¬i.refused :=
      List.forall_mem_cons.mpr ⟨hfits.not_refused hacc, hs⟩
    have hsuffix := drain_suffix (info :: s.outgoingSms)
    rw [hdrain] at hsuffix
    exact fun i hi => hall i (hsuffix.mem hi)
  · exact fun i hi => hs i ((drain_suffix s.outgoingSms).mem hi)

/-- The handler of an event that fits returns. -/
theorem smsStep_returns (hs : ∀ info ∈ s.outgoingSms, ¬info.refused) (hfits : ev.Fits) :
    ∃ out t, SmsStep s (ev, out) t := by
  refine ⟨(smsOutcome s ev).2, (smsOutcome s ev).1, smsStep_iff.mpr ⟨rfl, freesOnce_iff.mpr ?_⟩⟩
  have hdrain := drain_freesOnce hs
  cases ev with
  | ipcSmsSendStatus status => exact List.forall_mem_cons.mpr ⟨rfl, hdrain⟩
  | rilRequestSendSms token smscNumber data =>
    cases hinfo : sendSmsInfo token.1 smscNumber data with
    | error frees =>
      simp only [smsOutcome, hinfo]
      exact List.forall_mem_cons.mpr ⟨rfl, List.forall_mem_append.mpr
        ⟨freesOnce_frees (sendSmsInfo_eq_error hinfo), hdrain⟩⟩
    | ok info =>
      have hacc : (SmsEvent.rilRequestSendSms token smscNumber data).accepted = some info := by
        simp [SmsEvent.accepted, hinfo, Except.toOption]
      simp only [smsOutcome, hinfo]
      split_ifs
      · exact fun e he => absurd he List.not_mem_nil
      · exact drain_freesOnce (List.forall_mem_cons.mpr ⟨hfits.not_refused hacc, hs⟩)

end Fits

/-- **First in, first out**, along every run whose accepted messages are not too large. -/
theorem sms_fifo {tr : List (SmsEvent × List SmsEffect)} {s : SmsData}
    (h : Run (Step.when SmsStep fun _ a => a.1.Fits) .init tr s) : QueueKept SmsEvent.Fits tr s := by
  have hinit : SmsData.init.WellFormed := ⟨by simp [SmsData.init], fun _ => rfl⟩
  have hstep : ∀ s a t, SmsData.WellFormed s → SmsStep s a t → SmsData.WellFormed t :=
    fun s a t hs h => smsStep_wellFormed hs h
  have hwf : s.WellFormed := h.of_when.invariant _ hstep hinit
  have hqueue : ∀ info ∈ s.outgoingSms, ¬info.refused := by
    refine h.invariant (fun s => ∀ info ∈ s.outgoingSms, ¬info.refused)
      (fun s a t hs h => smsStep_queueFits hs h.1 h.2) ?_
    exact fun info hinfo => absurd hinfo List.not_mem_nil
  have hruns : Run (Step.when SmsStep fun s _ => s.WellFormed) .init tr s :=
    h.of_when.strengthen _ hstep hinit
  obtain ⟨gone, hin, hout⟩ := hruns.fifo SmsData.outgoingSms
    (fun a => a.1.accepted.toList) (fun a => a.2.filterMap SmsEffect.departure)
    RilRequestSendSmsInfo.departure fun s a t hs => smsStep_departures hs.1 hs.2
  have haccepted : (inputs tr).filterMap SmsEvent.accepted = gone ++ s.outgoingSms := by
    rw [filterMap_inputs, ← hin]
    rfl
  have hleft : (outputs tr).filterMap SmsEffect.departure =
      gone.map RilRequestSendSmsInfo.departure := by rw [filterMap_outputs, hout]
  exact ⟨hwf.idle, fun ev hfits => smsStep_returns hqueue hfits, gone, haccepted, hleft⟩

/-- A message of two septets, as requested with token `t`. -/
def shortMessage (t : RilToken) : RilRequestSendSmsInfo :=
  ⟨some [0x01, 0x00, 0x06, 0x81, 0x21, 0x43, 0x65, 0x00, 0x00, 0x02, 0xC8, 0x34], 12,
    some [0x04, 0x91, 0x21, 0x43, 0x65], 5, t⟩

def shortMessageData : Option (List (Option CString)) :=
  some [some (cString "0491214365"), some (cString "01000681214365000002C834")]

def shortMessageSent (t : RilToken) : List SmsEffect :=
  [.tapiNettextSetNetBurst 0, .tapiNettextSend (shortMessage t)] ++ (shortMessage t).freeBuffers false

theorem sms_fifo_two :
    let tr : List (SmsEvent × List SmsEffect) :=
      [(.rilRequestSendSms ⟨1, by decide⟩ [] shortMessageData, shortMessageSent 1),
        (.rilRequestSendSms ⟨2, by decide⟩ [] shortMessageData, []),
        (.ipcSmsSendStatus 0, .complete ⟨1, .success, some ⟨0, none, -1⟩⟩ :: shortMessageSent 2)]
    QueueKept SmsEvent.Fits tr ⟨2, []⟩ := by
  have hfirst : Step.when SmsStep (fun _ a => a.1.Fits) .init
      (.rilRequestSendSms ⟨1, by decide⟩ [] shortMessageData, shortMessageSent 1) ⟨1, []⟩ :=
    ⟨by unfold SmsEvent.Fits; decide, smsStep_iff.mpr (by decide)⟩
  have hsecond : Step.when SmsStep (fun _ a => a.1.Fits) ⟨1, []⟩
      (.rilRequestSendSms ⟨2, by decide⟩ [] shortMessageData, []) ⟨1, [shortMessage 2]⟩ :=
    ⟨by unfold SmsEvent.Fits; decide, smsStep_iff.mpr (by decide)⟩
  have hstatus : Step.when SmsStep (fun _ a => a.1.Fits) ⟨1, [shortMessage 2]⟩
      (.ipcSmsSendStatus 0, .complete ⟨1, .success, some ⟨0, none, -1⟩⟩ :: shortMessageSent 2) ⟨2, []⟩ :=
    ⟨by unfold SmsEvent.Fits; decide, smsStep_iff.mpr (by decide)⟩
  exact sms_fifo (((Run.one hfirst).snoc hsecond).snoc hstatus)

/-- A PDU of 508 bytes, with an SMSC of one. -/
def largeMessageData : Option (List (Option CString)) :=
  some [some (cString "00"), some (List.replicate 1016 0x30)]

/-- The message is accepted and then refused, and its buffers are freed twice. -/
theorem not_queueKept_tooLarge :
    ¬∀ (tr : List (SmsEvent × List SmsEffect)) (s : SmsData), Run SmsStep .init tr s →
      QueueKept (fun _ => True) tr s := by
  intro h
  obtain ⟨out, t, hstep⟩ := (h [] .init .nil).returns
    (.rilRequestSendSms ⟨1, by decide⟩ [] largeMessageData) trivial
  obtain ⟨houtcome, honce⟩ := smsStep_iff.mp hstep
  have htwice : freesOnce (smsOutcome .init
      (.rilRequestSendSms ⟨1, by decide⟩ [] largeMessageData)).2 = false := by decide +kernel
  rw [houtcome] at htwice
  exact Bool.false_ne_true (htwice.symm.trans honce)

end Mocha.Ril
