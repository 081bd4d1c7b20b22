import Mocha.Ril.CallAnswer
import Mocha.Ril.CallTokens
import Mocha.Ril.GprsTokens
import Mocha.Ril.Request
import Mocha.Ril.SmsQueue

/-! Requests while the modem is not there. They are refused, and then carried out as well: only a
request whose handler does nothing is merely refused. -/
namespace Mocha.Ril
open Mocha.Lib

def RilTokens.all (ts : RilTokens) : List RilToken :=
  [ts.pinStatus, ts.pukStatus, ts.getImei, ts.getImsi, ts.basebandVersion, ts.queryAvailNetworks,
    ts.networkSelection, ts.setFacilityLock, ts.changeSimPin]

/-- A request waits under the token. -/
inductive RilData.Waits (s : RilData) : RilToken → Prop
  | token {t : RilToken} (h : t ∈ s.tokens.all) : Waits s t
  | call {t : RilToken} (h : s.calls.table.Stores t) : Waits s t
  | dtmfStart : Waits s s.calls.table.tokenDtmfStart
  | dtmfStop : Waits s s.calls.table.tokenDtmfStop
  | outgoingSms : Waits s s.outgoingSms.tokenOutgoingSms
  | message {info : RilRequestSendSmsInfo} (h : info ∈ s.outgoingSms.outgoingSms) : Waits s info.token
  | connection {c : RilGprsConnection} (h : c ∈ s.gprs.gprsConnections) : Waits s c.token
  | simIo : Waits s s.simIo.tokenSimIo
  | simIoEntry {info : RilRequestSimIoInfo} (h : info ∈ s.simIo.simIo) : Waits s info.token

/-- A handler changes its state, or has an effect that does not go to the modem. -/
def Acts {σ ω : Type} (isPacket : ω → Bool) (s : σ) (r : σ × List ω) : Prop :=
  r.1 ≠ s ∨ ∃ e ∈ r.2, isPacket e = false

/-- The request is one whose handler drops its token: ANSWER without a ringing call, or SWITCH with
nothing but waiting calls, none of which has a request. -/
def PassedOver (s : RilData) (request : RilRequest) : Prop :=
  ∃ c, request = .calls (.control c) ∧ ¬KeepsToken s.calls.table c

section Acts

variable {s : RilData} {r : RilData × List RilEffect}

theorem acts_completed {c : Completion RilResponse} (h : .complete c ∈ r.2) :
    Acts RilEffect.isPacket s r := .inr ⟨_, h, rfl⟩

theorem acts_stored (f : RilTokens → RilToken) (h : f r.1.tokens ≠ f s.tokens) :
    Acts RilEffect.isPacket s r :=
  .inl fun heq => h (by rw [heq])

/-- A handler of a module acts on `ril_data` if it acts on its part of it. -/
theorem acts_module {σ ω : Type} {isPacket : ω → Bool} {r : σ × List ω} {u : RilData}
    (part : RilData → σ) (embed : ω → RilEffect) (hpart : part u = r.1)
    (hembed : ∀ e, (embed e).isPacket = isPacket e) (h : Acts isPacket (part s) r) :
    Acts RilEffect.isPacket s (u, r.2.map embed) := by
  rcases h with hchanged | ⟨e, he, hpacket⟩
  · left
    intro heq
    exact hchanged (by rw [← hpart, ← heq])
  · right
    exact ⟨embed e, List.mem_map_of_mem he, (hembed e).trans hpacket⟩

end Acts

section Modules

variable {t : RequestToken}

theorem exists_of_completions {out : List CallEffect} (h : completions out ≠ []) :
    ∃ e ∈ out, (CallModuleEffect.control e).isPacket = false := by
  obtain ⟨r, hr⟩ := List.exists_mem_of_ne_nil _ h
  obtain ⟨e, he, hcompleted⟩ := List.mem_filterMap.mp hr
  cases e with
  | complete c => exact ⟨_, he, rfl⟩
  | _ => cases hcompleted

theorem callRequest_acts {s : CallModule} {c : CallRequest} (hkeeps : KeepsToken s.table c) :
    Acts CallModuleEffect.isPacket s (s.lift (callRequestHandler s.table t.1 c)) := by
  obtain ⟨n, hledger, hn, -⟩ := callRequest_ledger (s := s.table) t.2 c
  have hpos : 1 ≤ n := hn.mpr hkeeps
  by_cases hout : completions (callRequestHandler s.table t.1 c).2 = []
  · left
    intro heq
    have hbalance := hledger.balance
    have htable : (callRequestHandler s.table t.1 c).1 = s.table := congrArg CallModule.table heq
    rw [hout, htable, Multiset.coe_nil] at hbalance
    have hcard := congrArg Multiset.card (add_left_cancel hbalance)
    rw [Multiset.card_zero, Multiset.card_replicate] at hcard
    omega
  · obtain ⟨e, he, hpacket⟩ := exists_of_completions hout
    exact .inr ⟨_, List.mem_map_of_mem he, hpacket⟩

theorem callModuleRequest_acts {s : CallModule} {c : CallModuleRequest}
    (hkeeps : ∀ k, c = .control k → KeepsToken s.table k) (hstart : t.1 ≠ s.table.tokenDtmfStart)
    (hstop : t.1 ≠ s.table.tokenDtmfStop) :
    Acts CallModuleEffect.isPacket s (callModuleRequestHandler s t.1 c) := by
  cases c with
  | control k => exact callRequest_acts (hkeeps k rfl)
  | getCurrentCalls => exact .inr ⟨_, List.mem_cons_self, rfl⟩
  | lastCallFailCause => exact .inr ⟨_, List.mem_cons_self, rfl⟩
  | dtmf => exact .inr ⟨_, List.mem_cons_self, rfl⟩
  | dtmfStart data =>
    dsimp only [callModuleRequestHandler, rilRequestDtmfStart]
    split
    · exact .inl fun heq => hstart (congrArg (fun m => m.table.tokenDtmfStart) heq)
    · exact .inr ⟨_, List.mem_cons_self, rfl⟩
  | dtmfStop =>
    dsimp only [callModuleRequestHandler, rilRequestDtmfStop]
    split
    · exact .inl fun heq => hstop (congrArg (fun m => m.table.tokenDtmfStop) heq)
    · exact .inr ⟨_, List.mem_cons_self, rfl⟩

/-- A request for a data connection completes its token, or changes the list. -/
theorem gprsRequest_acts {s : GprsData} {e : GprsEvent} (he : e.token = some t)
    (hfresh : ∀ c ∈ s.gprsConnections, c.token ≠ t) :
    Acts GprsEffect.isPacket s (gprsHandler s e) := by
  have hcompleted : ∀ {a out}, gprsCompletions out = [a] → ∃ e ∈ out, GprsEffect.isPacket e = false := by
    intro a out hout
    have ha : a ∈ gprsCompletions out := hout ▸ List.mem_cons_self
    obtain ⟨e, he, hcompletion⟩ := List.mem_filterMap.mp ha
    cases e with
    | complete => exact ⟨_, he, rfl⟩
    | _ => cases hcompletion
  have hchange := gprsHandler_change (s := s) e
  generalize gprsHandler s e = r at hchange
  obtain ⟨u, out⟩ := r
  dsimp only at hchange
  cases hchange with
  | opened _ _ _ c =>
    left
    intro heq
    have hlength := congrArg (fun u => u.gprsConnections.length) heq
    simp at hlength
  | answered _ _ _ _ _ _ hout => exact .inr (hcompleted hout)
  | deactivating r cid hfirst hout =>
    left
    intro heq
    obtain rfl : r = t := Option.some_inj.mp he
    have hlist := congrArg GprsData.gprsConnections heq
    rw [hfirst.eq] at hlist
    have hcell := (List.cons.inj (List.append_cancel_left hlist)).1
    exact hfresh _ hfirst.mem (congrArg RilGprsConnection.token hcell).symm
  | queried _ _ _ hout => exact .inr (hcompleted hout)
  | queriedNone _ _ hout => exact .inr (hcompleted hout)
  | failed hanswers => cases (token_of_answers hanswers).symm.trans he
  | established hanswers => cases (token_of_answers hanswers).symm.trans he
  | ended hended =>
    rcases hended with rfl | rfl
    · cases he
    · cases he
  | linked _ hlinked =>
    rcases hlinked with rfl | rfl
    · cases he
    · cases he
  | idle hnone => cases hnone.symm.trans he

theorem rilRequestSendSms_eq (s : RilData) (data : Option (List (Option CString))) :
    rilRequestSendSms s.sendSmsFuel s.outgoingSms t s.simIo.smscNumber data =
      some (smsOutcome s.outgoingSms (.rilRequestSendSms t s.simIo.smscNumber data)) := by
  cases hinfo : sendSmsInfo t.1 s.simIo.smscNumber data with
  | error frees =>
    have hfuel : 2 * s.outgoingSms.outgoingSms.length < s.sendSmsFuel := by
      unfold RilData.sendSmsFuel
      omega
    simp only [rilRequestSendSms, smsOutcome, hinfo]
    rw [rilRequestSendSmsNext_eq hfuel]
    rfl
  | ok info =>
    by_cases hbusy : s.outgoingSms.tokenOutgoingSms = rilTokenNull
    · rw [rilRequestSendSms_idle hinfo hbusy, rilRequestSendSmsNext_eq]
      · simp only [smsOutcome, hinfo]
        rw [if_neg (not_not.mpr hbusy)]
      · rw [List.length_cons, RilData.sendSmsFuel]
        omega
    · simp only [rilRequestSendSms, smsOutcome, hinfo]
      rw [if_pos hbusy, if_pos hbusy]

theorem sendSms_acts {s : SmsData} {number : CString} {data : Option (List (Option CString))} :
    Acts SmsEffect.isPacket s (smsOutcome s (.rilRequestSendSms t number data)) := by
  dsimp only [smsOutcome]
  cases hinfo : sendSmsInfo t.1 number data with
  | error frees => exact .inr ⟨_, List.mem_cons_self, rfl⟩
  | ok info =>
    obtain ⟨⟨pdu, hpdu⟩, htoken⟩ := sendSmsInfo_eq_ok hinfo
    dsimp only
    split_ifs with hbusy
    · left
      intro heq
      have hlength := congrArg (fun u => u.outgoingSms.length) heq
      simp [rilRequestSendSmsRegister] at hlength
    · rw [drain, if_neg (by simp [hpdu])]
      split_ifs with hrefused
      · exact .inr ⟨_, List.mem_append_left _ List.mem_cons_self, rfl⟩
      · left
        intro heq
        have hslot : info.token = s.tokenOutgoingSms := congrArg SmsData.tokenOutgoingSms heq
        rw [htoken, not_not.mp hbusy] at hslot
        exact t.2 hslot

theorem rilRequestSimIo_acts {s : SimIoData} {data : Option RilSimIoV6} :
    Acts SimIoEffect.isPacket s (rilRequestSimIo s t.1 data) := by
  unfold rilRequestSimIo
  cases simIoInfo t.1 data with
  | none => exact .inr ⟨_, List.mem_cons_self, rfl⟩
  | some info =>
    left
    intro heq
    have hlength := congrArg (fun u => u.simIo.length) heq
    dsimp only at hlength
    split_ifs at hlength <;> simp [rilRequestSimIoRegister] at hlength

end Modules

section Switch

variable {s : RilData} {t : RequestToken}

/-- A handler that stores its token changes a variable. -/
theorem acts_fresh {r : RilData × List RilEffect} (hfresh : ¬s.Waits t) (f : RilTokens → RilToken)
    (hr : f r.1.tokens = t) (hf : f s.tokens ∈ s.tokens.all) : Acts RilEffect.isPacket s r := by
  apply acts_stored f
  rw [hr]
  exact fun heq => hfresh (.token (heq ▸ hf))

theorem rilRequestGetImei_acts (hfresh : ¬s.Waits t) :
    Acts RilEffect.isPacket s (rilRequestGetImei s t) := by
  unfold rilRequestGetImei
  split_ifs
  · exact acts_completed List.mem_cons_self
  · exact acts_fresh hfresh RilTokens.getImei rfl (by simp [RilTokens.all])

theorem rilRequestGetImsi_acts (hfresh : ¬s.Waits t) :
    Acts RilEffect.isPacket s (rilRequestGetImsi s t) := by
  unfold rilRequestGetImsi
  split_ifs
  · exact acts_completed List.mem_cons_self
  · exact acts_fresh hfresh RilTokens.getImsi rfl (by simp [RilTokens.all])

theorem rilRequestBasebandVersion_acts (hfresh : ¬s.Waits t) :
    Acts RilEffect.isPacket s (rilRequestBasebandVersion s t) := by
  unfold rilRequestBasebandVersion
  split_ifs
  · exact acts_completed List.mem_cons_self
  · exact acts_fresh hfresh RilTokens.basebandVersion rfl (by simp [RilTokens.all])

theorem rilRequestRadioPower_acts (powerState : ℤ) :
    Acts RilEffect.isPacket s (rilRequestRadioPower s t powerState) := by
  unfold rilRequestRadioPower
  dsimp only
  split_ifs
  · exact acts_completed List.mem_cons_self
  · exact acts_completed (List.mem_cons_of_mem _ List.mem_cons_self)
  · exact acts_completed (List.mem_cons_of_mem _ (List.mem_append_right _ List.mem_cons_self))

theorem rilRequestEnterSimPuk_acts (hfresh : ¬s.Waits t) (data : Option (List CString)) :
    Acts RilEffect.isPacket s (rilRequestEnterSimPuk s t data) := by
  unfold rilRequestEnterSimPuk
  split
  · exact acts_fresh hfresh RilTokens.pukStatus rfl (by simp [RilTokens.all])
  · exact acts_completed List.mem_cons_self

theorem rilRequestQueryFacilityLock_acts (data : Option (List CString)) :
    Acts RilEffect.isPacket s (rilRequestQueryFacilityLock s t data) := by
  unfold rilRequestQueryFacilityLock
  split
  · split_ifs <;> exact acts_completed List.mem_cons_self
  · exact acts_completed List.mem_cons_self

theorem rilRequestSetFacilityLock_acts (hfresh : ¬s.Waits t) (data : Option (List CString)) :
    Acts RilEffect.isPacket s (rilRequestSetFacilityLock s t data) := by
  unfold rilRequestSetFacilityLock
  split
  · split_ifs
    all_goals first
      | exact acts_fresh hfresh RilTokens.setFacilityLock rfl (by simp [RilTokens.all])
      | exact acts_completed List.mem_cons_self
  · exact acts_completed List.mem_cons_self

theorem rilRequestChangeSimPin_acts (hfresh : ¬s.Waits t) (data : Option (List CString)) :
    Acts RilEffect.isPacket s (rilRequestChangeSimPin s t data) := by
  unfold rilRequestChangeSimPin
  split
  · exact acts_fresh hfresh RilTokens.changeSimPin rfl (by simp [RilTokens.all])
  · exact acts_completed List.mem_cons_self

theorem rilRequestOperator_acts : Acts RilEffect.isPacket s (rilRequestOperator s t) := by
  unfold rilRequestOperator
  split_ifs <;> exact acts_completed List.mem_cons_self

theorem rilRequestSetNetworkSelectionManual_acts (hfresh : ¬s.Waits t)
    (data : Option (CString × ℕ)) :
    Acts RilEffect.isPacket s (rilRequestSetNetworkSelectionManual s t data) := by
  unfold rilRequestSetNetworkSelectionManual
  split
  · exact acts_completed List.mem_cons_self
  · exact acts_fresh hfresh RilTokens.networkSelection rfl (by simp [RilTokens.all])

theorem rilRequestSetPreferredNetworkType_acts (data : Option ℤ) :
    Acts RilEffect.isPacket s (rilRequestSetPreferredNetworkType s t data) := by
  unfold rilRequestSetPreferredNetworkType
  split
  · exact acts_completed List.mem_cons_self
  · dsimp only
    split_ifs
    · exact acts_completed (List.mem_cons_of_mem _ List.mem_cons_self)
    · exact acts_completed List.mem_cons_self

theorem rilRequestSendUssd_acts (data : CString) :
    Acts RilEffect.isPacket s (rilRequestSendUssd s t data) := by
  unfold rilRequestSendUssd
  dsimp only
  split_ifs
  · exact acts_completed (List.mem_cons_of_mem _ List.mem_cons_self)
  · exact acts_completed (List.mem_cons_of_mem _ List.mem_cons_self)
  · exact acts_completed (List.mem_cons_of_mem _ List.mem_cons_self)
  · exact acts_completed List.mem_cons_self

/-- Every handler acts, unless it drops its token. -/
theorem rilRequestHandler_acts {request : RilRequest} (hfresh : ¬s.Waits t)
    (hnot : ¬PassedOver s request) : Acts RilEffect.isPacket s (rilRequestHandler s t request) := by
  have hgprs : ∀ c ∈ s.gprs.gprsConnections, c.token ≠ t :=
    fun c hc heq => hfresh (heq ▸ .connection hc)
  have hin {e : GprsEvent} (he : e.token = some t) :
      Acts RilEffect.isPacket s (s.inGprs (gprsHandler s.gprs e)) :=
    acts_module RilData.gprs .gprs rfl (fun _ => rfl) (gprsRequest_acts he hgprs)
  have hsms (data : Option (List (Option CString))) :
      Acts RilEffect.isPacket s (s.sendSms t data) := by
    unfold RilData.sendSms
    rw [rilRequestSendSms_eq]
    exact acts_module RilData.outgoingSms .sms rfl (fun _ => rfl) sendSms_acts
  cases request with
  | getImei => exact rilRequestGetImei_acts hfresh
  | getImsi => exact rilRequestGetImsi_acts hfresh
  | radioPower powerState => exact rilRequestRadioPower_acts powerState
  | basebandVersion => exact rilRequestBasebandVersion_acts hfresh
  | getSimStatus => exact acts_completed List.mem_cons_self
  | simIo data => exact acts_module RilData.simIo .simIo rfl (fun _ => rfl) rilRequestSimIo_acts
  | enterSimPin pointerLength pin =>
    exact acts_fresh hfresh RilTokens.pinStatus rfl (by simp [RilTokens.all])
  | enterSimPuk data => exact rilRequestEnterSimPuk_acts hfresh data
  | queryFacilityLock data => exact rilRequestQueryFacilityLock_acts data
  | setFacilityLock data => exact rilRequestSetFacilityLock_acts hfresh data
  | changeSimPin data => exact rilRequestChangeSimPin_acts hfresh data
  | operator => exact rilRequestOperator_acts
  | voiceRegistrationState => exact acts_completed List.mem_cons_self
  | dataRegistrationState => exact acts_completed List.mem_cons_self
  | queryAvailableNetworks =>
    exact acts_fresh hfresh RilTokens.queryAvailNetworks rfl (by simp [RilTokens.all])
  | setNetworkSelectionAutomatic =>
    exact acts_fresh hfresh RilTokens.networkSelection rfl (by simp [RilTokens.all])
  | setNetworkSelectionManual data => exact rilRequestSetNetworkSelectionManual_acts hfresh data
  | queryNetworkSelectionMode => exact acts_completed List.mem_cons_self
  | getPreferredNetworkType => exact acts_completed List.mem_cons_self
  | setPreferredNetworkType data => exact rilRequestSetPreferredNetworkType_acts data
  | sendSms data => exact hsms data
  | sendSmsExpectMore data => exact hsms data
  | smsAcknowledge => exact acts_completed List.mem_cons_self
  | calls c =>
    apply acts_module RilData.calls .calls rfl fun _ => rfl
    apply callModuleRequest_acts
    · intro k hk
      by_contra hkeeps
      exact hnot ⟨k, congrArg RilRequest.calls hk, hkeeps⟩
    · exact fun heq => hfresh (heq ▸ .dtmfStart)
    · exact fun heq => hfresh (heq ▸ .dtmfStop)
  | setupDataCall data allocated iface => exact hin (e := .setupDataCall t data allocated iface) rfl
  | deactivateDataCall cid => exact hin (e := .deactivateDataCall t cid) rfl
  | lastDataCallFailCause => exact hin (e := .lastDataCallFailCause t) rfl
  | dataCallList => exact hin (e := .dataCallList t) rfl
  | setMute mute => exact acts_completed (List.mem_cons_of_mem _ List.mem_cons_self)
  | sendUssd data => exact rilRequestSendUssd_acts data
  | cancelUssd => exact acts_completed (List.mem_cons_of_mem _ List.mem_cons_self)
  | screenState status => exact acts_completed (List.mem_append_right _ List.mem_cons_self)
  | other request => exact acts_completed List.mem_cons_self

/-- A request that is passed over changes nothing. -/
theorem callRequest_passedOver {s : CallData} {c : CallRequest} (hnot : ¬KeepsToken s c) :
    callRequestHandler s t.1 c = (s, []) := by
  cases c with
  | answer =>
    apply answerCalls_of_none
    intro i _ hi
    exact hnot (has_iff.mpr ⟨i, hi⟩)
  | switchWaitingOrHoldingAndActive =>
    unfold KeepsToken at hnot
    push Not at hnot
    obtain ⟨hactive, hholding, hwaiting, htokens⟩ := hnot
    unfold callRequestHandler rilRequestSwitchWaitingOrHoldingAndActive
    dsimp only
    cases hfind : findCalls [.active, .holding, .waiting] s with
    | none =>
      obtain ⟨i, c, hlive, hstate, htoken⟩ := findCalls_eq_none_iff.mp hfind
      simp only [List.mem_cons, List.not_mem_nil, or_false] at hstate
      rcases hstate with hstate | hstate | hstate
      · exact absurd ⟨i, c, hlive, hstate⟩ hactive
      · exact absurd ⟨i, c, hlive, hstate⟩ hholding
      · exact absurd (htokens i c hlive hstate) htoken
    | some found =>
      have hnoActive : found .active = none := (found_eq_none_iff hfind (by simp)).mpr hactive
      have hnoHolding : found .holding = none := (found_eq_none_iff hfind (by simp)).mpr hholding
      cases hfound : found .waiting with
      | none => exact absurd hwaiting ((found_eq_none_iff hfind (by simp)).mp hfound)
      | some p => simp only [hnoActive, hnoHolding, hfound]
  | _ => exact absurd trivial hnot

theorem rilRequestHandler_passedOver {request : RilRequest} (h : PassedOver s request) :
    rilRequestHandler s t request = (s, []) := by
  obtain ⟨c, rfl, hnot⟩ := h
  have hhandler := callRequest_passedOver (t := t) hnot
  dsimp only [rilRequestHandler, callModuleRequestHandler, CallModule.lift, RilData.inCalls]
  rw [hhandler]
  rfl

/-- **A request is merely refused**, while the modem is not there, exactly if its handler passes it
over. -/
theorem rilOnRequest_refused_iff (request : RilRequest) (hcheck : s.rilModemCheck < 0)
    (hfresh : ¬s.Waits t) : rilOnRequest s request t = (s, [.complete ⟨t, .radioNotAvailable, none⟩]) ↔
      PassedOver s request := by
  unfold rilOnRequest
  dsimp only
  rw [if_pos hcheck]
  constructor
  · intro h
    by_contra hnot
    rcases rilRequestHandler_acts hfresh hnot with hchanged | ⟨e, he, hpacket⟩
    · exact hchanged (congrArg Prod.fst h)
    · have hout : s.ipcSend (rilRequestHandler s t request).2 = [] :=
        (List.cons.inj (congrArg Prod.snd h)).2
      have hmem : e ∈ s.ipcSend (rilRequestHandler s t request).2 :=
        List.mem_filter.mpr ⟨he, by simp [hpacket]⟩
      rw [hout] at hmem
      cases hmem
  · intro h
    rw [rilRequestHandler_passedOver h]
    rfl

theorem init_waits {t : RilToken} (h : RilData.init.Waits t) : t = rilTokenNull := by
  cases h with
  | token h => simpa [RilTokens.all, RilData.init] using h
  | call h =>
    obtain ⟨i, hi⟩ := h
    cases hi
  | message h | connection h | simIoEntry h => exact absurd h List.not_mem_nil
  | _ => rfl

/-- Nothing rings, and ANSWER is refused. -/
theorem rilOnRequest_refused_answer :
    rilOnRequest .init (.calls (.control .answer)) 1 =
      (.init, [.complete ⟨1, .radioNotAvailable, none⟩]) := by
  have hcheck : RilData.init.rilModemCheck < 0 := by decide
  have hfresh : ¬RilData.init.Waits 1 := fun h => Nat.one_ne_zero (init_waits h)
  apply (rilOnRequest_refused_iff (t := ⟨1, by decide⟩) (.calls (.control .answer)) hcheck hfresh).mpr
  refine ⟨.answer, rfl, ?_⟩
  rintro ⟨i, c, ⟨hc, -⟩, -⟩
  cases hc

/-- Without a modem, the status of the SIM card is refused and reported. -/
theorem not_refused_getSimStatus :
    ¬∀ (s : RilData) (request : RilRequest) (t : RequestToken), s.rilModemCheck < 0 →
      rilOnRequest s request t = (s, [.complete ⟨t, .radioNotAvailable, none⟩]) := by
  intro h
  have hrefused := h .init .getSimStatus ⟨1, by decide⟩ (by decide)
  exact absurd (congrArg (fun r => r.2.length) hrefused) (by decide)

end Switch

end Mocha.Ril
