import Mocha.Ril.OutsideLedger

/-! The tokens along the runs of the telephony layer: each is answered at most once and does not get
lost, but for the steps that are known to do so, and the layer never answers a token that no request
came with. -/
namespace Mocha.Ril
open Mocha.Lib Mocha.Ipc

/-- The telephony layer when `RIL_Init` returns, with the client that it has created. -/
def RilExchange.init (bAutoAttach : UInt32) (state : RilClientState) : RilExchange :=
  ⟨rilInit bAutoAttach (some ⟨state, true⟩), fun _ => false⟩

section Step

variable {s u : RilExchange} {a : RilEvent × List SystemEffect}

/-- **The ledger of a step of the telephony layer.** -/
theorem exchangeStep_entry (hs : s.ril.WellFormed) (h : RilExchangeStep s a u) :
    RilEntry s a.1 s.held u.held (a.1.token.toList : List RilToken)
      (a.2.filterMap SystemEffect.answered : List RilToken) := by
  obtain ⟨e, out⟩ := a
  cases hmodule : e.moduleEvent? with
  | some e' =>
    obtain ⟨m, out', hu, hstep, rfl⟩ := rilStep_module hs.connected hmodule h.1
    have hanswered : ((s.ril.refusal e ++ out').map fun e => SystemEffect.identity (.ril e)).filterMap
        SystemEffect.answered =
          (s.ril.refusal e).filterMap RilEffect.answered ++ out'.filterMap RilEffect.answered := by
      rw [List.filterMap_map, ← List.filterMap_append]
      rfl
    dsimp only
    rw [hanswered, brought_of_module hmodule]
    exact refusal_entry (module_entry hs hmodule hstep hu h.2)
  | none =>
    cases hidentity : e.identityEvent? with
    | some e' => exact identity_entry hs.connected hidentity h
    | none =>
      cases e with
      | request request t => exact request_entry hs.connected hmodule hidentity h
      | callback c => exact callback_entry hs.connected hmodule hidentity h
      | clientState state =>
        obtain ⟨hril, hout⟩ := Prod.mk.inj (Option.some.inj h.1)
        dsimp only at hril hout ⊢
        rw [← hout]
        exact outside_quiet (hril ▸ rfl) (hril ▸ rfl) (funext fun k => h.2 k) .same
      | loadSecData data => cases hidentity

/-- What the queues of the modules keep to. -/
def RilModules.WellFormed (m : RilModules) : Prop :=
  m.outgoingSms.WellFormed ∧ m.simIo.WellFormed

theorem modulesStep_wellFormed {m m' : RilModules} {a : ModuleEvent × List RilEffect}
    (hm : m.WellFormed) (h : ModulesStep m a m') : m'.WellFormed := by
  obtain ⟨hsms, hsimIo⟩ := hm
  cases h with
  | calls _ | gprs _ => exact ⟨hsms, hsimIo⟩
  | sendSms h | sendStatus h => exact ⟨smsStep_wellFormed hsms h, hsimIo⟩
  | simIo h => exact ⟨hsms, (simIoStep_spec hsimIo h).1⟩

theorem exchangeStep_wellFormed (hs : s.ril.WellFormed) (h : RilExchangeStep s a u) :
    u.ril.WellFormed := by
  obtain ⟨hsms, hsimIo⟩ := modulesComponent.step_keeps (I := RilModules.WellFormed)
    (fun _ _ _ hm h => modulesStep_wellFormed hm h) ⟨hs.connected, h.1⟩ ⟨hs.outgoingSms, hs.simIo⟩
  exact ⟨(rilStep_change hs.connected h.1).connected hs.connected, hsms, hsimIo⟩

end Step

/-- The ledger of the tokens, where null does not count. -/
def rilLedger : Lib.Ledger RilExchangeStep RilToken where
  inv s := s.ril.WellFormed
  held := RilExchange.held
  brought a := a.1.token.toList
  paid a := a.2.filterMap SystemEffect.answered
  loses s a t := Drops s a.1 t ∨ t = rilTokenNull
  makes s a t := Doubles s a.1 t ∨ t = rilTokenNull
  inv_step := exchangeStep_wellFormed
  entry := exchangeStep_entry

section Remembered

variable {s u : RilData} {e : RilEvent} {out : List SystemEffect}

theorem callIndication_tones {s : CallData} (ind : CallIndication) :
    SameTones s (callIndicationHandler s ind).1 := by
  by_cases hstart : ∃ reason, ind = .dtmfStart reason
  · obtain ⟨reason, rfl⟩ := hstart
    exact ⟨rfl, rfl⟩
  by_cases hstop : ∃ reason, ind = .dtmfStop reason
  · obtain ⟨reason, rfl⟩ := hstop
    exact ⟨rfl, rfl⟩
  exact (callIndication_settledAt_of_ne (fun reason h => hstart ⟨reason, h⟩)
    fun reason h => hstop ⟨reason, h⟩).forget.sameTones

/-- The variables of the tones are left alone, or get the token of a request. -/
theorem callModule_tones {s calls : CallModule} {c : CallModuleEvent} {out : List CallModuleEffect}
    (h : CallModuleStep s (c, out) calls) :
    SameTones s.table calls.table ∨ ∃ t data, c = .request t data ∧
      (calls.table.tokenDtmfStart = s.table.tokenDtmfStart ∨ calls.table.tokenDtmfStart = t.1) ∧
      (calls.table.tokenDtmfStop = s.table.tokenDtmfStop ∨ calls.table.tokenDtmfStop = t.1) := by
  have h : callModuleHandler s c = (calls, out) := h
  cases c with
  | indication ind =>
    obtain ⟨rfl, -⟩ := Prod.mk.inj h
    exact .inl (callIndication_tones ind)
  | request t c =>
    cases c with
    | control c =>
      obtain ⟨rfl, -⟩ := Prod.mk.inj h
      obtain ⟨-, ⟨htones, -⟩, -⟩ := callRequest_ledger (s := s.table) t.2 c
      exact .inl htones
    | getCurrentCalls | lastCallFailCause | dtmf =>
      obtain ⟨rfl, -⟩ := Prod.mk.inj h
      exact .inl ⟨rfl, rfl⟩
    | dtmfStart data =>
      dsimp only [callModuleHandler, callModuleRequestHandler, rilRequestDtmfStart] at h
      split at h
      · obtain ⟨rfl, -⟩ := Prod.mk.inj h
        exact .inr ⟨t, _, rfl, .inr rfl, .inl rfl⟩
      · obtain ⟨rfl, -⟩ := Prod.mk.inj h
        exact .inl ⟨rfl, rfl⟩
    | dtmfStop =>
      dsimp only [callModuleHandler, callModuleRequestHandler, rilRequestDtmfStop] at h
      split at h
      · obtain ⟨rfl, -⟩ := Prod.mk.inj h
        exact .inr ⟨t, _, rfl, .inl rfl, .inr rfl⟩
      · obtain ⟨rfl, -⟩ := Prod.mk.inj h
        exact .inl ⟨rfl, rfl⟩

/-- A change of the tokens of the identities leaves the variable of a search alone. -/
theorem search_of_others (h : u.tokens.others = s.tokens.others) :
    u.tokens.queryAvailNetworks = s.tokens.queryAvailNetworks := by
  have hvariable : u.tokens.others.queryAvailNetworks = s.tokens.others.queryAvailNetworks := by rw [h]
  exact hvariable

theorem lockStatus_search {completed : List RilToken} (h : LockStatus s u completed) :
    u.tokens.queryAvailNetworks = s.tokens.queryAvailNetworks := by
  cases h with
  | nothing hu hcompleted => rw [hu]
  | @answered k r hr hu hcompleted =>
    have hr : r.1.tokens.queryAvailNetworks = s.tokens.queryAvailNetworks := by
      rcases hr with ⟨hsame, -⟩ | ⟨simState, rfl⟩
      · rw [hsame]
      · exact search_of_others (ipcSimStatus_others s simState)
    rw [hu]
    exact (setChv_others r.1.tokens rilTokenNull k).2.2.trans hr

/-- No callback outside of the modules writes to the variable of a search. -/
theorem callback_search {c : RilCallback} (hmodule : c.moduleEvent? = none)
    (hidentity : (RilEvent.callback c).identityEvent? = none)
    (h : ipcInvokeRilCb s c = some (u, out)) :
    u.tokens.queryAvailNetworks = s.tokens.queryAvailNetworks := by
  cases c with
  | calls | proto | simIoResponse | simSmscNumber | nettextSend => cases hmodule
  | cpSystemStart | simOpen | simStatus => cases hidentity
  | networkRadioInfo rxLevel =>
    have heq : ipcNetworkRadioInfo s rxLevel = (u, out) := Option.some.inj h
    unfold ipcNetworkRadioInfo at heq
    split at heq <;> cases heq <;> rfl
  | networkNitzInfo nitz =>
    have heq : ipcNetworkNitzInfo s nitz = (u, out) := Option.some.inj h
    unfold ipcNetworkNitzInfo at heq
    split_ifs at heq <;> cases heq <;> rfl
  | networkSelect netInfo =>
    obtain ⟨r, hr, heq⟩ := Option.map_eq_some_iff.mp h
    obtain ⟨rfl, -⟩ := ipcNetworkSelect_eq_some.mp hr
    obtain ⟨rfl, -⟩ := Prod.mk.inj heq
    unfold networkSelected
    dsimp only
    split_ifs
    · rw [completeSelection_tokens]
    · rfl
  | networkSelectCnf netInfo =>
    obtain ⟨rfl, -⟩ := Prod.mk.inj (Option.some.inj h)
    unfold ipcNetworkSelectCnf
    rw [completeSelection_tokens]
  | lockStatus ev =>
    obtain ⟨rfl, -⟩ := Prod.mk.inj (Option.some.inj h)
    exact lockStatus_search (ipcLockStatus_lockStatus s ev)
  | nettextIncoming info =>
    obtain ⟨p, -, hp⟩ := Option.map_eq_some_iff.mp h
    obtain ⟨rfl, -⟩ := Prod.mk.inj hp
    rfl
  | ssUssd fresh ssResp =>
    obtain ⟨p, hp, heq⟩ := Option.map_eq_some_iff.mp h
    obtain ⟨rfl, -⟩ := Prod.mk.inj heq
    obtain ⟨ussdState, hussd⟩ := ipcSsUssdResponse_state hp
    rw [hussd]
  | networkCellInfo _ | networkSearchCnf _ | ssError _ | lbsState _ =>
    obtain ⟨rfl, -⟩ := Prod.mk.inj (Option.some.inj h)
    rfl

/-- The variable of a search is left alone outside of the modules, or gets the token of a request. -/
theorem rilStep_search (hs : s.Connected) (hmodule : e.moduleEvent? = none)
    (h : RilStep s (e, out) u) : u.tokens.queryAvailNetworks = s.tokens.queryAvailNetworks ∨
      e.token = some u.tokens.queryAvailNetworks := by
  cases hidentity : e.identityEvent? with
  | some e' =>
    obtain ⟨hril, -⟩ := rilStep_identity hs hidentity h
    exact .inl (hril ▸ search_of_others (identityHandler_others s e'))
  | none =>
    cases e with
    | request request t =>
      obtain ⟨heq, -⟩ := rilStep_request h
      have hril : (rilRequestHandler s t.1 request).1 = u := congrArg Prod.fst heq
      subst hril
      by_cases hsearch : request = .queryAvailableNetworks
      · subst hsearch
        exact .inr rfl
      refine .inl ?_
      cases hchv : request.chvKind? with
      | some k =>
        rw [(rilRequestHandler_chv hchv).1]
        exact (setChv_others s.tokens t.1 k).2.2
      | none =>
        by_cases hselects : request.Selects s
        · rw [(rilRequestHandler_selects hselects).1]
        · rw [(rilRequestHandler_quiet hmodule hidentity hchv hselects hsearch).1]
    | callback c => exact .inl (callback_search hmodule hidentity h)
    | clientState state =>
      obtain ⟨rfl, -⟩ := Prod.mk.inj (Option.some.inj h)
      exact .inl rfl
    | loadSecData data => cases hidentity

/-- The three variables are left alone, or get the token that an event brings in. -/
theorem rilStep_remembered (hs : s.Connected) (h : RilStep s (e, out) u) (k : RememberedKind) :
    u.remembered k = s.remembered k ∨ e.token = some (u.remembered k) := by
  cases hmodule : e.moduleEvent? with
  | none =>
    have hcalls : u.calls = s.calls :=
      congrArg RilModules.calls (rilStep_outside hs hmodule h).modules
    cases k with
    | search => exact rilStep_search hs hmodule h
    | dtmfStart | dtmfStop => exact .inl (by dsimp only [RilData.remembered]; rw [hcalls])
  | some e' =>
    obtain ⟨m, out', rfl, hstep, -⟩ := rilStep_module hs hmodule h
    cases hstep with
    | @calls c out calls hstep =>
      rcases callModule_tones hstep with htones | ⟨t, data, rfl, hstart, hstop⟩
      · cases k with
        | search => exact .inl rfl
        | dtmfStart => exact .inl htones.1
        | dtmfStop => exact .inl htones.2
      · obtain ⟨t', ht, rfl⟩ := request_of_calls hmodule
        have htoken : ∀ t'' : RilToken, t'' = t.1 → some t'.1 = some t'' :=
          fun t'' h => congrArg some (ht.trans h.symm)
        cases k with
        | search => exact .inl rfl
        | dtmfStart => exact hstart.imp_right (htoken _)
        | dtmfStop => exact hstop.imp_right (htoken _)
    | sendSms _ | sendStatus _ | gprs _ | simIo _ => cases k <;> exact .inl rfl

end Remembered

section Runs

variable {s : RilExchange} {tr : List (RilEvent × List SystemEffect)} {t : RilToken}
  {bAutoAttach : UInt32} {state : RilClientState}

theorem init_wellFormed : (RilExchange.init bAutoAttach state).ril.WellFormed where
  connected := rfl
  outgoingSms := ⟨fun _ h => absurd h List.not_mem_nil, fun _ => rfl⟩
  simIo := SimIoData.init_wellFormed

/-- Nothing waits when `RIL_Init` returns. -/
theorem init_held (h : t ∈ (RilExchange.init bAutoAttach state).held) : t = rilTokenNull := by
  obtain ⟨p, -, hp⟩ := Multiset.mem_sum.mp h
  cases p with
  | identity => exact absurd hp (Multiset.notMem_zero t)
  | chv =>
    have hnull : (RilExchange.init bAutoAttach state).heldIn .chv =
        Multiset.replicate 4 rilTokenNull := rfl
    exact Multiset.eq_of_mem_replicate (hnull ▸ hp)
  | selection => exact Multiset.mem_singleton.mp hp
  | remembered k => exact absurd hp (Multiset.notMem_zero t)
  | calls =>
    obtain ⟨i, hi⟩ := mem_held.mp hp
    exact nomatch hi
  | outgoingSms => exact List.mem_singleton.mp (Multiset.mem_coe.mp hp)
  | gprs | simIo => exact absurd (Multiset.mem_coe.mp hp) List.not_mem_nil

theorem init_count (ht : t ≠ rilTokenNull) :
    (rilLedger.held (.init bAutoAttach state)).count t = 0 :=
  Multiset.count_eq_zero.mpr fun h => ht (init_held h)

theorem rilIssued_eq : rilIssued tr = tr.flatMap rilLedger.brought :=
  filterMap_inputs RilEvent.token tr

theorem rilAnswered_eq : rilAnswered tr = tr.flatMap rilLedger.paid :=
  filterMap_outputs SystemEffect.answered tr

/-- **No request is answered twice**: in a run from a start with a client in which no step uses its token
once too often, a token waits and is completed, taken together, no more often than requests came with
it. -/
theorem token_answered_once (ht : t ≠ rilTokenNull)
    (h : Run (RilExchangeStep.when fun s a => ¬Doubles s a.1 t) (.init bAutoAttach state) tr s) :
    s.held.count t + (rilAnswered tr).count t ≤ (rilIssued tr).count t := by
  have hcount := rilLedger.count_le init_wellFormed
    (h.mono fun _ _ _ h => ⟨fun hdouble => hdouble.elim h.1 ht, h.2⟩)
  rw [init_count ht, zero_add, ← rilIssued_eq, ← rilAnswered_eq] at hcount
  exact hcount

/-- The IMEI is asked for while the client is ready, and waits until the modem starts. -/
theorem token_answered_once_imei :
    let e : RilEvent := .request .getImei ⟨5, by decide⟩
    let r := rilOnRequest (RilExchange.init 1 .ready).ril .getImei 5
    (RilExchange.mk r.1 fun _ => false).held.count 5 + (rilAnswered [(e, (ofRil r).2)]).count 5 ≤
      (rilIssued [(e, (ofRil r).2)]).count 5 := by
  intro e r
  have hstep : RilExchangeStep (.init 1 .ready) (e, (ofRil r).2) ⟨r.1, fun _ => false⟩ :=
    ⟨rfl, fun _ => rfl⟩
  have he : e = .request .getImei ⟨5, by decide⟩ := rfl
  clear_value e
  refine token_answered_once (by decide) (.one ⟨fun h => ?_, hstep⟩)
  generalize ht : (5 : RilToken) = t at h
  cases h with
  | refused hneg => exact absurd hneg (by decide)
  | longPin _ | answer _ => cases he
  | unasked h _ =>
    subst he
    cases h

/-- **No request gets lost**: in a run from a start with a client in which no step loses its token, a token
waits or has been completed as often as requests came with it. -/
theorem token_kept (ht : t ≠ rilTokenNull)
    (h : Run (RilExchangeStep.when fun s a => ¬Drops s a.1 t) (.init bAutoAttach state) tr s) :
    (rilIssued tr).count t ≤ s.held.count t + (rilAnswered tr).count t := by
  have hcount := rilLedger.le_count init_wellFormed
    (h.mono fun _ _ _ h => ⟨fun hdrop => hdrop.elim h.1 ht, h.2⟩)
  rw [init_count ht, zero_add, ← rilIssued_eq, ← rilAnswered_eq] at hcount
  exact hcount

/-- The same request is stored where nothing waits. -/
theorem token_kept_imei :
    let e : RilEvent := .request .getImei ⟨5, by decide⟩
    let r := rilOnRequest (RilExchange.init 1 .ready).ril .getImei 5
    (rilIssued [(e, (ofRil r).2)]).count 5 ≤
      (RilExchange.mk r.1 fun _ => false).held.count 5 + (rilAnswered [(e, (ofRil r).2)]).count 5 := by
  intro e r
  have hstep : RilExchangeStep (.init 1 .ready) (e, (ofRil r).2) ⟨r.1, fun _ => false⟩ :=
    ⟨rfl, fun _ => rfl⟩
  have he : e = .request .getImei ⟨5, by decide⟩ := rfl
  clear_value e
  refine token_kept (by decide) (.one ⟨fun h => ?_, hstep⟩)
  generalize ht : (5 : RilToken) = t at h
  cases h with
  | @identity e e' hidentity _ =>
    subst he
    obtain rfl : IdentityEvent.request .imei _ = e' := Option.some.inj hidentity
    exact absurd ht (by decide)
  | lockStatus _ _ => cases he
  | selection _ => exact absurd ht (by decide)
  | chv h => cases he; cases h
  | remembered h _ => subst he; cases h
  | call _ => cases he
  | malformed h _ => subst he; cases h
  | connection h _ => subst he; cases h

/-- Whether requests are unanswered can be recorded along every run. -/
theorem exchange_run {s : RilExchange} {u : RilData} (h : Run RilStep s.ril tr u) :
    ∃ w : RilExchange, w.ril = u ∧ Run RilExchangeStep s tr w := by
  induction h with
  | nil => exact ⟨s, rfl, .nil⟩
  | @snoc tr v u a _ hstep ih =>
    obtain ⟨w, rfl, hw⟩ := ih
    exact ⟨⟨u, fun k => (a.1.awaits w.ril k).getD (w.awaited k)⟩, rfl, hw.snoc ⟨hstep, fun _ => rfl⟩⟩

/-- The tokens that wait, that are completed, or that stay in one of the three variables, came with a
request. -/
def Authentic (tr : List (RilEvent × List SystemEffect)) (s : RilExchange) : Prop :=
  ∀ t, t ∈ s.held ∨ t ∈ rilAnswered tr ∨ (∃ k, t = s.ril.remembered k) →
    t = rilTokenNull ∨ t ∈ rilIssued tr

theorem doubles_source {a : RilEvent × List SystemEffect} (h : Doubles s a.1 t) :
    t ∈ a.1.token.toList ∨ ∃ k, t = s.ril.remembered k := by
  obtain ⟨e, out⟩ := a
  cases h with
  | refused _ | longPin _ | answer _ => exact .inl (List.mem_singleton.mpr rfl)
  | @unasked e k _ _ => exact .inr ⟨k, rfl⟩

theorem exchangeStep_authentic {a : RilEvent × List SystemEffect} {u : RilExchange}
    (hs : s.ril.WellFormed) (hauthentic : Authentic tr s) (h : RilExchangeStep s a u) :
    Authentic (tr ++ [a]) u := by
  have hissued : rilIssued (tr ++ [a]) = rilIssued tr ++ a.1.token.toList := by
    rw [rilIssued_eq, List.flatMap_append, ← rilIssued_eq, List.flatMap_singleton]
    rfl
  have hanswered : rilAnswered (tr ++ [a]) =
      rilAnswered tr ++ a.2.filterMap SystemEffect.answered := by
    rw [rilAnswered_eq, List.flatMap_append, ← rilAnswered_eq, List.flatMap_singleton]
    rfl
  have hbefore : ∀ {t}, (t ∈ s.held ∨ t ∈ rilAnswered tr ∨ ∃ k, t = s.ril.remembered k) →
      t = rilTokenNull ∨ t ∈ rilIssued (tr ++ [a]) := by
    intro t ht
    rw [hissued, List.mem_append]
    exact (hauthentic t ht).imp_right .inl
  have hnew : ∀ {t}, t ∈ a.1.token.toList → t ∈ rilIssued (tr ++ [a]) := by
    intro t ht
    rw [hissued, List.mem_append]
    exact .inr ht
  have hentry : ∀ {t}, (t ∈ u.held ∨ t ∈ a.2.filterMap SystemEffect.answered) →
      t = rilTokenNull ∨ t ∈ rilIssued (tr ++ [a]) := by
    intro t ht
    rcases (exchangeStep_entry hs h).source ht with hheld | hbrought | hdouble | hnull
    · exact hbefore (.inl hheld)
    · exact .inr (hnew hbrought)
    · rcases doubles_source hdouble with hbrought | hkept
      · exact .inr (hnew hbrought)
      · exact hbefore (.inr (.inr hkept))
    · exact .inl hnull
  rintro t (hheld | hcompleted | ⟨k, rfl⟩)
  · exact hentry (.inl hheld)
  · rw [hanswered, List.mem_append] at hcompleted
    rcases hcompleted with hold | hnow
    · exact hbefore (.inr (.inl hold))
    · exact hentry (.inr hnow)
  · rcases rilStep_remembered hs.connected h.1 k with hsame | htoken
    · rw [hsame]
      exact hbefore (.inr (.inr ⟨k, rfl⟩))
    · exact .inr (hnew (by rw [htoken]; exact List.mem_singleton.mpr rfl))

/-- What waits after a run, and what was completed in it, came with its requests. -/
theorem run_authentic {u : RilData} (h : Run RilStep (rilInit bAutoAttach (some ⟨state, true⟩)) tr u) :
    ∃ w : RilExchange, w.ril = u ∧ Authentic tr w := by
  obtain ⟨w, hril, hw⟩ := exchange_run (s := .init bAutoAttach state) h
  have hauthentic := hw.invariant_trace (fun tr s => s.ril.WellFormed ∧ Authentic tr s)
    (fun _ _ _ _ hs h => ⟨exchangeStep_wellFormed hs.1 h, exchangeStep_authentic hs.1 hs.2 h⟩)
    ⟨init_wellFormed, ?_⟩
  · exact ⟨w, hril, hauthentic.2⟩
  · rintro t (hheld | hcompleted | ⟨k, rfl⟩)
    · exact .inl (init_held hheld)
    · exact absurd hcompleted List.not_mem_nil
    · cases k <;> exact .inl rfl

/-- **Nothing is answered that was not requested**: in every run from a start with a client, whatever the
modem sends, each token that is completed is null or that of a request of the run. -/
theorem rilAnswered_issued {u : RilData}
    (h : Run RilStep (rilInit bAutoAttach (some ⟨state, true⟩)) tr u) :
    ∀ t ∈ rilAnswered tr, t = rilTokenNull ∨ t ∈ rilIssued tr := by
  obtain ⟨w, -, hauthentic⟩ := run_authentic h
  exact fun t ht => hauthentic t (.inr (.inl ht))

/-- A version request that comes before the modem has started. -/
theorem rilAnswered_issued_version :
    let r := rilOnRequest (rilInit 1 (some ⟨.created, true⟩)) .basebandVersion 5
    ∀ t ∈ rilAnswered [(.request .basebandVersion ⟨5, by decide⟩, (ofRil r).2)],
      t = rilTokenNull ∨ t ∈ rilIssued [(.request .basebandVersion ⟨5, by decide⟩, (ofRil r).2)] := by
  intro r
  have hstep : RilStep (rilInit 1 (some ⟨.created, true⟩))
      (.request .basebandVersion ⟨5, by decide⟩, (ofRil r).2) r.1 := rfl
  exact rilAnswered_issued (.one hstep)

end Runs

end Mocha.Ril
