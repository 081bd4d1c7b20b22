import Mocha.Ril.SystemLedger

/-! What the handlers outside of the modules do to the tokens: those of the identities, the requests
with a PIN, and the search and the selection of a network. -/
namespace Mocha.Ril
open Mocha.Lib Mocha.Ipc

/-- The variables without those for an identity or a version. -/
def RilTokens.others (ts : RilTokens) : RilTokens :=
  { ts with getImei := rilTokenNull, getImsi := rilTokenNull, basebandVersion := rilTokenNull }

section Others

variable {s : RilData}

theorem rilTokensCheck_others (s : RilData) :
    (rilTokensCheck s).1.tokens.others = s.tokens.others := by
  have hversion : ∀ s, (checkVersion s).1.tokens.others = s.tokens.others := by
    intro s
    unfold checkVersion rilRequestBasebandVersion
    dsimp only
    split_ifs <;> rfl
  have himei : ∀ s, (checkImei s).1.tokens.others = s.tokens.others := by
    intro s
    unfold checkImei rilRequestGetImei
    dsimp only
    split_ifs <;> rfl
  have himsi : ∀ s, (checkImsi s).1.tokens.others = s.tokens.others := by
    intro s
    unfold checkImsi rilRequestGetImsi
    dsimp only
    split_ifs <;> rfl
  rw [rilTokensCheck_eq_parts]
  exact (himsi _).trans ((himei _).trans (hversion s))

theorem ipcSimStatus_others (s : RilData) (simState : RilSimState) :
    (ipcSimStatus s simState).1.tokens.others = s.tokens.others := by
  have hupdate : (rilStateUpdate s simState).1.tokens.others = s.tokens.others := by
    unfold rilStateUpdate
    dsimp only
    by_cases hpower : s.state.powerState ≠ .normal
    · rw [if_pos hpower]
    · rw [if_neg hpower]
      exact rilTokensCheck_others _
  unfold ipcSimStatus
  dsimp only
  split_ifs
  · exact hupdate
  · exact hupdate

theorem identityHandler_others (s : RilData) (e : IdentityEvent) :
    (identityHandler s e).1.tokens.others = s.tokens.others := by
  cases e with
  | request k t =>
    cases k with
    | imei =>
      dsimp only [identityHandler, rilRequestIdentity, rilRequestGetImei]
      split_ifs <;> rfl
    | imsi =>
      dsimp only [identityHandler, rilRequestIdentity, rilRequestGetImsi]
      split_ifs <;> rfl
    | basebandVersion =>
      dsimp only [identityHandler, rilRequestIdentity, rilRequestBasebandVersion]
      split_ifs <;> rfl
  | radioPower t powerState =>
    have hstart : ∀ s, (networkStart s).1.tokens.others = s.tokens.others := by
      intro s
      unfold networkStart
      dsimp only
      split_ifs
      · exact ipcSimStatus_others s .ready
      · rfl
    dsimp only [identityHandler, rilRequestRadioPower]
    split_ifs
    · rfl
    · rfl
    · exact hstart _
  | loadSecData data => rfl
  | cpSystemStart desc datasize => exact rilTokensCheck_others _
  | simOpen ev stack =>
    have hopen : (if ev.eventStatus = simCardNotPresent then ipcSimStatus s .absent
        else if ev.eventStatus = simOk then ipcSimStatus s .ready else (s, [])).1.tokens.others =
          s.tokens.others := by
      split_ifs
      · exact ipcSimStatus_others s .absent
      · exact ipcSimStatus_others s .ready
      · rfl
    dsimp only [identityHandler, ipcSimOpen, andThen]
    generalize (if ev.eventStatus = simCardNotPresent then ipcSimStatus s .absent
      else if ev.eventStatus = simOk then ipcSimStatus s .ready else (s, [])) = r at hopen ⊢
    exact (rilTokensCheck_others _).trans hopen
  | simStatus simState => exact ipcSimStatus_others s simState

end Others

/-- The places of tokens outside of the modules. -/
def HeldPart.IsOutside (p : HeldPart) : Prop :=
  p = .identity ∨ p = .chv ∨ p = .selection ∨ p = .remembered .search

section Outside

variable {s u : RilExchange} {e : RilEvent} {out : List SystemEffect} {t : FrameworkToken}
  {i o : List RilToken}

/-- A step that leaves the modules alone, and changes what is held in one place. -/
theorem outside_part {D E : RilToken → Prop} (p : HeldPart) (hmodules : u.ril.modules = s.ril.modules)
    (htones : ∀ k, k ≠ .search → u.awaited k = s.awaited k)
    (hothers : ∀ q : HeldPart, q.IsOutside → q ≠ p → u.heldIn q = s.heldIn q)
    (h : Entry D E (s.heldIn p) (u.heldIn p) i o) : Entry D E s.held u.held i o := by
  refine Entry.part p (fun q hq => ?_) h
  have hcalls : u.ril.calls = s.ril.calls := congrArg RilModules.calls hmodules
  have hsms : u.ril.outgoingSms = s.ril.outgoingSms := congrArg RilModules.outgoingSms hmodules
  have hgprs : u.ril.gprs = s.ril.gprs := congrArg RilModules.gprs hmodules
  have hsimIo : u.ril.simIo = s.ril.simIo := congrArg RilModules.simIo hmodules
  have hremembered : ∀ k, k ≠ .search → u.ril.remembered k = s.ril.remembered k := by
    intro k hk
    cases k with
    | search => exact absurd rfl hk
    | dtmfStart | dtmfStop =>
      dsimp only [RilData.remembered]
      rw [hcalls]
  cases q with
  | identity => exact hothers _ (.inl rfl) hq
  | chv => exact hothers _ (.inr (.inl rfl)) hq
  | selection => exact hothers _ (.inr (.inr (.inl rfl))) hq
  | remembered k =>
    by_cases hk : k = .search
    · subst hk
      exact hothers _ (.inr (.inr (.inr rfl))) hq
    · dsimp only [RilExchange.heldIn]
      rw [htones k hk, hremembered k hk]
  | calls | outgoingSms | gprs | simIo =>
    dsimp only [RilExchange.heldIn]
    first | rw [hcalls] | rw [hsms] | rw [hgprs] | rw [hsimIo]

/-- What is held outside of the modules, when only the tokens of the identities change. -/
theorem heldIn_of_others (hothers : u.ril.tokens.others = s.ril.tokens.others)
    (hawaited : u.awaited = s.awaited) {q : HeldPart} (hq : q.IsOutside) (hidentity : q ≠ .identity) :
    u.heldIn q = s.heldIn q := by
  rcases hq with rfl | rfl | rfl | rfl
  · exact absurd rfl hidentity
  · have hchv : u.ril.tokens.others.chvTokens = s.ril.tokens.others.chvTokens := by rw [hothers]
    exact hchv
  · have hselection : u.ril.tokens.others.networkSelection = s.ril.tokens.others.networkSelection := by
      rw [hothers]
    exact congrArg (fun t => ({t} : Multiset RilToken)) hselection
  · have hvariable : u.ril.tokens.others.queryAvailNetworks =
        s.ril.tokens.others.queryAvailNetworks := by rw [hothers]
    have hsearch : u.ril.tokens.queryAvailNetworks = s.ril.tokens.queryAvailNetworks := hvariable
    dsimp only [RilExchange.heldIn, RilData.remembered]
    rw [hsearch, hawaited]

/-- A step that leaves the modules and the tokens alone. -/
theorem outside_quiet (hmodules : u.ril.modules = s.ril.modules)
    (htokens : u.ril.tokens = s.ril.tokens) (hawaited : u.awaited = s.awaited)
    (h : RilEntry s e (s.heldIn .identity) (s.heldIn .identity) i o) :
    RilEntry s e s.held u.held i o := by
  have hsame : ∀ q : HeldPart, q.IsOutside → u.heldIn q = s.heldIn q := by
    rintro q (rfl | rfl | rfl | rfl)
    · dsimp only [RilExchange.heldIn, RilData.waiting]
      rw [htokens]
    · dsimp only [RilExchange.heldIn]
      rw [htokens]
    · dsimp only [RilExchange.heldIn]
      rw [htokens]
    · dsimp only [RilExchange.heldIn, RilData.remembered]
      rw [htokens, hawaited]
  refine outside_part .identity hmodules (fun k _ => by rw [hawaited])
    (fun q hq _ => hsame q hq) ?_
  rw [hsame _ (.inl rfl)]
  exact h

/-- The refusal completes the token of a request once more. -/
theorem refusal_entry {h h' : Multiset RilToken} (he : RilEntry s e h h' i o) :
    RilEntry s e h h' i ((s.ril.refusal e).filterMap RilEffect.answered ++ o : List RilToken) := by
  rw [← Multiset.coe_add]
  refine Entry.pay he fun b hb => ?_
  unfold RilData.refusal at hb
  split at hb
  · split_ifs at hb with hcheck
    · obtain rfl := List.mem_singleton.mp (Multiset.mem_coe.mp hb)
      exact .inl (.refused hcheck)
    · exact absurd (Multiset.mem_coe.mp hb) List.not_mem_nil
  · exact absurd (Multiset.mem_coe.mp hb) List.not_mem_nil

theorem refusal_answered (s : RilData) (e : RilEvent) :
    (s.refusal e).filterMap RilEffect.answered = completedTokens (s.refusal e) := by
  unfold RilData.refusal
  split
  · split_ifs <;> rfl
  · rfl

/-! The identities and the version. -/

theorem rilStep_identity {s u : RilData} (hs : s.Connected) {e' : IdentityEvent}
    (he : e.identityEvent? = some e') (h : RilStep s (e, out) u) : (identityHandler s e').1 = u ∧
      (s.refusal e).map (fun e => SystemEffect.identity (.ril e)) ++
        (identityHandler s e').2.map SystemEffect.identity = out := by
  cases e with
  | request request t =>
    have hrequest : ofRil (rilOnRequest s request t.1) = ((rilRequestHandler s t.1 request).1,
        (s.refusal (.request request t)).map (fun e => SystemEffect.identity (.ril e)) ++
          ((rilRequestHandler s t.1 request).2.map IdentityEffect.ril).map .identity) := by
      rw [rilOnRequest_eq hs, ofRil, List.map_append, List.map_map]
      rfl
    obtain ⟨hstep, -⟩ := rilStep_request h
    obtain ⟨rfl, rfl⟩ := Prod.mk.inj (hrequest.symm.trans hstep)
    cases request <;> cases he <;> exact ⟨rfl, rfl⟩
  | callback c =>
    cases c with
    | simStatus simState =>
      cases he
      obtain ⟨rfl, rfl⟩ := Prod.mk.inj (Option.some.inj h)
      dsimp only [identityHandler, RilData.refusal, ofRil]
      rw [List.map_map]
      exact ⟨rfl, rfl⟩
    | cpSystemStart desc datasize =>
      cases he
      obtain ⟨r, hr, heq⟩ := Option.map_eq_some_iff.mp h
      obtain ⟨rfl, -⟩ := ipcCpSystemStart_eq_some.mp hr
      exact Prod.mk.inj heq
    | simOpen ev len stack =>
      cases he
      obtain ⟨r, hr, heq⟩ := Option.map_eq_some_iff.mp h
      obtain ⟨_, -, rfl⟩ := Option.map_eq_some_iff.mp hr
      exact Prod.mk.inj heq
    | _ => cases he
  | clientState state => cases he
  | loadSecData data =>
    cases he
    exact Prod.mk.inj (Option.some.inj h)

theorem identity_entry (hs : s.ril.Connected) {e' : IdentityEvent}
    (he : e.identityEvent? = some e') (h : RilExchangeStep s (e, out) u) :
    RilEntry s e s.held u.held e.token.toList (out.filterMap SystemEffect.answered : List RilToken) := by
  obtain ⟨hril, hout⟩ := rilStep_identity hs he h.1
  have hnone : e.moduleEvent? = none ∧ (∀ k, e.awaits s.ril k = none) ∧
      e.token.toList = (e'.asked.map Prod.snd).toList := by
    cases e with
    | request request t => cases request <;> cases he <;> exact ⟨rfl, fun _ => rfl, rfl⟩
    | callback c => cases c <;> cases he <;> exact ⟨rfl, fun _ => rfl, rfl⟩
    | clientState state => cases he
    | loadSecData data =>
      cases he
      exact ⟨rfl, fun _ => rfl, rfl⟩
  obtain ⟨hmodule, hawaits, htoken⟩ := hnone
  have hawaited : u.awaited = s.awaited := funext fun k => by rw [h.2 k, hawaits k]; rfl
  have houtside : Outside s.ril u.ril out := rilStep_outside hs hmodule h.1
  have hanswered : out.filterMap SystemEffect.answered =
      (s.ril.refusal e).filterMap RilEffect.answered ++
        (identityHandler s.ril e').2.filterMap IdentityEffect.completed := by
    rw [houtside.plain, ← hout, List.filterMap_append, List.filterMap_map, List.filterMap_map,
      refusal_answered]
    rfl
  have hchange := identityHandler_change s.ril e'
  have hothers := identityHandler_others s.ril e'
  rw [hril] at hchange hothers
  rw [hanswered]
  refine refusal_entry (outside_part .identity houtside.modules (fun k _ => by rw [hawaited])
    (fun q hq hidentity => heldIn_of_others hothers hawaited hq hidentity) ?_)
  rw [htoken]
  refine .loses _ hchange.balance fun b hb => ?_
  unfold RilData.lostBy slotToken at hb
  split_ifs at hb with hfinds hnull
  · exact absurd hb (Multiset.notMem_zero b)
  · exact absurd hb (Multiset.notMem_zero b)
  · obtain rfl := Multiset.mem_singleton.mp hb
    exact .inl (.identity he hfinds)

theorem waiting_congr {s u : RilData} (h : u.tokens.identity = s.tokens.identity) :
    u.waiting = s.waiting := by
  have hsum : ∀ s : RilData, s.waiting = slotToken (s.tokens.identity .imei) +
    slotToken (s.tokens.identity .imsi) + slotToken (s.tokens.identity .basebandVersion) :=
    fun _ => rfl
  rw [hsum, hsum, h]

/-! The other requests. -/

/-- A request that waits for nothing is answered, and takes no variable. -/
theorem rilRequestHandler_quiet {s : RilData} {request : RilRequest} {t : FrameworkToken}
    (hmodule : request.moduleEvent? t = none)
    (hidentity : (RilEvent.request request t).identityEvent? = none) (hchv : request.chvKind? = none)
    (hselects : ¬request.Selects s) (hsearch : request ≠ .queryAvailableNetworks) :
    (rilRequestHandler s t.1 request).1.tokens = s.tokens ∧
      completedTokens (rilRequestHandler s t.1 request).2 = [t.1] := by
  cases request with
  | simIo | sendSms | sendSmsExpectMore | calls | setupDataCall | deactivateDataCall
  | lastDataCallFailCause | dataCallList => cases hmodule
  | getImei | getImsi | basebandVersion | radioPower => cases hidentity
  | enterSimPin => cases hchv
  | setNetworkSelectionAutomatic => exact absurd trivial hselects
  | queryAvailableNetworks => exact absurd rfl hsearch
  | enterSimPuk data =>
    dsimp only [rilRequestHandler, rilRequestEnterSimPuk]
    split
    · cases hchv
    · exact ⟨rfl, rfl⟩
  | queryFacilityLock data =>
    dsimp only [rilRequestHandler, rilRequestQueryFacilityLock]
    split
    · split_ifs <;> exact ⟨rfl, rfl⟩
    · exact ⟨rfl, rfl⟩
  | setFacilityLock data =>
    dsimp only [rilRequestHandler, rilRequestSetFacilityLock]
    split
    · next facility lock password p ps =>
      have hother : ¬facility = cString "SC" := by
        intro h
        rw [RilRequest.chvKind?, if_pos h] at hchv
        cases hchv
      rw [if_neg hother]
      exact ⟨rfl, rfl⟩
    · exact ⟨rfl, rfl⟩
  | changeSimPin data =>
    dsimp only [rilRequestHandler, rilRequestChangeSimPin]
    split
    · cases hchv
    · exact ⟨rfl, rfl⟩
  | operator =>
    dsimp only [rilRequestHandler, rilRequestOperator]
    split_ifs <;> exact ⟨rfl, rfl⟩
  | setNetworkSelectionManual data =>
    dsimp only [rilRequestHandler, rilRequestSetNetworkSelectionManual]
    split
    · exact ⟨rfl, rfl⟩
    · next hsome =>
      refine absurd ?_ hselects
      dsimp only [RilRequest.Selects]
      rw [hsome]
      exact Option.some_ne_none _
  | setPreferredNetworkType data =>
    dsimp only [rilRequestHandler, rilRequestSetPreferredNetworkType]
    split
    · exact ⟨rfl, rfl⟩
    · split_ifs <;> exact ⟨rfl, rfl⟩
  | sendUssd data =>
    dsimp only [rilRequestHandler, rilRequestSendUssd]
    split_ifs <;> exact ⟨rfl, rfl⟩
  | screenState status =>
    dsimp only [rilRequestHandler, rilRequestScreenState]
    split_ifs <;> exact ⟨rfl, rfl⟩
  | getSimStatus | voiceRegistrationState | dataRegistrationState | queryNetworkSelectionMode
  | getPreferredNetworkType | smsAcknowledge | setMute | cancelUssd | other => exact ⟨rfl, rfl⟩

/-- A request with a PIN waits in the variable of its kind; one whose PIN is too long is completed as
well. -/
theorem rilRequestHandler_chv {s : RilData} {request : RilRequest} {t : FrameworkToken} {k : ChvKind}
    (h : request.chvKind? = some k) :
    (rilRequestHandler s t.1 request).1.tokens = s.tokens.setChv t.1 k ∧
      (completedTokens (rilRequestHandler s t.1 request).2 = [] ∨
        completedTokens (rilRequestHandler s t.1 request).2 = [t.1] ∧
          ∃ pointerLength pin, 16 < pointerLength ∧ request = .enterSimPin pointerLength pin) := by
  cases request with
  | enterSimPin pointerLength pin =>
    cases h
    dsimp only [rilRequestHandler, rilRequestEnterSimPin]
    split_ifs with hlong
    · exact ⟨rfl, .inr ⟨rfl, pointerLength, pin, hlong, rfl⟩⟩
    · exact ⟨rfl, .inl rfl⟩
  | enterSimPuk data =>
    rcases data with _ | _ | ⟨puk, _ | ⟨pin, rest⟩⟩ <;> cases h
    exact ⟨rfl, .inl rfl⟩
  | setFacilityLock data =>
    rcases data with _ | _ | ⟨facility, _ | ⟨lock, _ | ⟨password, _ | ⟨p, rest⟩⟩⟩⟩
    case some.cons.cons.cons.cons =>
      rw [RilRequest.chvKind?] at h
      split_ifs at h with hfacility
      obtain rfl := Option.some.inj h
      dsimp only [rilRequestHandler, rilRequestSetFacilityLock]
      rw [if_pos hfacility]
      refine ⟨rfl, .inl ?_⟩
      split_ifs <;> rfl
    all_goals cases h
  | changeSimPin data =>
    rcases data with _ | _ | ⟨passwordOld, _ | ⟨passwordNew, rest⟩⟩ <;> cases h
    exact ⟨rfl, .inl rfl⟩
  | _ => cases h

theorem chvTokens_setChv (ts : RilTokens) (t : RilToken) (k : ChvKind) :
    (ts.setChv t k).chvTokens + {ts.chv k} = ts.chvTokens + {t} := by
  cases k <;> simp only [RilTokens.chvTokens, RilTokens.setChv, RilTokens.chv] <;> abel

/-- The variables of the other places are as they were. -/
theorem setChv_others (ts : RilTokens) (t : RilToken) (k : ChvKind) :
    (∀ j, (ts.setChv t k).identity j = ts.identity j) ∧
      (ts.setChv t k).networkSelection = ts.networkSelection ∧
      (ts.setChv t k).queryAvailNetworks = ts.queryAvailNetworks := by
  cases k <;> exact ⟨fun j => by cases j <;> rfl, rfl, rfl⟩

/-- A request for a selection waits in its variable. -/
theorem rilRequestHandler_selects {s : RilData} {request : RilRequest} {t : FrameworkToken}
    (h : request.Selects s) :
    (rilRequestHandler s t.1 request).1.tokens = { s.tokens with networkSelection := t.1 } ∧
      completedTokens (rilRequestHandler s t.1 request).2 = [] := by
  cases request with
  | setNetworkSelectionAutomatic => exact ⟨rfl, rfl⟩
  | setNetworkSelectionManual data =>
    obtain ⟨netSelect, hselected⟩ := Option.ne_none_iff_exists'.mp h
    dsimp only [rilRequestHandler, rilRequestSetNetworkSelectionManual]
    rw [hselected]
    exact ⟨rfl, rfl⟩
  | _ => exact h.elim

/-- **The ledger of a request outside of the modules.** -/
theorem request_entry (hs : s.ril.Connected) {request : RilRequest}
    (hmodule : request.moduleEvent? t = none)
    (hidentity : (RilEvent.request request t).identityEvent? = none)
    (h : RilExchangeStep s (.request request t, out) u) :
    RilEntry s (.request request t) s.held u.held ([t.1] : List RilToken)
      (out.filterMap SystemEffect.answered : List RilToken) := by
  have houtside : Outside s.ril u.ril out :=
    rilStep_outside (e := .request request t) hs hmodule h.1
  have heq : ofRil (rilOnRequest s.ril request t.1) = (u.ril, out) := (rilStep_request h.1).1
  have hril : (rilRequestHandler s.ril t.1 request).1 = u.ril := congrArg Prod.fst heq
  have hout : (rilOnRequest s.ril request t.1).2.map (fun e => SystemEffect.identity (.ril e)) = out :=
    congrArg Prod.snd heq
  have hanswered : out.filterMap SystemEffect.answered =
      (s.ril.refusal (.request request t)).filterMap RilEffect.answered ++
        completedTokens (rilRequestHandler s.ril t.1 request).2 := by
    rw [houtside.plain, ← hout, List.filterMap_map, rilOnRequest_eq hs, refusal_answered,
      ← completedTokens_append]
    rfl
  rw [hanswered]
  refine refusal_entry ?_
  by_cases hsearch : request = .queryAvailableNetworks
  · subst hsearch
    refine outside_part (.remembered .search) houtside.modules (fun k hk => ?_) ?_ ?_
    · rw [h.2 k]
      cases k with
      | search => exact absurd rfl hk
      | dtmfStart | dtmfStop => rfl
    · rintro q (rfl | rfl | rfl | rfl) hq
      · dsimp only [RilExchange.heldIn]
        rw [← hril]
        rfl
      · dsimp only [RilExchange.heldIn]
        rw [← hril]
        rfl
      · dsimp only [RilExchange.heldIn]
        rw [← hril]
        rfl
      · exact absurd rfl hq
    · have hafter : u.heldIn (.remembered .search) = {t.1} := by
        dsimp only [RilExchange.heldIn]
        rw [h.2, ← hril]
        rfl
      rw [hafter]
      exact remembered_store rfl t.1
  have hawaited : u.awaited = s.awaited := by
    funext k
    rw [h.2 k]
    cases request with
    | queryAvailableNetworks => exact absurd rfl hsearch
    | calls => cases hmodule
    | _ => rfl
  cases hchv : request.chvKind? with
  | some k =>
    obtain ⟨htokens, hcompleted⟩ := rilRequestHandler_chv (s := s.ril) (t := t) hchv
    obtain ⟨hwaiting, hselection, hvariable⟩ := setChv_others s.ril.tokens t.1 k
    rw [hril] at htokens
    refine outside_part .chv houtside.modules (fun k _ => by rw [hawaited]) ?_ ?_
    · rintro q (rfl | rfl | rfl | rfl) hq
      · have hidentities : u.ril.tokens.identity = s.ril.tokens.identity := by
          rw [htokens]
          exact funext hwaiting
        exact waiting_congr hidentities
      · exact absurd rfl hq
      · dsimp only [RilExchange.heldIn]
        rw [htokens, hselection]
      · dsimp only [RilExchange.heldIn, RilData.remembered]
        rw [htokens, hvariable, hawaited]
    · have hbalance := chvTokens_setChv s.ril.tokens t.1 k
      rw [← htokens] at hbalance
      have hstored : RilEntry s (.request request t) (s.heldIn .chv) (u.heldIn .chv) ([t.1] : List RilToken)
          (([] : List RilToken) : Multiset RilToken) := by
        refine .losesOne (s.ril.tokens.chv k) ?_ (.inl (.chv hchv))
        rw [Multiset.coe_nil, add_zero]
        exact hbalance
      rcases hcompleted with hnone | ⟨hone, pointerLength, pin, hlong, rfl⟩
      · rw [hnone]
        exact hstored
      · rw [hone]
        exact hstored.pay (p := {t.1}) fun b hb => Multiset.mem_singleton.mp hb ▸ .inl (.longPin hlong)
  | none =>
    by_cases hselects : request.Selects s.ril
    · obtain ⟨htokens, hcompleted⟩ := rilRequestHandler_selects (t := t) hselects
      rw [hril] at htokens
      rw [hcompleted]
      refine outside_part .selection houtside.modules (fun k _ => by rw [hawaited]) ?_ ?_
      · rintro q (rfl | rfl | rfl | rfl) hq
        · exact waiting_congr (by rw [htokens]; rfl)
        · dsimp only [RilExchange.heldIn]
          rw [htokens]
          rfl
        · exact absurd rfl hq
        · dsimp only [RilExchange.heldIn, RilData.remembered]
          rw [htokens, hawaited]
      · dsimp only [RilExchange.heldIn]
        rw [htokens]
        exact .store (.inl (.selection hselects))
    · obtain ⟨htokens, hcompleted⟩ :=
        rilRequestHandler_quiet hmodule hidentity hchv hselects hsearch
      rw [hril] at htokens
      rw [hcompleted]
      exact outside_quiet houtside.modules htokens hawaited (.answer t.1)

/-! The callbacks. -/

/-- What `ipc_lock_status` does: nothing, or it completes the first of the four tokens, and may set the
state of the SIM card before it clears the variable. -/
inductive LockStatus (s u : RilData) (completed : List RilToken) : Prop
  | nothing (hu : u = s) (hcompleted : completed = [])
  | answered (k : ChvKind) {r : RilData × List RilEffect}
      (hr : r.1 = s ∧ completedTokens r.2 = [] ∨ ∃ simState, r = ipcSimStatus s simState)
      (hu : u = { r.1 with tokens := r.1.tokens.setChv rilTokenNull k })
      (hcompleted : completed = s.tokens.chv k :: completedTokens r.2)

theorem completeChv_lockStatus {s : RilData} {errno : RilErrno} {response : Option RilResponse}
    {besides : ChvKind → RilData → RilData × List RilEffect}
    (h : ∀ k, (besides k s).1 = s ∧ completedTokens (besides k s).2 = [] ∨
      ∃ simState, besides k s = ipcSimStatus s simState) :
    LockStatus s (completeChv s errno response besides).1
      (completedTokens (completeChv s errno response besides).2) := by
  unfold completeChv
  cases s.tokens.pendingChv with
  | none => exact .nothing rfl rfl
  | some k => exact .answered k (h k) rfl rfl

theorem ipcLockStatus_lockStatus (s : RilData) (ev : SimEvent) :
    LockStatus s (ipcLockStatus s ev).1 (completedTokens (ipcLockStatus s ev).2) := by
  have hopen : ∀ k, (openSim k s).1 = s ∧ completedTokens (openSim k s).2 = [] ∨
      ∃ simState, openSim k s = ipcSimStatus s simState := by
    intro k
    cases k <;> exact .inl ⟨rfl, rfl⟩
  have hlock : ∀ k, (lockSim k s).1 = s ∧ completedTokens (lockSim k s).2 = [] ∨
      ∃ simState, lockSim k s = ipcSimStatus s simState := by
    intro k
    cases k with
    | setFacilityLock | changeSimPin => exact .inl ⟨rfl, rfl⟩
    | pinStatus => exact .inr ⟨.puk, rfl⟩
    | pukStatus => exact .inr ⟨.blocked, rfl⟩
  unfold ipcLockStatus
  split_ifs
  · split
    · exact completeChv_lockStatus hopen
    · exact completeChv_lockStatus fun _ => .inl ⟨rfl, rfl⟩
    · exact completeChv_lockStatus hlock
    · exact .nothing rfl rfl
  · exact completeChv_lockStatus fun _ => .inl ⟨rfl, rfl⟩

/-- The variable of a request with a PIN is cleared. -/
theorem chv_clear_entry {v : RilExchange} (k : ChvKind)
    (hu : u = ⟨{ v.ril with tokens := v.ril.tokens.setChv rilTokenNull k }, v.awaited⟩) :
    RilEntry s e v.held u.held ([] : List RilToken) ([v.ril.tokens.chv k] : List RilToken) := by
  obtain ⟨hwaiting, hselection, hvariable⟩ := setChv_others v.ril.tokens rilTokenNull k
  subst hu
  refine outside_part .chv rfl (fun _ _ => rfl) ?_ ?_
  · rintro q (rfl | rfl | rfl | rfl) hq
    · exact waiting_congr (funext hwaiting)
    · exact absurd rfl hq
    · exact congrArg (fun t => ({t} : Multiset RilToken)) hselection
    · dsimp only [RilExchange.heldIn, RilData.remembered]
      rw [hvariable]
  · refine .makesOne rilTokenNull ?_ (.inr rfl)
    rw [Multiset.coe_nil, add_zero, Multiset.coe_singleton]
    exact chvTokens_setChv v.ril.tokens rilTokenNull k

/-- The tokens of the identities after a change of the SIM state. -/
theorem simStatus_entry {v : RilExchange} (ev : SimEvent) (simState : RilSimState)
    (hv : v = ⟨(ipcSimStatus s.ril simState).1, s.awaited⟩) :
    RilEntry s (.callback (.lockStatus ev)) s.held v.held ([] : List RilToken)
      (completedTokens (ipcSimStatus s.ril simState).2 : List RilToken) := by
  have hothers := ipcSimStatus_others s.ril simState
  obtain ⟨hsettles, -⟩ := ipcSimStatus_settles s.ril simState
  have houtside := ipcSimStatus_outside s.ril simState
  subst hv
  refine outside_part .identity houtside.modules (fun _ _ => rfl) (fun q hq hidentity =>
    heldIn_of_others (u := ⟨(ipcSimStatus s.ril simState).1, s.awaited⟩) hothers rfl hq hidentity) ?_
  refine Entry.loses s.ril.lostByStatus ?_ fun b hb => ?_
  · rw [Multiset.coe_nil, add_zero]
    exact hsettles.balance
  · unfold RilData.lostByStatus RilData.lostVersion slotToken at hb
    split_ifs at hb with hpower hversion hnull
    · exact absurd hb (Multiset.notMem_zero b)
    · exact absurd hb (Multiset.notMem_zero b)
    · obtain rfl := Multiset.mem_singleton.mp hb
      exact .inl (.lockStatus hpower (not_not.mp hversion))
    · exact absurd hb (Multiset.notMem_zero b)

theorem lockStatus_entry {ev : SimEvent} {completed : List RilToken} (hawaited : u.awaited = s.awaited)
    (h : LockStatus s.ril u.ril completed) :
    RilEntry s (.callback (.lockStatus ev)) s.held u.held ([] : List RilToken) completed := by
  cases h with
  | nothing hu hcompleted =>
    rw [held_same hu hawaited, hcompleted]
    exact .same
  | @answered k r hr hu hcompleted =>
    have hu : u = ⟨{ r.1 with tokens := r.1.tokens.setChv rilTokenNull k }, s.awaited⟩ := by
      cases u
      subst hu
      subst hawaited
      rfl
    have hclear : ∀ ts : RilTokens, ts.others.chv k = ts.chv k := fun ts => by cases k <;> rfl
    rw [hcompleted]
    rcases hr with ⟨hsame, hnone⟩ | ⟨simState, rfl⟩
    · obtain ⟨v, out⟩ := r
      obtain rfl : v = s.ril := hsame
      rw [hnone]
      exact chv_clear_entry k hu
    · have hset : s.ril.tokens.chv k = (ipcSimStatus s.ril simState).1.tokens.chv k := by
        rw [← hclear, ← ipcSimStatus_others s.ril simState, hclear]
      have hboth := (simStatus_entry ev simState rfl).trans (chv_clear_entry k hu)
      rw [add_comm ((completedTokens _ : List RilToken) : Multiset RilToken)] at hboth
      rw [hset]
      exact hboth

theorem ofRil_step {r : RilData × List RilEffect} (hr : RilOutside s.ril r)
    (h : some (ofRil r) = some (u.ril, out)) :
    r.1 = u.ril ∧ out.filterMap SystemEffect.answered = completedTokens r.2 := by
  obtain ⟨hril, hout⟩ := Prod.mk.inj (Option.some.inj h)
  refine ⟨hril, ?_⟩
  rw [← hout, ← hr.plain]
  exact List.filterMap_map

/-- A callback that leaves the tokens and the modules alone. -/
theorem callback_quiet {c : RilCallback} (hmodules : u.ril.modules = s.ril.modules)
    (htokens : u.ril.tokens = s.ril.tokens) (hawaited : u.awaited = s.awaited)
    (hanswered : out.filterMap SystemEffect.answered = []) :
    RilEntry s (.callback c) s.held u.held ([] : List RilToken)
      (out.filterMap SystemEffect.answered : List RilToken) := by
  rw [hanswered]
  exact outside_quiet hmodules htokens hawaited .same

/-- The variable of a selection is cleared. -/
theorem selection_clear_entry {ril : RilData} {netInfo : TapiNetworkInfo}
    (hril : ril.modules = s.ril.modules ∧ ril.tokens = s.ril.tokens)
    (hu : u = ⟨(completeSelection ril netInfo).1, s.awaited⟩) :
    RilEntry s e s.held u.held ([] : List RilToken)
      (completedTokens (completeSelection ril netInfo).2 : List RilToken) := by
  obtain ⟨hmodules, htokens⟩ := hril
  have hcleared := completeSelection_tokens ril netInfo
  rw [htokens] at hcleared
  rw [completeSelection_completed, htokens]
  subst hu
  refine outside_part .selection ((completeSelection_outside ril netInfo).modules.trans hmodules)
    (fun _ _ => rfl) ?_ ?_
  · rintro q (rfl | rfl | rfl | rfl) hq
    · exact waiting_congr (by rw [hcleared]; rfl)
    · dsimp only [RilExchange.heldIn]
      rw [hcleared]
      rfl
    · exact absurd rfl hq
    · dsimp only [RilExchange.heldIn, RilData.remembered]
      rw [hcleared]
  · dsimp only [RilExchange.heldIn]
    rw [hcleared]
    exact .clear (.inr rfl) s.ril.tokens.networkSelection

/-- **The ledger of a callback outside of the modules.** -/
theorem callback_entry (hs : s.ril.Connected) {c : RilCallback} (hmodule : c.moduleEvent? = none)
    (hidentity : (RilEvent.callback c).identityEvent? = none)
    (h : RilExchangeStep s (.callback c, out) u) :
    RilEntry s (.callback c) s.held u.held ([] : List RilToken)
      (out.filterMap SystemEffect.answered : List RilToken) := by
  have houtside : Outside s.ril u.ril out := rilStep_outside (e := .callback c) hs hmodule h.1
  have hstep : ipcInvokeRilCb s.ril c = some (u.ril, out) := h.1
  by_cases hsearch : ∃ entries, c = .networkSearchCnf entries
  · obtain ⟨entries, rfl⟩ := hsearch
    obtain ⟨hril, hout⟩ := Prod.mk.inj (Option.some.inj hstep)
    refine outside_part (.remembered .search) houtside.modules (fun k hk => ?_) ?_ ?_
    · rw [h.2 k]
      cases k with
      | search => exact absurd rfl hk
      | dtmfStart | dtmfStop => rfl
    · rintro q (rfl | rfl | rfl | rfl) hq
      · dsimp only [RilExchange.heldIn]
        rw [← hril]
        rfl
      · dsimp only [RilExchange.heldIn]
        rw [← hril]
        rfl
      · dsimp only [RilExchange.heldIn]
        rw [← hril]
        rfl
      · exact absurd rfl hq
    · have hafter : u.heldIn (.remembered .search) = 0 := by
        dsimp only [RilExchange.heldIn]
        rw [h.2]
        rfl
      have hanswered : out.filterMap SystemEffect.answered = [s.ril.remembered .search] := by
        rw [← hout]
        rfl
      rw [hafter, hanswered]
      exact remembered_answer rfl
  have hawaited : u.awaited = s.awaited := by
    funext k
    rw [h.2 k]
    cases c with
    | networkSearchCnf entries => exact absurd ⟨entries, rfl⟩ hsearch
    | calls ind => cases hmodule
    | _ => rfl
  have hu : u = ⟨u.ril, s.awaited⟩ := hawaited ▸ rfl
  cases c with
  | calls | proto | simIoResponse | simSmscNumber | nettextSend => cases hmodule
  | cpSystemStart | simOpen | simStatus => cases hidentity
  | networkSearchCnf entries => exact absurd ⟨entries, rfl⟩ hsearch
  | networkSelectCnf netInfo =>
    obtain ⟨hril, hout⟩ := ofRil_step (completeSelection_outside s.ril netInfo) hstep
    rw [hout]
    exact selection_clear_entry ⟨rfl, rfl⟩ (hu.trans (hril ▸ rfl))
  | networkSelect netInfo =>
    obtain ⟨r, hr, heq⟩ := Option.map_eq_some_iff.mp hstep
    obtain ⟨rfl, -⟩ := ipcNetworkSelect_eq_some.mp hr
    obtain ⟨hril, hout⟩ := ofRil_step (networkSelected_outside s.ril netInfo) (congrArg some heq)
    rw [hout]
    unfold networkSelected at hril ⊢
    dsimp only at hril ⊢
    rw [completedTokens_append]
    split_ifs at hril ⊢ with hwaits
    · rw [show completedTokens [.unsolicited .responseVoiceNetworkStateChanged] = [] from rfl,
        List.append_nil]
      exact selection_clear_entry ⟨rfl, rfl⟩ (hu.trans (hril ▸ rfl))
    · exact outside_quiet houtside.modules (hril ▸ rfl) hawaited .same
  | lockStatus ev =>
    obtain ⟨hril, hout⟩ := ofRil_step (ipcLockStatus_outside s.ril ev) hstep
    rw [hout]
    exact lockStatus_entry hawaited (hril ▸ ipcLockStatus_lockStatus s.ril ev)
  | networkRadioInfo rxLevel =>
    have heq : ipcNetworkRadioInfo s.ril rxLevel = (u.ril, out) := Option.some.inj hstep
    unfold ipcNetworkRadioInfo at heq
    split at heq
    all_goals
      obtain ⟨hril, hout⟩ := Prod.mk.inj heq
      exact callback_quiet houtside.modules (hril ▸ rfl) hawaited (hout ▸ rfl)
  | networkCellInfo cellInfo =>
    obtain ⟨hril, hout⟩ := Prod.mk.inj (Option.some.inj hstep)
    exact callback_quiet houtside.modules (hril ▸ rfl) hawaited (hout ▸ rfl)
  | networkNitzInfo nitz =>
    have heq : ipcNetworkNitzInfo s.ril nitz = (u.ril, out) := Option.some.inj hstep
    unfold ipcNetworkNitzInfo at heq
    split_ifs at heq
    all_goals
      obtain ⟨hril, hout⟩ := Prod.mk.inj heq
      exact callback_quiet houtside.modules (hril ▸ rfl) hawaited (hout ▸ rfl)
  | nettextIncoming info =>
    obtain ⟨p, -, hp⟩ := Option.map_eq_some_iff.mp hstep
    obtain ⟨hril, hout⟩ := Prod.mk.inj hp
    exact callback_quiet houtside.modules (hril ▸ rfl) hawaited (hout ▸ rfl)
  | ssUssd fresh ssResp =>
    obtain ⟨p, hp, heq⟩ := Option.map_eq_some_iff.mp hstep
    obtain ⟨hril, hout⟩ := Prod.mk.inj heq
    obtain ⟨ussdState, hussd⟩ := ipcSsUssdResponse_state hp
    refine callback_quiet houtside.modules ?_ hawaited ?_
    · rw [← hril, hussd]
    · rw [← hout]
      cases p.2 <;> rfl
  | ssError data =>
    obtain ⟨hril, hout⟩ := Prod.mk.inj (Option.some.inj hstep)
    exact callback_quiet houtside.modules (hril ▸ rfl) hawaited (hout ▸ rfl)
  | lbsState lbsState =>
    obtain ⟨hril, hout⟩ := Prod.mk.inj (Option.some.inj hstep)
    exact callback_quiet houtside.modules (hril ▸ rfl) hawaited (hout ▸ rfl)

end Outside

end Mocha.Ril
