import Mathlib.Data.Fintype.Basic
import Mocha.Ril.IdentityTokens
import Mocha.Ril.ModuleLedger
import Mocha.Ril.NetworkTokens

/-! The tokens of the telephony layer, in whichever module or variable they wait. Three variables keep
their token when it has been completed, and whether a request in one of them is still unanswered is
recorded beside `ril_data`. -/
namespace Mocha.Ril
open Mocha.Lib Mocha.Ipc

/-- The variables that keep a token that has been completed. -/
inductive RememberedKind
  | search
  | dtmfStart
  | dtmfStop
deriving DecidableEq, Repr

def RilData.remembered (s : RilData) : RememberedKind → RilToken
  | .search => s.tokens.queryAvailNetworks
  | .dtmfStart => s.calls.table.tokenDtmfStart
  | .dtmfStop => s.calls.table.tokenDtmfStop

/-- Whether an event leaves a request for a tone unanswered; `none` where it has nothing to do with the
variable. -/
def CallModuleEvent.awaits (s : CallData) : RememberedKind → CallModuleEvent → Option Bool
  | .dtmfStart, .request _ (.dtmfStart data) =>
    if findActiveCall s ≠ none ∧ data ≠ none then some true else none
  | .dtmfStop, .request _ .dtmfStop => if findActiveCall s ≠ none then some true else none
  | .dtmfStart, .indication (.dtmfStart _) => some false
  | .dtmfStop, .indication (.dtmfStop _) => some false
  | _, _ => none

/-- Whether an event leaves a request in one of the three variables unanswered. -/
def RilEvent.awaits (s : RilData) (k : RememberedKind) : RilEvent → Option Bool
  | .request .queryAvailableNetworks _ => if k = .search then some true else none
  | .callback (.networkSearchCnf _) => if k = .search then some false else none
  | .request (.calls c) t => (CallModuleEvent.request t.request c).awaits s.calls.table k
  | .callback (.calls ind) => (CallModuleEvent.indication ind).awaits s.calls.table k
  | _ => none

/-- `ril_data`, and whether the requests in the three variables are unanswered. -/
structure RilExchange where
  ril : RilData
  awaited : RememberedKind → Bool

def RilExchangeStep : Step RilExchange (RilEvent × List SystemEffect) := fun s a u =>
  RilStep s.ril a u.ril ∧ ∀ k, u.awaited k = (a.1.awaits s.ril k).getD (s.awaited k)

/-- The tokens of the requests that wait for a CHV event. -/
def RilTokens.chvTokens (ts : RilTokens) : Multiset RilToken :=
  {ts.setFacilityLock} + {ts.changeSimPin} + {ts.pinStatus} + {ts.pukStatus}

/-- The places where tokens wait. -/
inductive HeldPart
  | identity
  | chv
  | selection
  | remembered (k : RememberedKind)
  | calls
  | outgoingSms
  | gprs
  | simIo
deriving DecidableEq

instance : Fintype HeldPart where
  elems := {.identity, .chv, .selection, .remembered .search, .remembered .dtmfStart,
    .remembered .dtmfStop, .calls, .outgoingSms, .gprs, .simIo}
  complete := by
    intro p
    cases p with
    | remembered k => cases k <;> decide
    | _ => decide

namespace RilExchange

def heldIn (s : RilExchange) : HeldPart → Multiset RilToken
  | .identity => s.ril.waiting
  | .chv => s.ril.tokens.chvTokens
  | .selection => {s.ril.tokens.networkSelection}
  | .remembered k => if s.awaited k then {s.ril.remembered k} else 0
  | .calls => Lib.held s.ril.calls.table.pendingAt
  | .outgoingSms => s.ril.outgoingSms.tokens
  | .gprs => s.ril.gprs.stored
  | .simIo => s.ril.simIo.tokens

/-- The tokens of the requests that wait for an answer, and null for each variable without one. -/
def held (s : RilExchange) : Multiset RilToken := ∑ p, s.heldIn p

end RilExchange

/-- The events for the requests for an identity or a version. -/
def RilEvent.identityEvent? : RilEvent → Option IdentityEvent
  | .request .getImei t => some (.request .imei t.request)
  | .request .getImsi t => some (.request .imsi t.request)
  | .request .basebandVersion t => some (.request .basebandVersion t.request)
  | .request (.radioPower powerState) t => some (.radioPower t.request powerState)
  | .callback (.cpSystemStart desc datasize) => some (.cpSystemStart desc datasize)
  | .callback (.simOpen ev _ stack) => some (.simOpen ev stack)
  | .callback (.simStatus simState) => some (.simStatus simState)
  | .loadSecData data => some (.loadSecData data)
  | _ => none

/-- The requests that take the variable of a selection. -/
def RilRequest.Selects (s : RilData) : RilRequest → Prop
  | .setNetworkSelectionAutomatic => True
  | .setNetworkSelectionManual data => selectedNetwork s data ≠ none
  | _ => False

/-- The variable that a request with a PIN takes. -/
def RilRequest.chvKind? : RilRequest → Option ChvKind
  | .enterSimPin .. => some .pinStatus
  | .enterSimPuk (some (_ :: _ :: _)) => some .pukStatus
  | .setFacilityLock (some (facility :: _ :: _ :: _ :: _)) =>
    if facility = cString "SC" then some .setFacilityLock else none
  | .changeSimPin (some (_ :: _ :: _)) => some .changeSimPin
  | _ => none

/-- The tokens that an event loses: of a request whose variable or connection it takes, of a version
request that is cleared unanswered, of the message that is being sent when a malformed one comes, and
its own, if it finds no call for it. -/
inductive Drops (s : RilExchange) : RilEvent → RilToken → Prop
  | identity {e : RilEvent} {e' : IdentityEvent} (he : e.identityEvent? = some e')
      (h : ¬FindsData s.ril e') : Drops s e (s.ril.tokens.identity e'.kind)
  | lockStatus {ev : SimEvent} (hpower : s.ril.state.powerState = .normal)
      (hversion : s.ril.cachedSwVersion = []) :
      Drops s (.callback (.lockStatus ev)) s.ril.tokens.basebandVersion
  | chv {request : RilRequest} {t : FrameworkToken} {k : ChvKind} (h : request.chvKind? = some k) :
      Drops s (.request request t) (s.ril.tokens.chv k)
  | selection {request : RilRequest} {t : FrameworkToken} (h : request.Selects s.ril) :
      Drops s (.request request t) s.ril.tokens.networkSelection
  | remembered {e : RilEvent} {k : RememberedKind} (h : e.awaits s.ril k = some true)
      (hawaited : s.awaited k) : Drops s e (s.ril.remembered k)
  | call {c : CallRequest} {t : FrameworkToken} (h : ¬KeepsToken s.ril.calls.table c) :
      Drops s (.request (.calls (.control c)) t) t.1
  | malformed {e : RilEvent} {t : RequestToken} {data : Option (List (Option CString))}
      (he : e.moduleEvent? = some (.sendSms t data))
      (h : (sendSmsInfo t.1 s.ril.simIo.smscNumber data).toOption = none) :
      Drops s e s.ril.outgoingSms.tokenOutgoingSms
  | connection {e : RilEvent} {e' : GprsEvent} {c : RilGprsConnection}
      (he : e.moduleEvent? = some (.gprs e')) (h : GprsTouches s.ril.gprs e' c) :
      Drops s e c.token

/-- The tokens that an event uses once more than it should: of a request that is refused and carried
out, of an ANSWER for several calls, and of a search or a tone that is answered already. -/
inductive Doubles (s : RilExchange) : RilEvent → RilToken → Prop
  | refused {request : RilRequest} {t : FrameworkToken} (h : s.ril.rilModemCheck < 0) :
      Doubles s (.request request t) t.1
  | longPin {pointerLength : ℕ} {pin : CString} {t : FrameworkToken} (h : 16 < pointerLength) :
      Doubles s (.request (.enterSimPin pointerLength pin) t) t.1
  | answer {c : CallRequest} {t : FrameworkToken} (h : ¬AnswersOnce s.ril.calls.table c) :
      Doubles s (.request (.calls (.control c)) t) t.1
  | unasked {e : RilEvent} {k : RememberedKind} (h : e.awaits s.ril k = some false)
      (hawaited : s.awaited k = false) : Doubles s e (s.ril.remembered k)

/-- What the modules keep to in every run. -/
structure RilData.WellFormed (s : RilData) : Prop where
  connected : s.Connected
  outgoingSms : s.outgoingSms.WellFormed
  simIo : s.simIo.WellFormed

/-- What an event does to the tokens, where null does not count. -/
def RilEntry (s : RilExchange) (e : RilEvent) : Multiset RilToken → Multiset RilToken →
    Multiset RilToken → Multiset RilToken → Prop :=
  Entry (fun t => Drops s e t ∨ t = rilTokenNull) fun t => Doubles s e t ∨ t = rilTokenNull

/-- The token that an event of a module brings in. -/
def ModuleEvent.brought : ModuleEvent → List RilToken
  | .calls (.request t _) => [t.1]
  | .calls (.indication _) => []
  | .sendSms t _ => [t.1]
  | .sendStatus _ => []
  | .gprs e => e.issued
  | .simIo e => e.brought

section Modules

variable {s u : RilExchange} {e : RilEvent} {e' : ModuleEvent} {out : List RilEffect} {m : RilModules}
  {k : RememberedKind}

/-- A step that changes what is held in one place only. -/
theorem entry_part (p : HeldPart) (hothers : ∀ q, q ≠ p → u.heldIn q = s.heldIn q)
    {i o : Multiset RilToken} (h : RilEntry s e (s.heldIn p) (u.heldIn p) i o) :
    RilEntry s e s.held u.held i o := Entry.part p hothers h

theorem brought_of_module (he : e.moduleEvent? = some e') : e.token.toList = e'.brought := by
  cases e with
  | request request t =>
    cases request <;> cases he <;> rfl
  | callback c =>
    cases c with
    | proto ind =>
      cases he
      rw [ModuleEvent.brought, GprsEvent.issued, ind.2]
      rfl
    | _ => cases he <;> rfl
  | _ => cases he

theorem awaits_of_calls {c : CallModuleEvent} (he : e.moduleEvent? = some (.calls c)) :
    e.awaits s.ril k = c.awaits s.ril.calls.table k := by
  cases e with
  | request request t =>
    cases request <;> cases he
    rfl
  | callback c =>
    cases c <;> cases he
    rfl
  | _ => cases he

/-- A request of the call module comes with its token. -/
theorem request_of_calls {t : RequestToken} {c : CallModuleRequest}
    (he : e.moduleEvent? = some (.calls (.request t c))) :
    ∃ t' : FrameworkToken, t'.1 = t.1 ∧ e = .request (.calls c) t' := by
  cases e with
  | request request t' =>
    cases request <;> cases he
    exact ⟨t', rfl, rfl⟩
  | callback c => cases c <;> cases he
  | _ => cases he

theorem awaits_of_others (he : e.moduleEvent? = some e') (hnot : ∀ c, e' ≠ .calls c) :
    e.awaits s.ril k = none := by
  cases e with
  | request request t =>
    cases request with
    | calls c =>
      cases he
      exact absurd rfl (hnot _)
    | _ => cases he <;> rfl
  | callback c =>
    cases c with
    | calls ind =>
      cases he
      exact absurd rfl (hnot _)
    | _ => cases he <;> rfl
  | _ => cases he

/-- A request takes one of the three variables. -/
theorem remembered_store (h : e.awaits s.ril k = some true) (t : RilToken) :
    RilEntry s e (s.heldIn (.remembered k)) {t} {t} ([] : List RilToken) := by
  dsimp only [RilExchange.heldIn]
  split_ifs with hawaited
  · exact .store (.inl (.remembered h hawaited))
  · exact .push [] t

/-- The request in one of the three variables is answered, whether or not it has been before. -/
theorem remembered_answer (h : e.awaits s.ril k = some false) :
    RilEntry s e (s.heldIn (.remembered k)) 0 0 ([s.ril.remembered k] : List RilToken) := by
  dsimp only [RilExchange.heldIn]
  split_ifs with hawaited
  · exact .pop (s.ril.remembered k) []
  · rw [Bool.not_eq_true] at hawaited
    exact .makesOne (s.ril.remembered k) rfl (.inl (.unasked h hawaited))

/-- Nothing that is held changes. -/
theorem held_same (hril : u.ril = s.ril) (hawaited : u.awaited = s.awaited) : u.held = s.held := by
  cases s
  cases u
  subst hril
  subst hawaited
  rfl

section Calls

variable {calls : CallModule} {t : RequestToken} {q : HeldPart}

/-- What is held in a place that a step of the call module leaves alone. -/
theorem heldIn_calls (hu : u.ril = s.ril.setModules { s.ril.modules with calls := calls })
    (hpending : q = .calls → calls.table.pendingAt = s.ril.calls.table.pendingAt)
    (hremembered : ∀ k, q = .remembered k → u.awaited k = s.awaited k ∧
      u.ril.remembered k = s.ril.remembered k) : u.heldIn q = s.heldIn q := by
  cases q with
  | calls =>
    dsimp only [RilExchange.heldIn]
    rw [hu]
    exact congrArg Lib.held (hpending rfl)
  | remembered k =>
    obtain ⟨hawaited, hvariable⟩ := hremembered k rfl
    dsimp only [RilExchange.heldIn]
    rw [hawaited, hvariable]
  | _ =>
    dsimp only [RilExchange.heldIn]
    rw [hu]
    rfl

/-- A step of the call table, which leaves the tones alone. -/
theorem callTable_entry {r : CallData × List CallEffect} {i : List RilToken}
    (hu : u.ril = s.ril.setModules { s.ril.modules with calls := { s.ril.calls with table := r.1 } })
    (hawaited : u.awaited = s.awaited) (htones : SameTones s.ril.calls.table r.1)
    (h : RilEntry s e (Lib.held s.ril.calls.table.pendingAt) (Lib.held r.1.pendingAt) i
      ((r.2.map CallModuleEffect.control).filterMap CallModuleEffect.completed : List RilToken)) :
    RilEntry s e s.held u.held i
      ((r.2.map CallModuleEffect.control).filterMap CallModuleEffect.completed : List RilToken) := by
  refine entry_part .calls (fun q hq => heldIn_calls hu (fun h => absurd h hq) fun k _ => ⟨?_, ?_⟩) ?_
  · rw [hawaited]
  · rw [hu]
    cases k with
    | search => rfl
    | dtmfStart => exact htones.1
    | dtmfStop => exact htones.2
  · dsimp only [RilExchange.heldIn]
    rw [hu]
    exact h

/-- A step of the call module that writes to the variable of a tone, or leaves it alone. -/
theorem tone_entry {i o : List RilToken} (k : RememberedKind)
    (hu : u.ril = s.ril.setModules { s.ril.modules with calls := calls })
    (hpending : calls.table.pendingAt = s.ril.calls.table.pendingAt)
    (hothers : ∀ j, j ≠ k → u.awaited j = s.awaited j ∧ u.ril.remembered j = s.ril.remembered j)
    (h : RilEntry s e (s.heldIn (.remembered k)) (u.heldIn (.remembered k)) i o) :
    RilEntry s e s.held u.held i o := by
  refine entry_part (.remembered k) (fun q hq => heldIn_calls hu (fun _ => hpending) fun j hj => ?_) h
  subst hj
  exact hothers j fun hjk => hq (congrArg HeldPart.remembered hjk)

/-- What a request for a tone does: it waits in the variable of its kind, or is refused. -/
inductive ToneRequested (s : RilExchange) (e : RilEvent) (t : RilToken) (k : RememberedKind)
    (calls : CallModule) (out : List CallModuleEffect) : Prop
  | stored (hawaits : e.awaits s.ril k = some true)
      (hothers : ∀ j, j ≠ k → e.awaits s.ril j = none ∧
        (s.ril.setModules { s.ril.modules with calls := calls }).remembered j = s.ril.remembered j)
      (hstored : (s.ril.setModules { s.ril.modules with calls := calls }).remembered k = t)
      (hpending : calls.table.pendingAt = s.ril.calls.table.pendingAt)
      (hout : out.filterMap CallModuleEffect.completed = [])
  | refused (hawaits : ∀ j, e.awaits s.ril j = none) (hcalls : calls = s.ril.calls)
      (hout : out.filterMap CallModuleEffect.completed = [t])

theorem toneRequested_entry {out : List CallModuleEffect} (h : ToneRequested s e t.1 k calls out)
    (hu : u.ril = s.ril.setModules { s.ril.modules with calls := calls })
    (hawaited : ∀ k, u.awaited k = (e.awaits s.ril k).getD (s.awaited k)) :
    RilEntry s e s.held u.held ([t.1] : List RilToken)
      (out.filterMap CallModuleEffect.completed : List RilToken) := by
  cases h with
  | stored hawaits hothers hstored hpending hout =>
    rw [hout]
    refine tone_entry k hu hpending (fun j hj => ?_) ?_
    · obtain ⟨hnone, hvariable⟩ := hothers j hj
      rw [hawaited, hnone, hu]
      exact ⟨rfl, hvariable⟩
    · have hafter : u.heldIn (.remembered k) = {t.1} := by
        dsimp only [RilExchange.heldIn]
        rw [hawaited, hawaits, hu, hstored]
        rfl
      rw [hafter]
      exact remembered_store hawaits t.1
  | refused hawaits hcalls hout =>
    subst hcalls
    rw [hout, held_same hu (funext fun k => by rw [hawaited, hawaits]; rfl)]
    exact .answer t.1

theorem dtmfStart_requested {data : Option UInt8} {out : List CallModuleEffect}
    (hawaits : ∀ k, e.awaits s.ril k =
      (CallModuleEvent.request t (.dtmfStart data)).awaits s.ril.calls.table k)
    (h : rilRequestDtmfStart s.ril.calls t.1 data = (calls, out)) :
    ToneRequested s e t.1 .dtmfStart calls out := by
  unfold rilRequestDtmfStart at h
  by_cases htaken : findActiveCall s.ril.calls.table ≠ none ∧ data ≠ none
  · obtain ⟨activeCall, hcall⟩ := Option.ne_none_iff_exists'.mp htaken.1
    obtain ⟨tone, rfl⟩ := Option.ne_none_iff_exists'.mp htaken.2
    rw [hcall] at h
    obtain ⟨rfl, rfl⟩ := Prod.mk.inj h
    refine .stored ((hawaits _).trans (if_pos htaken)) (fun j hj => ?_) rfl rfl ?_
    · rw [hawaits]
      cases j with
      | dtmfStart => exact absurd rfl hj
      | search | dtmfStop => exact ⟨rfl, rfl⟩
    · split_ifs <;> rfl
  · have hnone : ∀ j, e.awaits s.ril j = none := by
      intro j
      rw [hawaits]
      cases j with
      | dtmfStart => exact if_neg htaken
      | search | dtmfStop => rfl
    cases hcall : findActiveCall s.ril.calls.table with
    | none =>
      rw [hcall] at h
      obtain ⟨rfl, rfl⟩ := Prod.mk.inj h
      exact .refused hnone rfl rfl
    | some activeCall =>
      cases data with
      | none =>
        rw [hcall] at h
        obtain ⟨rfl, rfl⟩ := Prod.mk.inj h
        exact .refused hnone rfl rfl
      | some tone => exact absurd ⟨by simp [hcall], by simp⟩ htaken

theorem dtmfStop_requested {out : List CallModuleEffect}
    (hawaits : ∀ k, e.awaits s.ril k =
      (CallModuleEvent.request t .dtmfStop).awaits s.ril.calls.table k)
    (h : rilRequestDtmfStop s.ril.calls t.1 = (calls, out)) :
    ToneRequested s e t.1 .dtmfStop calls out := by
  unfold rilRequestDtmfStop at h
  cases hcall : findActiveCall s.ril.calls.table with
  | none =>
    rw [hcall] at h
    obtain ⟨rfl, rfl⟩ := Prod.mk.inj h
    refine .refused (fun j => ?_) rfl rfl
    rw [hawaits]
    cases j with
    | dtmfStop => exact if_neg (not_not.mpr hcall)
    | search | dtmfStart => rfl
  | some activeCall =>
    rw [hcall] at h
    obtain ⟨rfl, rfl⟩ := Prod.mk.inj h
    have hactive : findActiveCall s.ril.calls.table ≠ none := by simp [hcall]
    refine .stored ((hawaits _).trans (if_pos hactive)) (fun j hj => ?_) rfl rfl rfl
    rw [hawaits]
    cases j with
    | dtmfStop => exact absurd rfl hj
    | search | dtmfStart => exact ⟨rfl, rfl⟩

theorem callModuleRequest_entry {c : CallModuleRequest} {out : List CallModuleEffect}
    (he : e.moduleEvent? = some (.calls (.request t c)))
    (h : callModuleRequestHandler s.ril.calls t.1 c = (calls, out))
    (hu : u.ril = s.ril.setModules { s.ril.modules with calls := calls })
    (hawaited : ∀ k, u.awaited k = (e.awaits s.ril k).getD (s.awaited k)) :
    RilEntry s e s.held u.held ([t.1] : List RilToken)
      (out.filterMap CallModuleEffect.completed : List RilToken) := by
  have hawaits : ∀ k, e.awaits s.ril k = (CallModuleEvent.request t c).awaits s.ril.calls.table k :=
    fun _ => awaits_of_calls he
  obtain ⟨t', ht, rfl⟩ := request_of_calls he
  cases c with
  | control c =>
    obtain ⟨rfl, rfl⟩ := Prod.mk.inj h
    obtain ⟨-, ⟨htones, -⟩, -⟩ := callRequest_ledger (s := s.ril.calls.table) t.2 c
    refine callTable_entry hu (funext fun k => ?_) htones ?_
    · rw [hawaited, hawaits]
      cases k <;> rfl
    · exact callRequest_entry (.inr rfl) t c (fun hk => .inl (ht ▸ .call hk))
        fun hk => .inl (ht ▸ .answer hk)
  | getCurrentCalls | lastCallFailCause | dtmf =>
    obtain ⟨rfl, rfl⟩ := Prod.mk.inj h
    rw [held_same hu (funext fun k => by rw [hawaited, hawaits]; cases k <;> rfl)]
    exact .answer t.1
  | dtmfStart data => exact toneRequested_entry (dtmfStart_requested hawaits h) hu hawaited
  | dtmfStop => exact toneRequested_entry (dtmfStop_requested hawaits h) hu hawaited

/-- A confirmation of a tone completes what is in the variable of its kind. -/
theorem toneConfirmed_entry (h : e.awaits s.ril k = some false)
    (hothers : ∀ j, j ≠ k → e.awaits s.ril j = none) (hu : u.ril = s.ril)
    (hawaited : ∀ k, u.awaited k = (e.awaits s.ril k).getD (s.awaited k)) :
    RilEntry s e s.held u.held ([] : List RilToken) ([s.ril.remembered k] : List RilToken) := by
  refine tone_entry k (show u.ril = s.ril.setModules s.ril.modules from hu) rfl (fun j hj => ?_) ?_
  · rw [hawaited, hothers j hj, hu]
    exact ⟨rfl, rfl⟩
  · have hafter : u.heldIn (.remembered k) = 0 := by
      dsimp only [RilExchange.heldIn]
      rw [hawaited, h]
      rfl
    rw [hafter]
    exact remembered_answer h

theorem callIndication_entry {ind : CallIndication}
    (he : e.moduleEvent? = some (.calls (.indication ind)))
    (hu : u.ril = s.ril.setModules { s.ril.modules with
      calls := (callModuleHandler s.ril.calls (.indication ind)).1 })
    (hawaited : ∀ k, u.awaited k = (e.awaits s.ril k).getD (s.awaited k)) :
    RilEntry s e s.held u.held 0 ((callModuleHandler s.ril.calls (.indication ind)).2.filterMap
      CallModuleEffect.completed : List RilToken) := by
  have hawaits : ∀ k, e.awaits s.ril k = (CallModuleEvent.indication ind).awaits s.ril.calls.table k :=
    fun _ => awaits_of_calls he
  by_cases hstart : ∃ reason, ind = .dtmfStart reason
  · obtain ⟨reason, rfl⟩ := hstart
    refine toneConfirmed_entry (k := .dtmfStart) (hawaits _) (fun j hj => ?_) hu hawaited
    rw [hawaits]
    cases j with
    | dtmfStart => exact absurd rfl hj
    | search | dtmfStop => rfl
  by_cases hstop : ∃ reason, ind = .dtmfStop reason
  · obtain ⟨reason, rfl⟩ := hstop
    refine toneConfirmed_entry (k := .dtmfStop) (hawaits _) (fun j hj => ?_) hu hawaited
    rw [hawaits]
    cases j with
    | dtmfStop => exact absurd rfl hj
    | search | dtmfStart => rfl
  · have hsettled : Settled s.ril.calls.table (callIndicationHandler s.ril.calls.table ind) :=
      (callIndication_settledAt_of_ne (fun reason h => hstart ⟨reason, h⟩)
        fun reason h => hstop ⟨reason, h⟩).forget
    refine callTable_entry (i := []) hu (funext fun k => ?_) hsettled.sameTones
      (settled_entry (.inr rfl) hsettled)
    have hnone : e.awaits s.ril k = none := by
      rw [hawaits]
      cases ind with
      | dtmfStart reason => exact absurd ⟨reason, rfl⟩ hstart
      | dtmfStop reason => exact absurd ⟨reason, rfl⟩ hstop
      | _ => cases k <;> rfl
    rw [hawaited, hnone]
    rfl

end Calls

/-- A step of one of the other modules. -/
theorem otherModule_entry {i : List RilToken} {o : List RilToken} (p : HeldPart)
    (he : e.moduleEvent? = some e') (hnot : ∀ c, e' ≠ .calls c)
    (hawaited : ∀ k, u.awaited k = (e.awaits s.ril k).getD (s.awaited k))
    (hu : u.ril = s.ril.setModules m) (hcalls : m.calls = s.ril.calls)
    (hothers : ∀ q, q ≠ p → (∀ k, q ≠ .remembered k) → u.heldIn q = s.heldIn q)
    (h : RilEntry s e (s.heldIn p) (u.heldIn p) i o) :
    RilEntry s e s.held u.held i o := by
  refine entry_part p (fun q hq => ?_) h
  by_cases hremembered : ∃ k, q = .remembered k
  · obtain ⟨k, rfl⟩ := hremembered
    have hvariable : u.ril.remembered k = s.ril.remembered k := by
      rw [hu]
      cases k with
      | search => rfl
      | dtmfStart => exact congrArg (fun c => c.table.tokenDtmfStart) hcalls
      | dtmfStop => exact congrArg (fun c => c.table.tokenDtmfStop) hcalls
    dsimp only [RilExchange.heldIn]
    rw [hvariable, hawaited, awaits_of_others he hnot]
    rfl
  · exact hothers q hq fun k hk => hremembered ⟨k, hk⟩

/-- **The ledger of a module's step.** -/
theorem module_entry (hs : s.ril.WellFormed) (he : e.moduleEvent? = some e')
    (h : ModulesStep s.ril.modules (e', out) m) (hu : u.ril = s.ril.setModules m)
    (hawaited : ∀ k, u.awaited k = (e.awaits s.ril k).getD (s.awaited k)) :
    RilEntry s e s.held u.held e'.brought (out.filterMap RilEffect.answered : List RilToken) := by
  cases h with
  | @calls c out calls h =>
    have hanswered : (out.map RilEffect.calls).filterMap RilEffect.answered =
        out.filterMap CallModuleEffect.completed := List.filterMap_map
    rw [hanswered]
    cases c with
    | request t c => exact callModuleRequest_entry he h hu hawaited
    | indication ind =>
      obtain ⟨rfl, rfl⟩ := Prod.mk.inj
        (show callModuleHandler s.ril.calls (.indication ind) = (calls, out) from h)
      exact callIndication_entry he hu hawaited
  | @sendSms t data out sms h =>
    have hanswered : (out.map RilEffect.sms).filterMap RilEffect.answered =
        out.filterMap SmsEffect.completed := by
      rw [List.filterMap_map]
      refine List.filterMap_congr fun e _ => ?_
      cases e <;> rfl
    rw [hanswered]
    obtain ⟨rfl, rfl⟩ := Prod.mk.inj (smsStep_iff.mp h).1
    refine otherModule_entry (i := [t.1]) .outgoingSms he nofun hawaited hu rfl ?_ ?_
    · intro q hq hremembered
      cases q with
      | outgoingSms => exact absurd rfl hq
      | remembered k => exact absurd rfl (hremembered k)
      | _ =>
        dsimp only [RilExchange.heldIn]
        rw [hu]
        rfl
    · dsimp only [RilExchange.heldIn]
      rw [hu]
      exact sendSms_entry (.inr rfl) (.inr rfl) hs.outgoingSms t s.ril.simIo.smscNumber data
        fun hnone => .inl (.malformed he hnone)
  | @sendStatus status out sms h =>
    have hanswered : (out.map RilEffect.sms).filterMap RilEffect.answered =
        out.filterMap SmsEffect.completed := by
      rw [List.filterMap_map]
      refine List.filterMap_congr fun e _ => ?_
      cases e <;> rfl
    rw [hanswered]
    obtain ⟨rfl, rfl⟩ := Prod.mk.inj (smsStep_iff.mp h).1
    refine otherModule_entry (i := []) .outgoingSms he nofun hawaited hu rfl ?_ ?_
    · intro q hq hremembered
      cases q with
      | outgoingSms => exact absurd rfl hq
      | remembered k => exact absurd rfl (hremembered k)
      | _ =>
        dsimp only [RilExchange.heldIn]
        rw [hu]
        rfl
    · dsimp only [RilExchange.heldIn]
      rw [hu]
      exact smsSendStatus_entry (.inr rfl) hs.outgoingSms status
  | @gprs e' out gprs h =>
    have hanswered : (out.map RilEffect.gprs).filterMap RilEffect.answered =
        out.filterMap GprsEffect.completed := List.filterMap_map
    rw [hanswered]
    refine otherModule_entry .gprs he nofun hawaited hu rfl ?_ ?_
    · intro q hq hremembered
      cases q with
      | gprs => exact absurd rfl hq
      | remembered k => exact absurd rfl (hremembered k)
      | _ =>
        dsimp only [RilExchange.heldIn]
        rw [hu]
        rfl
    · dsimp only [RilExchange.heldIn]
      rw [hu]
      exact gprs_entry (.inr rfl) (.inr rfl) (gprsStep_change h) fun c hc => .inl (.connection he hc)
  | @simIo e' out simIo h =>
    have hanswered : (out.map RilEffect.simIo).filterMap RilEffect.answered =
        out.filterMap SimIoEffect.completed := List.filterMap_map
    rw [hanswered]
    obtain ⟨rfl, rfl⟩ := Prod.mk.inj (show simIoHandler s.ril.simIo e' = (simIo, out) from h)
    refine otherModule_entry .simIo he nofun hawaited hu rfl ?_ ?_
    · intro q hq hremembered
      cases q with
      | simIo => exact absurd rfl hq
      | remembered k => exact absurd rfl (hremembered k)
      | _ =>
        dsimp only [RilExchange.heldIn]
        rw [hu]
        rfl
    · dsimp only [RilExchange.heldIn]
      rw [hu]
      exact simIo_entry hs.simIo e'

end Modules

end Mocha.Ril
