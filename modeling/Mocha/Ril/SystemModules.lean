import Mocha.Lib.Component
import Mocha.Ril.RequestRefusal
import Mocha.Ril.System

/-! The modules of calls, messages, data connections and SIM I/O side by side, and the telephony layer
as a refinement of them: a request or a callback is a step of one module, or it is handled outside and
leaves all of them alone. -/
namespace Mocha.Ril
open Mocha.Lib Mocha.Ipc

/-- The parts of `ril_data` that belong to the modules. -/
structure RilModules where
  calls : CallModule
  outgoingSms : SmsData
  gprs : GprsData
  simIo : SimIoData
deriving DecidableEq

namespace RilData

def modules (s : RilData) : RilModules := ⟨s.calls, s.outgoingSms, s.gprs, s.simIo⟩

def setModules (s : RilData) (m : RilModules) : RilData :=
  { s with calls := m.calls, outgoingSms := m.outgoingSms, gprs := m.gprs, simIo := m.simIo }

/-- `ipc_send` has a client that it can hand packets to. -/
def Connected (s : RilData) : Prop := s.ipcPacketClient.any (·.hasData)

/-- The refusal of a request, which does not keep it from its handler. -/
def refusal (s : RilData) : RilEvent → List RilEffect
  | .request _ t => if s.rilModemCheck < 0 then [.complete ⟨t.1, .radioNotAvailable, none⟩] else []
  | _ => []

end RilData

/-- What the modules react to. -/
inductive ModuleEvent
  | calls (e : CallModuleEvent)
  | sendSms (t : RequestToken) (data : Option (List (Option CString)))
  | sendStatus (status : UInt32)
  | gprs (e : GprsEvent)
  | simIo (e : SimIoEvent)

/-- The modules side by side: one of them takes a step, and the others stay as they are. A message is
sent by the number that SIM I/O has read. -/
inductive ModulesStep (m : RilModules) : ModuleEvent × List RilEffect → RilModules → Prop
  | calls {e : CallModuleEvent} {out : List CallModuleEffect} {calls : CallModule}
      (h : CallModuleStep m.calls (e, out) calls) :
      ModulesStep m (.calls e, out.map .calls) { m with calls := calls }
  | sendSms {t : RequestToken} {data : Option (List (Option CString))} {out : List SmsEffect}
      {sms : SmsData}
      (h : SmsStep m.outgoingSms (.rilRequestSendSms t m.simIo.smscNumber data, out) sms) :
      ModulesStep m (.sendSms t data, out.map .sms) { m with outgoingSms := sms }
  | sendStatus {status : UInt32} {out : List SmsEffect} {sms : SmsData}
      (h : SmsStep m.outgoingSms (.ipcSmsSendStatus status, out) sms) :
      ModulesStep m (.sendStatus status, out.map .sms) { m with outgoingSms := sms }
  | gprs {e : GprsEvent} {out : List GprsEffect} {gprs : GprsData}
      (h : GprsStep m.gprs (e, out) gprs) :
      ModulesStep m (.gprs e, out.map .gprs) { m with gprs := gprs }
  | simIo {e : SimIoEvent} {out : List SimIoEffect} {simIo : SimIoData}
      (h : SimIoStep m.simIo (e, out) simIo) :
      ModulesStep m (.simIo e, out.map .simIo) { m with simIo := simIo }

/-- The requests that go to a module. -/
def RilRequest.moduleEvent? (t : FrameworkToken) : RilRequest → Option ModuleEvent
  | .calls c => some (.calls (.request t.request c))
  | .sendSms data | .sendSmsExpectMore data => some (.sendSms t.request data)
  | .setupDataCall data allocated iface =>
    some (.gprs (.setupDataCall t.request data allocated iface))
  | .deactivateDataCall cid => some (.gprs (.deactivateDataCall t.request cid))
  | .lastDataCallFailCause => some (.gprs (.lastDataCallFailCause t.request))
  | .dataCallList => some (.gprs (.dataCallList t.request))
  | .simIo data => some (.simIo (.rilRequestSimIo t data))
  | _ => none

/-- The callbacks that go to a module. -/
def RilCallback.moduleEvent? : RilCallback → Option ModuleEvent
  | .calls ind => some (.calls (.indication ind))
  | .nettextSend status => some (.sendStatus status)
  | .proto ind => some (.gprs ind.1)
  | .simIoResponse ev => some (.simIo (.ipcSimIoResponse ev))
  | .simSmscNumber ev _ => some (.simIo (.ipcSimSmscNumber ev))
  | _ => none

def RilEvent.moduleEvent? : RilEvent → Option ModuleEvent
  | .request r t => r.moduleEvent? t
  | .callback c => c.moduleEvent?
  | _ => none

/-- The effects of the modules. -/
def SystemEffect.module? : SystemEffect → Option RilEffect
  | .identity (.ril (.calls e)) => some (.calls e)
  | .identity (.ril (.sms e)) => some (.sms e)
  | .identity (.ril (.gprs e)) => some (.gprs e)
  | .identity (.ril (.simIo e)) => some (.simIo e)
  | _ => none

/-- The step of the modules that a step of the system is, if any. -/
def moduleSteps (a : RilEvent × List SystemEffect) : List (ModuleEvent × List RilEffect) :=
  a.1.moduleEvent?.toList.map fun e => (e, a.2.filterMap SystemEffect.module?)

/-- The token that is completed outside of the modules. -/
def SystemEffect.completed : SystemEffect → Option RilToken
  | .identity e => e.completed
  | _ => none

/-- A handler that leaves the modules and the client alone, and completes nothing in a module. -/
structure Outside (s u : RilData) (out : List SystemEffect) : Prop where
  modules : u.modules = s.modules
  client : u.Connected ↔ s.Connected
  plain : out.filterMap SystemEffect.answered = out.filterMap SystemEffect.completed

/-- The same, for the handlers of `mocha-ril`. -/
structure RilOutside (s : RilData) (r : RilData × List RilEffect) : Prop where
  modules : r.1.modules = s.modules
  client : r.1.ipcPacketClient = s.ipcPacketClient
  plain : r.2.filterMap RilEffect.answered = completedTokens r.2

section Outside

variable {s u : RilData} {r : RilData × List RilEffect} {t : RilToken}

theorem RilOutside.nothing : RilOutside s (s, []) := ⟨rfl, rfl, rfl⟩

theorem RilOutside.then (h : RilOutside s r) {f : RilData → RilData × List RilEffect}
    (hf : RilOutside r.1 (f r.1)) : RilOutside s (andThen r f) where
  modules := hf.modules.trans h.modules
  client := hf.client.trans h.client
  plain := by
    rw [andThen, List.filterMap_append, completedTokens_append, h.plain, hf.plain]

/-- The state that a handler starts from is written to outside of the modules. -/
theorem RilOutside.congr {s' : RilData} (h : RilOutside s r) (hs : s.modules = s'.modules)
    (hs' : s.ipcPacketClient = s'.ipcPacketClient) : RilOutside s' r :=
  ⟨h.modules.trans hs, h.client.trans hs', h.plain⟩

/-- The state that a handler leaves is written to outside of the modules. -/
theorem RilOutside.written (h : RilOutside s r) (hu : u.modules = r.1.modules)
    (hu' : u.ipcPacketClient = r.1.ipcPacketClient) : RilOutside s (u, r.2) :=
  ⟨hu.trans h.modules, hu'.trans h.client, h.plain⟩

/-- Effects that complete nothing are put around those of a handler. -/
theorem RilOutside.around (before after : List RilEffect) (h : RilOutside s r)
    (hbefore : before.filterMap RilEffect.answered = completedTokens before)
    (hafter : after.filterMap RilEffect.answered = completedTokens after) :
    RilOutside s (r.1, before ++ r.2 ++ after) where
  modules := h.modules
  client := h.client
  plain := by
    simp only [List.filterMap_append, completedTokens_append, hbefore, hafter, h.plain]

theorem RilOutside.lift (h : RilOutside s r) (before after : List IdentityEffect)
    (hbefore : (before.map SystemEffect.identity).filterMap SystemEffect.answered =
      (before.map SystemEffect.identity).filterMap SystemEffect.completed)
    (hafter : (after.map SystemEffect.identity).filterMap SystemEffect.answered =
      (after.map SystemEffect.identity).filterMap SystemEffect.completed) :
    Outside s r.1 ((before ++ r.2.map IdentityEffect.ril ++ after).map .identity) where
  modules := h.modules
  client := by
    unfold RilData.Connected
    rw [h.client]
  plain := by
    have hanswered : ((r.2.map IdentityEffect.ril).map SystemEffect.identity).filterMap
        SystemEffect.answered = r.2.filterMap RilEffect.answered := by
      rw [List.map_map]
      exact List.filterMap_map
    have hcompleted : ((r.2.map IdentityEffect.ril).map SystemEffect.identity).filterMap
        SystemEffect.completed = completedTokens r.2 := by
      rw [List.map_map]
      exact List.filterMap_map
    simp only [List.map_append, List.filterMap_append, hbefore, hafter, hanswered, hcompleted, h.plain]

theorem RilOutside.ofRil (h : RilOutside s r) : Outside s (ofRil r).1 (ofRil r).2 := by
  have hlift := h.lift [] [] rfl rfl
  rwa [List.nil_append, List.append_nil, List.map_map] at hlift

theorem checkVersion_outside (s : RilData) : RilOutside s (checkVersion s) := by
  unfold checkVersion rilRequestBasebandVersion
  dsimp only
  split_ifs <;> exact ⟨rfl, rfl, rfl⟩

theorem checkImei_outside (s : RilData) : RilOutside s (checkImei s) := by
  unfold checkImei rilRequestGetImei
  dsimp only
  split_ifs <;> exact ⟨rfl, rfl, rfl⟩

theorem checkImsi_outside (s : RilData) : RilOutside s (checkImsi s) := by
  unfold checkImsi rilRequestGetImsi
  dsimp only
  split_ifs <;> exact ⟨rfl, rfl, rfl⟩

theorem rilTokensCheck_outside (s : RilData) : RilOutside s (rilTokensCheck s) := by
  rw [rilTokensCheck_eq_parts]
  exact ((checkVersion_outside s).then (checkImei_outside _)).then (checkImsi_outside _)

theorem rilStateUpdate_outside (s : RilData) (simState : RilSimState) :
    RilOutside s (rilStateUpdate s simState) := by
  unfold rilStateUpdate
  dsimp only
  by_cases hpower : s.state.powerState ≠ .normal
  · rw [if_pos hpower]
    exact ⟨rfl, rfl, rfl⟩
  · rw [if_neg hpower]
    refine RilOutside.around _ _ ((rilTokensCheck_outside _).congr rfl rfl) ?_ rfl
    split_ifs <;> rfl

theorem ipcSimStatus_outside (s : RilData) (simState : RilSimState) :
    RilOutside s (ipcSimStatus s simState) := by
  unfold ipcSimStatus
  dsimp only
  rw [List.append_assoc]
  have h := rilStateUpdate_outside s simState
  generalize rilStateUpdate s simState = r at h ⊢
  have hwritten : RilOutside s (if simState = .pin then
      { r.1 with state := { r.1.state with bPinLock := 1 } } else r.1, r.2) := by
    split_ifs
    · exact h.written rfl rfl
    · exact h
  refine hwritten.around [] _ rfl ?_
  rw [List.filterMap_append, completedTokens_append]
  split_ifs <;> rfl

theorem completeChv_outside {errno : RilErrno} {response : Option RilResponse}
    {besides : ChvKind → RilData → RilData × List RilEffect}
    (h : ∀ k s, RilOutside s (besides k s)) : RilOutside s (completeChv s errno response besides) := by
  unfold completeChv
  cases s.tokens.pendingChv with
  | none => exact .nothing
  | some k =>
    have hdone := ((h k s).written (u := { (besides k s).1 with
      tokens := (besides k s).1.tokens.setChv rilTokenNull k }) rfl rfl).around
        [.complete ⟨s.tokens.chv k, errno, response⟩] [] rfl rfl
    rwa [List.append_nil] at hdone

theorem ipcLockStatus_outside (s : RilData) (ev : SimEvent) : RilOutside s (ipcLockStatus s ev) := by
  have hopen : ∀ k s, RilOutside s (openSim k s) := by
    intro k s
    cases k <;> exact ⟨rfl, rfl, rfl⟩
  have hlock : ∀ k s, RilOutside s (lockSim k s) := by
    intro k s
    cases k with
    | pinStatus | pukStatus => exact ipcSimStatus_outside s _
    | setFacilityLock | changeSimPin => exact .nothing
  unfold ipcLockStatus
  split_ifs
  · split
    · exact completeChv_outside hopen
    · exact completeChv_outside fun _ _ => .nothing
    · exact completeChv_outside hlock
    · exact .nothing
  · exact completeChv_outside fun _ _ => .nothing

theorem rilRequestRadioPower_outside (powerState : ℤ) :
    RilOutside s (rilRequestRadioPower s t powerState) := by
  have hstart : ∀ s, RilOutside s (networkStart s) := by
    intro s
    unfold networkStart
    dsimp only
    have hpackets (startInfo : TapiStartupNetworkInfo) :=
      (ipcSimStatus_outside s .ready).around [.ipc (.tapiNetworkStartup startInfo),
        .ipc (.tapiNettextSetPreferredMemory 1), .ipc (.tapiNettextSetNetBurst 0)] [] rfl rfl
    simp only [List.append_nil] at hpackets
    split_ifs
    · exact hpackets _
    · exact ⟨rfl, rfl, rfl⟩
  unfold rilRequestRadioPower
  dsimp only
  split_ifs
  · exact ⟨rfl, rfl, rfl⟩
  · exact ⟨rfl, rfl, rfl⟩
  · exact (RilOutside.around [.ipc (.tapiSetOfflineMode tapiNetworkOfflineModeOff)]
      [.complete ⟨t, .success, none⟩, .unsolicited .responseRadioStateChanged] (hstart _) rfl
      rfl).congr rfl rfl

/-- A request that goes to no module. -/
theorem rilRequestHandler_outside (request : RilRequest) {t : FrameworkToken}
    (h : request.moduleEvent? t = none) : RilOutside s (rilRequestHandler s t.1 request) := by
  cases request with
  | simIo | sendSms | sendSmsExpectMore | calls | setupDataCall | deactivateDataCall
  | lastDataCallFailCause | dataCallList => cases h
  | radioPower powerState => exact rilRequestRadioPower_outside powerState
  | getImei =>
    dsimp only [rilRequestHandler, rilRequestGetImei]
    split_ifs <;> exact ⟨rfl, rfl, rfl⟩
  | getImsi =>
    dsimp only [rilRequestHandler, rilRequestGetImsi]
    split_ifs <;> exact ⟨rfl, rfl, rfl⟩
  | basebandVersion =>
    dsimp only [rilRequestHandler, rilRequestBasebandVersion]
    split_ifs <;> exact ⟨rfl, rfl, rfl⟩
  | enterSimPin pointerLength pin =>
    dsimp only [rilRequestHandler, rilRequestEnterSimPin]
    split_ifs <;> exact ⟨rfl, rfl, rfl⟩
  | enterSimPuk data =>
    dsimp only [rilRequestHandler, rilRequestEnterSimPuk]
    split <;> exact ⟨rfl, rfl, rfl⟩
  | queryFacilityLock data =>
    dsimp only [rilRequestHandler, rilRequestQueryFacilityLock]
    split
    · split_ifs <;> exact ⟨rfl, rfl, rfl⟩
    · exact ⟨rfl, rfl, rfl⟩
  | setFacilityLock data =>
    dsimp only [rilRequestHandler, rilRequestSetFacilityLock]
    split
    · split_ifs <;> exact ⟨rfl, rfl, rfl⟩
    · exact ⟨rfl, rfl, rfl⟩
  | changeSimPin data =>
    dsimp only [rilRequestHandler, rilRequestChangeSimPin]
    split <;> exact ⟨rfl, rfl, rfl⟩
  | operator =>
    dsimp only [rilRequestHandler, rilRequestOperator]
    split_ifs <;> exact ⟨rfl, rfl, rfl⟩
  | setNetworkSelectionManual data =>
    dsimp only [rilRequestHandler, rilRequestSetNetworkSelectionManual]
    split <;> exact ⟨rfl, rfl, rfl⟩
  | setPreferredNetworkType data =>
    dsimp only [rilRequestHandler, rilRequestSetPreferredNetworkType]
    split
    · exact ⟨rfl, rfl, rfl⟩
    · split_ifs <;> exact ⟨rfl, rfl, rfl⟩
  | sendUssd data =>
    dsimp only [rilRequestHandler, rilRequestSendUssd]
    split_ifs <;> exact ⟨rfl, rfl, rfl⟩
  | screenState status =>
    dsimp only [rilRequestHandler, rilRequestScreenState]
    split_ifs <;> exact ⟨rfl, rfl, rfl⟩
  | getSimStatus | voiceRegistrationState | dataRegistrationState | queryAvailableNetworks
  | setNetworkSelectionAutomatic | queryNetworkSelectionMode | getPreferredNetworkType
  | smsAcknowledge | setMute | cancelUssd | other => exact ⟨rfl, rfl, rfl⟩

theorem completeSelection_outside (s : RilData) (netInfo : TapiNetworkInfo) :
    RilOutside s (completeSelection s netInfo) := by
  unfold completeSelection
  dsimp only
  split_ifs <;> exact ⟨rfl, rfl, rfl⟩

theorem networkSelected_outside (s : RilData) (netInfo : TapiNetworkInfo) :
    RilOutside s (networkSelected s netInfo) := by
  unfold networkSelected
  dsimp only
  refine RilOutside.around [] _ ?_ rfl rfl
  split_ifs
  · exact (completeSelection_outside _ netInfo).congr rfl rfl
  · exact ⟨rfl, rfl, rfl⟩

theorem ipcCellInfo_outside (s : RilData) (cellInfo : TapiCellInfo) :
    RilOutside s ((ipcCellInfo ⟨s, 0⟩ cellInfo).1.ril, (ipcCellInfo ⟨s, 0⟩ cellInfo).2) := by
  exact ⟨rfl, rfl, rfl⟩

theorem ipcSimOpen_outside (s : RilData) (ev : SimEvent) (stack : CString) :
    Outside s (ofIdentity (ipcSimOpen s ev stack)).1 (ofIdentity (ipcSimOpen s ev stack)).2 := by
  have hcheck : ∀ (r : RilData × List RilEffect) (imsi : CString), RilOutside s r →
      RilOutside s (andThen r fun s => rilTokensCheck { s with cachedImsi := imsi }) :=
    fun r imsi h => h.then ((rilTokensCheck_outside { r.1 with cachedImsi := imsi }).congr rfl rfl)
  have hopen : RilOutside s (if ev.eventStatus = simCardNotPresent then ipcSimStatus s .absent
      else if ev.eventStatus = simOk then ipcSimStatus s .ready else (s, [])) := by
    split_ifs
    · exact ipcSimStatus_outside s .absent
    · exact ipcSimStatus_outside s .ready
    · exact .nothing
  unfold ofIdentity ipcSimOpen
  dsimp only
  generalize (if ev.eventStatus = simCardNotPresent then ipcSimStatus s .absent
    else if ev.eventStatus = simOk then ipcSimStatus s .ready else (s, [])) = r at hopen ⊢
  exact (hcheck r _ hopen).lift [] [.ipcBoot8Mode 1] rfl rfl

theorem cpSystemStarted_outside (s : RilData) (desc : CString) (datasize : UInt32) :
    Outside s (ofIdentity (cpSystemStarted s desc datasize)).1
      (ofIdentity (cpSystemStarted s desc datasize)).2 := by
  let started : List IdentityEffect := [.tapiInit, .protoStartup, .simAtkOpen, .simOpenToModem 4,
    .ril (.unsolicited .responseRadioStateChanged)]
  have hcheck : ∀ u : RilData, u.modules = s.modules → u.ipcPacketClient = s.ipcPacketClient →
      Outside s (rilTokensCheck u).1
        ((started ++ (rilTokensCheck u).2.map IdentityEffect.ril).map .identity) := by
    intro u hu hu'
    have h := ((rilTokensCheck_outside u).congr hu hu').lift started [] rfl rfl
    rwa [List.append_nil] at h
  exact hcheck _ rfl rfl

end Outside

/-- What an event is: a step of a module, beside which a request may be refused, or it is handled
outside of the modules. -/
inductive RilChange (s : RilData) (e : RilEvent) : RilData → List SystemEffect → Prop
  | outside {u : RilData} {out : List SystemEffect} (he : e.moduleEvent? = none)
      (h : Outside s u out) : RilChange s e u out
  | module {m : RilModules} {e' : ModuleEvent} {out : List RilEffect}
      (he : e.moduleEvent? = some e') (h : ModulesStep s.modules (e', out) m) :
      RilChange s e (s.setModules m) ((s.refusal e ++ out).map fun e => .identity (.ril e))

section Step

variable {s u : RilData} {out : List SystemEffect} {e : RilEvent} {t : FrameworkToken}

theorem ipcSend_eq (hs : s.Connected) (out : List RilEffect) : s.ipcSend out = out := by
  apply List.filter_eq_self.mpr
  intro e _
  rw [hs, Bool.or_true]

theorem sendSms_step (s : RilData) (t : RequestToken) (data : Option (List (Option CString))) :
    ∃ sms out, s.sendSms t.1 data = ({ s with outgoingSms := sms }, out.map .sms) ∧
      (freesOnce out → SmsStep s.outgoingSms (.rilRequestSendSms t s.simIo.smscNumber data, out) sms) := by
  have hsend := rilRequestSendSms_eq (t := t) s data
  unfold RilData.sendSms
  rw [hsend]
  exact ⟨_, _, rfl, fun honce => ⟨⟨_, hsend⟩, honce⟩⟩

theorem smsSendStatus_step (s : RilData) (status : UInt32) :
    ∃ sms out, s.smsSendStatus status = ({ s with outgoingSms := sms }, out.map .sms) ∧
      (freesOnce out → SmsStep s.outgoingSms (.ipcSmsSendStatus status, out) sms) := by
  have hnext : rilRequestSendSmsNext s.sendSmsFuel s.outgoingSms =
      some (drain s.outgoingSms.outgoingSms) := by
    apply rilRequestSendSmsNext_eq
    unfold RilData.sendSmsFuel
    omega
  have hstatus : ∃ r, ipcSmsSendStatus s.sendSmsFuel s.outgoingSms status = some r := by
    unfold ipcSmsSendStatus
    rw [hnext]
    exact ⟨_, rfl⟩
  obtain ⟨r, hr⟩ := hstatus
  unfold RilData.smsSendStatus
  rw [hr]
  exact ⟨_, _, rfl, fun honce => ⟨⟨_, hr⟩, honce⟩⟩

/-- Where nothing is freed twice among the effects of the system, nothing is among those of messages. -/
theorem freesOnce_of_system (refusal : List RilEffect) {out : List SmsEffect}
    (h : ∀ e ∈ (refusal ++ out.map RilEffect.sms).map fun e => SystemEffect.identity (.ril e),
      e.freesAgain = false) : freesOnce out := by
  refine freesOnce_iff.mpr fun e he => ?_
  have hmem : RilEffect.sms e ∈ refusal ++ out.map .sms :=
    List.mem_append_right _ (List.mem_map_of_mem he)
  exact h _ (List.mem_map_of_mem (f := fun e => SystemEffect.identity (.ril e)) hmem)

/-- The refusal and what the handler does. -/
theorem rilOnRequest_eq (hs : s.Connected) (request : RilRequest) : rilOnRequest s request t.1 =
    ((rilRequestHandler s t.1 request).1,
      s.refusal (.request request t) ++ (rilRequestHandler s t.1 request).2) := by
  unfold rilOnRequest
  dsimp only
  rw [ipcSend_eq hs]
  rfl

theorem rilOnRequest_outside (hs : s.Connected) (request : RilRequest)
    (h : request.moduleEvent? t = none) : RilOutside s (rilOnRequest s request t.1) := by
  have hrefusal : (s.refusal (.request request t)).filterMap RilEffect.answered =
      completedTokens (s.refusal (.request request t)) := by
    unfold RilData.refusal
    dsimp only
    split_ifs <;> rfl
  have hhandler := (rilRequestHandler_outside (s := s) request h).around _ [] hrefusal rfl
  rw [rilOnRequest_eq hs]
  rwa [List.append_nil] at hhandler

/-- A request that goes to a module. -/
theorem rilOnRequest_module {request : RilRequest} {e : ModuleEvent}
    (h : request.moduleEvent? t = some e)
    (honce : ∀ e ∈ (s.refusal (.request request t) ++ (rilRequestHandler s t.1 request).2).map
      fun e => SystemEffect.identity (.ril e), e.freesAgain = false) :
    ∃ m out, ModulesStep s.modules (e, out) m ∧
      rilRequestHandler s t.1 request = (s.setModules m, out) := by
  have hsms := sendSms_step s t.request
  cases request with
  | calls c =>
    obtain rfl := Option.some.inj h
    exact ⟨_, _, .calls rfl, rfl⟩
  | sendSms data | sendSmsExpectMore data =>
    obtain rfl := Option.some.inj h
    obtain ⟨sms, out, heq, hstep⟩ := hsms data
    rw [rilRequestHandler, show s.sendSms t.1 data = _ from heq] at honce
    exact ⟨_, _, .sendSms (hstep (freesOnce_of_system _ honce)), heq⟩
  | setupDataCall data allocated iface =>
    obtain rfl := Option.some.inj h
    exact ⟨_, _, .gprs rfl, rfl⟩
  | deactivateDataCall cid =>
    obtain rfl := Option.some.inj h
    exact ⟨_, _, .gprs rfl, rfl⟩
  | lastDataCallFailCause | dataCallList =>
    obtain rfl := Option.some.inj h
    exact ⟨_, _, .gprs rfl, rfl⟩
  | simIo data =>
    obtain rfl := Option.some.inj h
    exact ⟨_, _, .simIo rfl, rfl⟩
  | _ => cases h

/-- A callback that goes to a module. -/
theorem ipcInvokeRilCb_module {c : RilCallback} {e : ModuleEvent} (h : c.moduleEvent? = some e)
    (hcb : ipcInvokeRilCb s c = some (u, out)) : ∃ m out', ModulesStep s.modules (e, out') m ∧
      u = s.setModules m ∧ out = out'.map fun e => .identity (.ril e) := by
  cases c with
  | calls ind =>
    obtain rfl := Option.some.inj h
    obtain ⟨r, hr, heq⟩ := Option.map_eq_some_iff.mp hcb
    obtain ⟨hstep, -⟩ := callModuleIndicationInBounds_eq_some.mp hr
    obtain ⟨rfl, rfl⟩ := Prod.mk.inj heq
    exact ⟨_, _, .calls hstep, rfl, rfl⟩
  | proto ind =>
    obtain rfl := Option.some.inj h
    obtain ⟨rfl, rfl⟩ := Prod.mk.inj (Option.some.inj hcb)
    have hstep : GprsStep s.gprs (ind.1, (gprsHandler s.gprs ind.1).2)
        (gprsHandler s.gprs ind.1).1 := rfl
    exact ⟨_, _, .gprs hstep, rfl, rfl⟩
  | simIoResponse ev =>
    obtain rfl := Option.some.inj h
    obtain ⟨rfl, rfl⟩ := Prod.mk.inj (Option.some.inj hcb)
    have hstep : SimIoStep s.simIo (.ipcSimIoResponse ev, (ipcSimIoResponse s.simIo ev).2)
        (ipcSimIoResponse s.simIo ev).1 := rfl
    exact ⟨_, _, .simIo hstep, rfl, rfl⟩
  | simSmscNumber ev len =>
    obtain rfl := Option.some.inj h
    obtain ⟨r, hr, heq⟩ := Option.map_eq_some_iff.mp hcb
    obtain ⟨_, -, rfl⟩ := Option.map_eq_some_iff.mp hr
    obtain ⟨rfl, rfl⟩ := Prod.mk.inj heq
    have hstep : SimIoStep s.simIo (.ipcSimSmscNumber ev, (ipcSimSmscNumber s.simIo ev).2)
        (ipcSimSmscNumber s.simIo ev).1 := rfl
    exact ⟨_, _, .simIo hstep, rfl, rfl⟩
  | nettextSend status =>
    obtain rfl := Option.some.inj h
    obtain ⟨sms, out', heq, hstep⟩ := smsSendStatus_step s status
    obtain ⟨heq', honce⟩ := freedOnce_eq_some.mp hcb
    rw [heq] at heq' honce
    obtain ⟨rfl, rfl⟩ := Prod.mk.inj heq'
    exact ⟨_, _, .sendStatus (hstep (freesOnce_of_system [] honce)), rfl, rfl⟩
  | _ => cases h

/-- An answer to USSD changes the state of the dialogue. -/
theorem ipcSsUssdResponse_state {fresh : ℕ → UInt8} {ssResp : TapiSsCallback}
    {p : RilData × Option OnUssd} (h : ipcSsUssdResponse fresh s ssResp = some p) :
    ∃ ussdState, p.1 = { s with state := { s.state with ussdState := ussdState } } := by
  unfold ipcSsUssdResponse at h
  split_ifs at h
  · obtain rfl := Option.some.inj h
    exact ⟨s.state.ussdState, rfl⟩
  all_goals
    obtain ⟨message, -, hp⟩ := Option.bind_eq_some_iff.mp h
    obtain rfl := Option.some.inj hp
    exact ⟨_, rfl⟩

/-- The callbacks that go to no module. -/
theorem ipcInvokeRilCb_outside {c : RilCallback} (hc : c.moduleEvent? = none)
    (h : ipcInvokeRilCb s c = some (u, out)) : Outside s u out := by
  cases c with
  | calls | proto | simIoResponse | simSmscNumber | nettextSend => cases hc
  | cpSystemStart desc datasize =>
    obtain ⟨r, hr, heq⟩ := Option.map_eq_some_iff.mp h
    obtain ⟨rfl, -⟩ := ipcCpSystemStart_eq_some.mp hr
    obtain ⟨rfl, rfl⟩ := Prod.mk.inj heq
    exact cpSystemStarted_outside s desc datasize
  | networkRadioInfo rxLevel =>
    have heq : ipcNetworkRadioInfo s rxLevel = (u, out) := Option.some.inj h
    unfold ipcNetworkRadioInfo at heq
    split at heq <;> cases heq <;> exact ⟨rfl, .rfl, rfl⟩
  | networkSelect netInfo =>
    obtain ⟨r, hr, heq⟩ := Option.map_eq_some_iff.mp h
    obtain ⟨rfl, -⟩ := ipcNetworkSelect_eq_some.mp hr
    obtain ⟨rfl, rfl⟩ := Prod.mk.inj heq
    exact (networkSelected_outside s netInfo).ofRil
  | networkCellInfo cellInfo =>
    obtain ⟨rfl, rfl⟩ := Prod.mk.inj (Option.some.inj h)
    exact (ipcCellInfo_outside s cellInfo).ofRil
  | networkNitzInfo nitz =>
    have heq : ipcNetworkNitzInfo s nitz = (u, out) := Option.some.inj h
    unfold ipcNetworkNitzInfo at heq
    split_ifs at heq <;> cases heq <;> exact ⟨rfl, .rfl, rfl⟩
  | networkSearchCnf entries =>
    obtain ⟨rfl, rfl⟩ := Prod.mk.inj (Option.some.inj h)
    exact RilOutside.ofRil (r := ipcNetworkSearchCnf s entries) ⟨rfl, rfl, rfl⟩
  | networkSelectCnf netInfo =>
    obtain ⟨rfl, rfl⟩ := Prod.mk.inj (Option.some.inj h)
    exact (completeSelection_outside s netInfo).ofRil
  | simOpen ev len stack =>
    obtain ⟨r, hr, heq⟩ := Option.map_eq_some_iff.mp h
    obtain ⟨_, -, rfl⟩ := Option.map_eq_some_iff.mp hr
    obtain ⟨rfl, rfl⟩ := Prod.mk.inj heq
    exact ipcSimOpen_outside s ev stack
  | simStatus simState =>
    obtain ⟨rfl, rfl⟩ := Prod.mk.inj (Option.some.inj h)
    exact (ipcSimStatus_outside s simState).ofRil
  | lockStatus ev =>
    obtain ⟨rfl, rfl⟩ := Prod.mk.inj (Option.some.inj h)
    exact (ipcLockStatus_outside s ev).ofRil
  | nettextIncoming info =>
    obtain ⟨p, -, hp⟩ := Option.map_eq_some_iff.mp h
    obtain ⟨rfl, rfl⟩ := Prod.mk.inj hp
    exact ⟨rfl, .rfl, rfl⟩
  | ssUssd fresh ssResp =>
    obtain ⟨p, hp, heq⟩ := Option.map_eq_some_iff.mp h
    obtain ⟨rfl, rfl⟩ := Prod.mk.inj heq
    obtain ⟨ussdState, hussd⟩ := ipcSsUssdResponse_state hp
    rw [hussd]
    refine ⟨rfl, .rfl, ?_⟩
    cases p.2 <;> rfl
  | ssError data =>
    obtain ⟨rfl, rfl⟩ := Prod.mk.inj (Option.some.inj h)
    exact ⟨rfl, .rfl, rfl⟩
  | lbsState lbsState =>
    obtain ⟨rfl, rfl⟩ := Prod.mk.inj (Option.some.inj h)
    exact ⟨rfl, .rfl, rfl⟩

/-- A request that is handled is within its bounds, and frees nothing twice. -/
theorem rilStep_request {request : RilRequest} (h : RilStep s (.request request t, out) u) :
    ofRil (rilOnRequest s request t.1) = (u, out) ∧ request.InBounds s ∧
      ∀ e ∈ out, e.freesAgain = false := by
  change (if request.InBounds s then freedOnce (ofRil (rilOnRequest s request t.1)) else none) =
    some (u, out) at h
  split_ifs at h with hin
  obtain ⟨heq, honce⟩ := freedOnce_eq_some.mp h
  rw [heq] at honce
  exact ⟨heq, hin, honce⟩

theorem rilStep_change (hs : s.Connected) (h : RilStep s (e, out) u) : RilChange s e u out := by
  cases e with
  | request request t =>
    obtain ⟨heq, -, honce⟩ := rilStep_request h
    obtain ⟨rfl, rfl⟩ := Prod.mk.inj heq
    cases hmodule : request.moduleEvent? t with
    | none => exact .outside hmodule (rilOnRequest_outside hs request hmodule).ofRil
    | some e =>
      rw [rilOnRequest_eq hs] at honce ⊢
      obtain ⟨m, out, hstep, heq⟩ := rilOnRequest_module hmodule honce
      rw [heq]
      exact .module hmodule hstep
  | callback c =>
    cases hmodule : c.moduleEvent? with
    | none => exact .outside hmodule (ipcInvokeRilCb_outside hmodule h)
    | some e =>
      obtain ⟨m, out, hstep, rfl, rfl⟩ := ipcInvokeRilCb_module (s := s) hmodule h
      exact RilChange.module hmodule hstep
  | clientState state =>
    obtain ⟨rfl, rfl⟩ := Prod.mk.inj (Option.some.inj h)
    refine .outside rfl ⟨rfl, ?_, rfl⟩
    unfold RilData.Connected
    rw [Option.any_map]
  | loadSecData data =>
    obtain ⟨rfl, rfl⟩ := Prod.mk.inj (Option.some.inj h)
    exact .outside rfl ⟨rfl, .rfl, rfl⟩

theorem rilStep_outside (hs : s.Connected) (he : e.moduleEvent? = none)
    (h : RilStep s (e, out) u) : Outside s u out := by
  cases rilStep_change hs h with
  | outside _ h => exact h
  | module he' _ => cases he.symm.trans he'

theorem rilStep_module (hs : s.Connected) {e' : ModuleEvent} (he : e.moduleEvent? = some e')
    (h : RilStep s (e, out) u) : ∃ m out', u = s.setModules m ∧
      ModulesStep s.modules (e', out') m ∧
        out = (s.refusal e ++ out').map fun e => .identity (.ril e) := by
  cases rilStep_change hs h with
  | outside he' _ => cases he.symm.trans he'
  | module he' h =>
    obtain rfl := Option.some.inj (he.symm.trans he')
    exact ⟨_, _, rfl, h, rfl⟩

theorem RilChange.connected (h : RilChange s e u out) (hs : s.Connected) : u.Connected := by
  cases h with
  | outside _ h => exact h.client.mpr hs
  | module _ _ => exact hs

/-- The effects of a step of the modules are told from the other effects of the system. -/
theorem ModulesStep.effects {m m' : RilModules} {e' : ModuleEvent} {out' : List RilEffect}
    (h : ModulesStep m (e', out') m') :
    out'.filterMap (fun e => SystemEffect.module? (.identity (.ril e))) = out' := by
  have hembed : ∀ {ω : Type} (embed : ω → RilEffect) (out : List ω),
      (∀ e, SystemEffect.module? (.identity (.ril (embed e))) = some (embed e)) →
      (out.map embed).filterMap (fun e => SystemEffect.module? (.identity (.ril e))) =
        out.map embed := by
    intro ω embed out hsome
    rw [List.filterMap_map]
    exact (List.filterMap_congr fun e _ => hsome e).trans (congrFun List.filterMap_eq_map out)
  cases h with
  | calls _ => exact hembed .calls _ fun _ => rfl
  | sendSms _ | sendStatus _ => exact hembed .sms _ fun _ => rfl
  | gprs _ => exact hembed .gprs _ fun _ => rfl
  | simIo _ => exact hembed .simIo _ fun _ => rfl

theorem refusal_module (s : RilData) (e : RilEvent) :
    (s.refusal e).filterMap (fun e => SystemEffect.module? (.identity (.ril e))) = [] := by
  unfold RilData.refusal
  split
  · split_ifs <;> rfl
  · rfl

theorem RilChange.modules (h : RilChange s e u out) :
    Run ModulesStep s.modules (moduleSteps (e, out)) u.modules := by
  cases h with
  | outside he h =>
    have hnone : moduleSteps (e, out) = [] := by
      unfold moduleSteps
      rw [he]
      rfl
    rw [hnone, h.modules]
    exact .nil
  | @module m e' out' he h =>
    have hone : moduleSteps (e, (s.refusal e ++ out').map fun e => .identity (.ril e)) =
        [(e', out')] := by
      unfold moduleSteps
      rw [he, List.filterMap_map, List.filterMap_append]
      change [(e', (s.refusal e).filterMap (fun e => SystemEffect.module? (.identity (.ril e))) ++
        out'.filterMap fun e => SystemEffect.module? (.identity (.ril e)))] = _
      rw [refusal_module, h.effects, List.nil_append]
    rw [hone]
    exact .one h

end Step

/-- The modules are a component of the telephony layer. -/
def modulesComponent : Component (RilStep.when fun s _ => s.Connected) ModulesStep where
  part := RilData.modules
  steps := moduleSteps
  inside h := (rilStep_change h.1 h.2).modules

section Runs

variable {s u : RilData} {tr : List (RilEvent × List SystemEffect)}

theorem rilRun_connected (hs : s.Connected) (h : Run RilStep s tr u) :
    Run (RilStep.when fun s _ => s.Connected) s tr u :=
  h.strengthen RilData.Connected (fun _ _ _ hs h => (rilStep_change hs h).connected hs) hs

/-- **The telephony layer refines its modules side by side**: what a run of requests, callbacks and
changes of the client is to them, is one run of theirs, in which each event is handled by the module
that it is for, and nothing else changes them. -/
theorem ril_refines_modules (hs : s.Connected) (h : Run RilStep s tr u) :
    Run ModulesStep s.modules (tr.flatMap moduleSteps) u.modules :=
  modulesComponent.run (rilRun_connected hs h)

/-- The list of the data calls is asked for, and then a message is sent, with no number to send it
to. -/
theorem ril_refines_modules_twoRequests :
    let s := rilInit 1 (some ⟨.ready, true⟩)
    let r := rilOnRequest s .dataCallList 1
    let r' := rilOnRequest r.1 (.sendSms none) 2
    Run ModulesStep s.modules
      ([(RilEvent.request .dataCallList ⟨1, by decide⟩, (ofRil r).2),
        (.request (.sendSms none) ⟨2, by decide⟩, (ofRil r').2)].flatMap moduleSteps) r'.1.modules := by
  intro s r r'
  exact ril_refines_modules rfl (.cons (t := r.1) rfl (.one rfl))

end Runs

end Mocha.Ril
