import Mocha.Ril.Identity

/-! The state of the radio follows the power of the modem, whichever of the start of the modem, the
requests for power and the changes of the SIM state come in which order (`pwr.c`, `sim.c` and
`network.c`). -/
namespace Mocha.Ril
open Mocha.Lib Mocha.Ipc

/-- `ril_data` when `RIL_Init` returns. The configuration file has one value, and there is no client
if its creation failed. -/
def rilInit (bAutoAttach : UInt32) (ipcPacketClient : Option RilClient) : RilData :=
  { RilData.init with
    bAutoAttach := bAutoAttach
    ipcPacketClient := ipcPacketClient
    state := { RilData.init.state with radioState := .off, powerState := .off } }

/-- Requests of any kind, and the events that have to do with the modem's start and the SIM card. -/
inductive RadioEvent
  | cpSystemStart (desc : CString) (datasize : UInt32)
  | request (request : RilRequest) (t : RequestToken)
  | simOpen (ev : SimEvent) (stack : CString)
  | simStatus (simState : RilSimState)
  | lockStatus (ev : SimEvent)

def radioHandler (s : RilData) : RadioEvent → RilData × List IdentityEffect
  | .cpSystemStart desc datasize => cpSystemStarted s desc datasize
  | .request request t => ((rilOnRequest s request t.1).1, (rilOnRequest s request t.1).2.map .ril)
  | .simOpen ev stack => ipcSimOpen s ev stack
  | .simStatus simState => ((ipcSimStatus s simState).1, (ipcSimStatus s simState).2.map .ril)
  | .lockStatus ev => ((ipcLockStatus s ev).1, (ipcLockStatus s ev).2.map .ril)

/-- The states of a radio that is not off. -/
def onStates : List RilRadioState := [.on, .simReady, .simNotReady, .simLockedOrAbsent]

structure RadioFollowsPower (s : RilData) : Prop where
  off : s.state.powerState ≠ .normal → s.state.radioState = .off
  on : s.state.powerState = .normal → s.state.radioState ∈ onStates

/-- A step that leaves the power alone and the radio in accordance with it. -/
structure KeepsPower (s t : RilData) : Prop where
  power : t.state.powerState = s.state.powerState
  radio : RadioFollowsPower s → RadioFollowsPower t

section Handlers

variable {s t u : RilData}

theorem KeepsPower.of_eq (hpower : t.state.powerState = s.state.powerState)
    (hradio : t.state.radioState = s.state.radioState) : KeepsPower s t where
  power := hpower
  radio h := ⟨by rw [hpower, hradio]; exact h.off, by rw [hpower, hradio]; exact h.on⟩

theorem KeepsPower.of_state (h : t.state = s.state) : KeepsPower s t := .of_eq (by rw [h]) (by rw [h])

theorem KeepsPower.trans (h : KeepsPower s t) (h' : KeepsPower t u) : KeepsPower s u :=
  ⟨h'.power.trans h.power, fun hs => h'.radio (h.radio hs)⟩

/-! Handlers that write tokens and what is remembered of the modem. -/

theorem rilRequestGetImei_state (t : RilToken) : (rilRequestGetImei s t).1.state = s.state := by
  unfold rilRequestGetImei
  split_ifs <;> rfl

theorem rilRequestGetImsi_state (t : RilToken) : (rilRequestGetImsi s t).1.state = s.state := by
  unfold rilRequestGetImsi
  split_ifs <;> rfl

theorem rilRequestBasebandVersion_state (t : RilToken) :
    (rilRequestBasebandVersion s t).1.state = s.state := by
  unfold rilRequestBasebandVersion
  split_ifs <;> rfl

theorem rilRequestEnterSimPuk_state (t : RilToken) (data : Option (List CString)) :
    (rilRequestEnterSimPuk s t data).1.state = s.state := by
  unfold rilRequestEnterSimPuk
  split <;> rfl

theorem rilRequestQueryFacilityLock_state (t : RilToken) (data : Option (List CString)) :
    (rilRequestQueryFacilityLock s t data).1.state = s.state := by
  unfold rilRequestQueryFacilityLock
  split
  · split_ifs <;> rfl
  · rfl

theorem rilRequestSetFacilityLock_state (t : RilToken) (data : Option (List CString)) :
    (rilRequestSetFacilityLock s t data).1.state = s.state := by
  unfold rilRequestSetFacilityLock
  split
  · split_ifs <;> rfl
  · rfl

theorem rilRequestChangeSimPin_state (t : RilToken) (data : Option (List CString)) :
    (rilRequestChangeSimPin s t data).1.state = s.state := by
  unfold rilRequestChangeSimPin
  split <;> rfl

theorem rilRequestOperator_state (t : RilToken) : (rilRequestOperator s t).1.state = s.state := by
  unfold rilRequestOperator
  split_ifs <;> rfl

theorem rilRequestSetNetworkSelectionManual_state (t : RilToken) (data : Option (CString × ℕ)) :
    (rilRequestSetNetworkSelectionManual s t data).1.state = s.state := by
  unfold rilRequestSetNetworkSelectionManual
  split <;> rfl

theorem rilRequestSetPreferredNetworkType_keepsPower (t : RilToken) (data : Option ℤ) :
    KeepsPower s (rilRequestSetPreferredNetworkType s t data).1 := by
  unfold rilRequestSetPreferredNetworkType
  split
  · exact .of_eq rfl rfl
  · dsimp only
    split_ifs <;> exact .of_eq rfl rfl

theorem rilRequestSendUssd_keepsPower (t : RilToken) (data : CString) :
    KeepsPower s (rilRequestSendUssd s t data).1 := by
  unfold rilRequestSendUssd
  dsimp only
  split_ifs <;> exact .of_eq rfl rfl

/-- `ril_tokens_check` makes the requests that wait for these values. -/
theorem rilTokensCheck_state (s : RilData) : (rilTokensCheck s).1.state = s.state := by
  have hversion : ∀ s, (checkVersion s).1.state = s.state := by
    intro s
    unfold checkVersion
    split_ifs
    · exact rilRequestBasebandVersion_state _
    · rfl
  have himei : ∀ s, (checkImei s).1.state = s.state := by
    intro s
    unfold checkImei
    split_ifs
    · exact rilRequestGetImei_state _
    · rfl
  have himsi : ∀ s, (checkImsi s).1.state = s.state := by
    intro s
    unfold checkImsi
    split_ifs
    · exact rilRequestGetImsi_state _
    · rfl
  rw [rilTokensCheck_eq_parts]
  exact (himsi _).trans ((himei _).trans (hversion s))

/-- A change of the SIM state moves the radio between the states in which it is on. -/
theorem rilStateUpdate_keepsPower (s : RilData) (simState : RilSimState) :
    KeepsPower s (rilStateUpdate s simState).1 := by
  unfold rilStateUpdate
  dsimp only
  by_cases hnormal : s.state.powerState = .normal
  · rw [if_neg (not_not.mpr hnormal)]
    refine ⟨by rw [rilTokensCheck_state], fun _ => ⟨fun h => ?_, fun _ => ?_⟩⟩
    · rw [rilTokensCheck_state] at h
      exact absurd hnormal h
    · rw [rilTokensCheck_state]
      cases simState <;> simp [onStates]
  · rw [if_pos hnormal]
    exact .of_eq rfl rfl

theorem ipcSimStatus_keepsPower (s : RilData) (simState : RilSimState) :
    KeepsPower s (ipcSimStatus s simState).1 := by
  have hupdate := rilStateUpdate_keepsPower s simState
  unfold ipcSimStatus
  dsimp only
  split_ifs
  · exact hupdate.trans (.of_eq rfl rfl)
  · exact hupdate

theorem completeChv_keepsPower (errno : RilErrno) (response : Option RilResponse)
    {besides : ChvKind → RilData → RilData × List RilEffect}
    (h : ∀ k s, KeepsPower s (besides k s).1) :
    KeepsPower s (completeChv s errno response besides).1 := by
  unfold completeChv
  split
  · exact (h _ s).trans (.of_eq rfl rfl)
  · exact .of_eq rfl rfl

theorem ipcLockStatus_keepsPower (s : RilData) (ev : SimEvent) :
    KeepsPower s (ipcLockStatus s ev).1 := by
  have hnothing : ∀ (_ : ChvKind) (s : RilData), KeepsPower s (s, ([] : List RilEffect)).1 :=
    fun _ _ => .of_eq rfl rfl
  have hopen : ∀ k s, KeepsPower s (openSim k s).1 := by
    intro k s
    cases k <;> exact .of_eq rfl rfl
  have hlock : ∀ k s, KeepsPower s (lockSim k s).1 := by
    intro k s
    cases k with
    | pinStatus => exact ipcSimStatus_keepsPower s .puk
    | pukStatus => exact ipcSimStatus_keepsPower s .blocked
    | _ => exact .of_eq rfl rfl
  unfold ipcLockStatus
  split
  · split
    · exact completeChv_keepsPower _ _ hopen
    · exact completeChv_keepsPower _ _ hnothing
    · exact completeChv_keepsPower _ _ hlock
    · exact .of_eq rfl rfl
  · exact completeChv_keepsPower _ _ hnothing

theorem ipcSimOpen_keepsPower (s : RilData) (ev : SimEvent) (stack : CString) :
    KeepsPower s (ipcSimOpen s ev stack).1 := by
  have hcheck : ∀ s, KeepsPower s
      (rilTokensCheck { s with cachedImsi := imsiBcd2ascii stack (simOpenImsi ev) }).1 :=
    fun s => .of_state (rilTokensCheck_state _)
  unfold ipcSimOpen andThen
  dsimp only
  split_ifs
  · exact (ipcSimStatus_keepsPower s .absent).trans (hcheck _)
  · exact (ipcSimStatus_keepsPower s .ready).trans (hcheck _)
  · exact hcheck s

theorem networkStart_keepsPower (s : RilData) : KeepsPower s (networkStart s).1 := by
  unfold networkStart
  dsimp only
  split_ifs
  · exact ipcSimStatus_keepsPower s .ready
  · exact .of_eq rfl rfl

/-- The modem starts with the radio off. -/
theorem cpSystemStarted_radio (s : RilData) (desc : CString) (datasize : UInt32) :
    RadioFollowsPower (cpSystemStarted s desc datasize).1 := by
  constructor
  · intro _
    unfold cpSystemStarted
    rw [rilTokensCheck_state]
  · intro hnormal
    unfold cpSystemStarted at hnormal
    rw [rilTokensCheck_state] at hnormal
    cases hnormal

/-- The radio is put into one of its two modes; before the modem has started the request is refused. -/
theorem rilRequestRadioPower_radio (h : RadioFollowsPower s) (t : RilToken) (powerState : ℤ) :
    RadioFollowsPower (rilRequestRadioPower s t powerState).1 ∧
      (s.state.powerState = .off →
        (rilRequestRadioPower s t powerState).1.state.powerState = .off) := by
  unfold rilRequestRadioPower
  dsimp only
  split_ifs with hoff hle
  · exact ⟨h, fun _ => hoff⟩
  · refine ⟨⟨fun _ => rfl, fun hnormal => ?_⟩, fun h => absurd h hoff⟩
    cases hnormal
  · refine ⟨(networkStart_keepsPower _).radio ?_, fun h => absurd h hoff⟩
    exact ⟨fun h => absurd rfl h, fun _ => List.mem_cons_self⟩

/-- No other request writes the state of the power or of the radio. -/
theorem rilRequestHandler_keepsPower (t : RilToken) {request : RilRequest}
    (hrequest : ∀ powerState, request ≠ .radioPower powerState) :
    KeepsPower s (rilRequestHandler s t request).1 := by
  cases request with
  | radioPower powerState => exact absurd rfl (hrequest powerState)
  | getImei => exact .of_state (rilRequestGetImei_state t)
  | getImsi => exact .of_state (rilRequestGetImsi_state t)
  | basebandVersion => exact .of_state (rilRequestBasebandVersion_state t)
  | enterSimPuk data => exact .of_state (rilRequestEnterSimPuk_state t data)
  | queryFacilityLock data => exact .of_state (rilRequestQueryFacilityLock_state t data)
  | setFacilityLock data => exact .of_state (rilRequestSetFacilityLock_state t data)
  | changeSimPin data => exact .of_state (rilRequestChangeSimPin_state t data)
  | operator => exact .of_state (rilRequestOperator_state t)
  | setNetworkSelectionManual data =>
    exact .of_state (rilRequestSetNetworkSelectionManual_state t data)
  | setPreferredNetworkType data => exact rilRequestSetPreferredNetworkType_keepsPower t data
  | sendUssd data => exact rilRequestSendUssd_keepsPower t data
  | _ => exact .of_eq rfl rfl

end Handlers

/-- **The law of a step**: the radio follows the power, and only the start of the modem turns the
power on. -/
theorem radioHandler_radio {s : RilData} (h : RadioFollowsPower s) (e : RadioEvent) :
    RadioFollowsPower (radioHandler s e).1 ∧ (s.state.powerState = .off →
      (radioHandler s e).1.state.powerState ≠ .off →
        ∃ desc datasize, e = .cpSystemStart desc datasize) := by
  have hkeeps : ∀ {t}, KeepsPower s t → RadioFollowsPower t ∧ (s.state.powerState = .off →
      t.state.powerState ≠ .off → ∃ desc datasize, e = .cpSystemStart desc datasize) :=
    fun hstep => ⟨hstep.radio h, fun hoff hon => absurd (hstep.power.trans hoff) hon⟩
  cases e with
  | cpSystemStart desc datasize =>
    exact ⟨cpSystemStarted_radio s desc datasize, fun _ _ => ⟨desc, datasize, rfl⟩⟩
  | request request t =>
    change RadioFollowsPower (rilRequestHandler s t.1 request).1 ∧ (s.state.powerState = .off →
      (rilRequestHandler s t.1 request).1.state.powerState ≠ .off → _)
    by_cases hrequest : ∀ powerState, request ≠ .radioPower powerState
    · exact hkeeps (rilRequestHandler_keepsPower t.1 hrequest)
    · push Not at hrequest
      obtain ⟨powerState, rfl⟩ := hrequest
      obtain ⟨hradio, hrefused⟩ := rilRequestRadioPower_radio h t.1 powerState
      exact ⟨hradio, fun hoff hon => absurd (hrefused hoff) hon⟩
  | simOpen ev stack => exact hkeeps (ipcSimOpen_keepsPower s ev stack)
  | simStatus simState => exact hkeeps (ipcSimStatus_keepsPower s simState)
  | lockStatus ev => exact hkeeps (ipcLockStatus_keepsPower s ev)

/-- **The radio is on exactly while the modem is in normal mode**, after every run from the end of
`RIL_Init`, and after it the power is turned on by nothing but the start of the modem. -/
theorem radio_follows_power (bAutoAttach : UInt32) (ipcPacketClient : Option RilClient)
    (events : List RadioEvent) :
    let s := (exec radioHandler (rilInit bAutoAttach ipcPacketClient) events).2
    (s.state.powerState ≠ .normal → s.state.radioState = .off) ∧
    (s.state.powerState = .normal → s.state.radioState ∈
      [.on, .simReady, .simNotReady, .simLockedOrAbsent]) ∧
    ∀ e, s.state.powerState = .off → (radioHandler s e).1.state.powerState ≠ .off →
      ∃ desc datasize, e = .cpSystemStart desc datasize := by
  intro s
  have hinit : RadioFollowsPower (rilInit bAutoAttach ipcPacketClient) :=
    ⟨fun _ => rfl, fun h => by cases h⟩
  have hs : RadioFollowsPower s := by
    refine (Run.exec radioHandler _ events).invariant RadioFollowsPower ?_ hinit
    intro u a v hu hstep
    obtain rfl : (radioHandler u a.1).1 = v := congrArg Prod.fst hstep
    exact (radioHandler_radio hu a.1).1
  exact ⟨hs.off, hs.on, fun e => (radioHandler_radio hs e).2⟩

example : (exec radioHandler (rilInit 1 none) [.cpSystemStart [0x31] 2,
    .request (.radioPower 1) ⟨1, by decide⟩, .simStatus .pin]).2.state.radioState =
      .simLockedOrAbsent := by decide

end Mocha.Ril
