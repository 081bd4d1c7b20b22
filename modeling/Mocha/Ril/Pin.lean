import Mocha.Ril.Misc

/-! The state of the SIM card and the requests that need a PIN (`mocha-ril/sim.c`). -/
namespace Mocha.Ril
open Mocha.Ipc

def simPtypePin1 : UInt8 := 0x00
def simPtypePuk1 : UInt8 := 0x02

def simOemRequestGetOpenData : UInt8 := 2

/-- `ril_state_update` -/
def rilStateUpdate (s : RilData) (simState : RilSimState) : RilData × List RilEffect :=
  let s := { s with state := { s.state with simState := simState } }
  if s.state.powerState ≠ .normal then (s, [])
  else
    let packets : List RilEffect := if simState = .ready then
        [.ipc (.tapiSetSubscriptionMode 0x1), .ipc .tapiNettextSetCbSettings]
      else []
    let radioState : RilRadioState := match simState with
      | .ready => .simReady
      | .notReady => .simNotReady
      | _ => .simLockedOrAbsent
    let r := rilTokensCheck { s with state := { s.state with radioState := radioState } }
    (r.1, packets ++ r.2 ++ [.unsolicited .responseRadioStateChanged])

def ipcSimStatus (s : RilData) (simState : RilSimState) : RilData × List RilEffect :=
  let r := rilStateUpdate s simState
  let s := if simState = .pin then { r.1 with state := { r.1.state with bPinLock := 1 } } else r.1
  let smsc : List RilEffect := if simState = .ready ∧ s.simIo.smscNumber = [] then
      [.simIo (.request (.simGetFileInfo 0x5 0x6F42))]
    else []
  (s, r.2 ++ smsc ++ [.unsolicited .responseSimStatusChanged])

/-- The requests that a CHV event answers, by the variable their token waits in. -/
inductive ChvKind
  | setFacilityLock
  | changeSimPin
  | pinStatus
  | pukStatus
deriving DecidableEq, Repr

namespace RilTokens

def chv (ts : RilTokens) : ChvKind → RilToken
  | .setFacilityLock => ts.setFacilityLock
  | .changeSimPin => ts.changeSimPin
  | .pinStatus => ts.pinStatus
  | .pukStatus => ts.pukStatus

def setChv (ts : RilTokens) (t : RilToken) : ChvKind → RilTokens
  | .setFacilityLock => { ts with setFacilityLock := t }
  | .changeSimPin => { ts with changeSimPin := t }
  | .pinStatus => { ts with pinStatus := t }
  | .pukStatus => { ts with pukStatus := t }

/-- The if-chain over the four tokens. -/
def pendingChv (ts : RilTokens) : Option ChvKind :=
  if ts.setFacilityLock ≠ rilTokenNull then some .setFacilityLock
  else if ts.changeSimPin ≠ rilTokenNull then some .changeSimPin
  else if ts.pinStatus ≠ rilTokenNull then some .pinStatus
  else if ts.pukStatus ≠ rilTokenNull then some .pukStatus
  else none

end RilTokens

/-- One of the four if-chains of `ipc_lock_status`: what is reported, and what is done besides before
the token is cleared. -/
def completeChv (s : RilData) (errno : RilErrno) (response : Option RilResponse)
    (besides : ChvKind → RilData → RilData × List RilEffect) : RilData × List RilEffect :=
  match s.tokens.pendingChv with
  | some k =>
    let r := besides k s
    ({ r.1 with tokens := r.1.tokens.setChv rilTokenNull k },
      .complete ⟨s.tokens.chv k, errno, response⟩ :: r.2)
  | none => (s, [])

/-- After the right PIN or PUK the SIM card is opened. -/
def openSim : ChvKind → RilData → RilData × List RilEffect
  | .pinStatus, s | .pukStatus, s => (s, [.ipc (.simSendOemData 0x4 simOemRequestGetOpenData)])
  | _, s => (s, [])

/-- When no attempt is left, the SIM card asks for the PUK, or is blocked. -/
def lockSim : ChvKind → RilData → RilData × List RilEffect
  | .pinStatus, s => ipcSimStatus s .puk
  | .pukStatus, s => ipcSimStatus s .blocked
  | _, s => (s, [])

/-- `lockStatus`, behind the header of the event. -/
def lockStatusStatus (ev : SimEvent) : UInt8 := ev 11
def lockStatusAttempts (ev : SimEvent) : UInt8 := ev 12

def ipcLockStatus (s : RilData) (ev : SimEvent) : RilData × List RilEffect :=
  if ev.eventStatus = simOk then
    match lockStatusStatus ev with
    | 0 => completeChv s .success (some (.int (-1))) openSim
    | 1 => completeChv s .passwordIncorrect (some (.int (lockStatusAttempts ev).toNat)) fun _ s => (s, [])
    | 2 => completeChv s .passwordIncorrect (some (.int 0)) lockSim
    | _ => (s, [])
  else completeChv s .genericFailure none fun _ s => (s, [])

/-- `ril_request_enter_sim_pin`. The length is taken of the memory that holds the pointer to the PIN,
and a request that is refused for it is carried out all the same. -/
def rilRequestEnterSimPin (s : RilData) (t : RilToken) (pointerLength : ℕ) (pin : CString) :
    RilData × List RilEffect :=
  let refusal : List RilEffect :=
    if 16 < pointerLength then [.complete ⟨t, .genericFailure, none⟩] else []
  ({ s with tokens := { s.tokens with pinStatus := t } },
    refusal ++ [.ipc (.simVerifyChv 0x4 simPtypePin1 pin)])

def rilRequestEnterSimPuk (s : RilData) (t : RilToken) (data : Option (List CString)) :
    RilData × List RilEffect :=
  match data with
  | some (puk :: pin :: _) =>
    ({ s with tokens := { s.tokens with pukStatus := t } },
      [.ipc (.simUnblockChv 0x4 simPtypePuk1 puk pin)])
  | _ => (s, [.complete ⟨t, .genericFailure, none⟩])

def rilRequestQueryFacilityLock (s : RilData) (t : RilToken) (data : Option (List CString)) :
    RilData × List RilEffect :=
  match data with
  | some (facility :: _) =>
    if facility = cString "SC" then (s, [.complete ⟨t, .success, some (.int s.state.bPinLock)⟩])
    else (s, [.complete ⟨t, .genericFailure, none⟩])
  | _ => (s, [.complete ⟨t, .genericFailure, none⟩])

/-- `ril_request_set_facility_lock`. A lock that is neither "1" nor "0" sends nothing. -/
def rilRequestSetFacilityLock (s : RilData) (t : RilToken) (data : Option (List CString)) :
    RilData × List RilEffect :=
  match data with
  | some (facility :: lock :: password :: _ :: _) =>
    if facility = cString "SC" then
      let packets : List RilEffect :=
        if lock = cString "1" then [.ipc (.simEnableChv 0x4 simPtypePin1 password)]
        else if lock = cString "0" then [.ipc (.simDisableChv 0x4 simPtypePin1 password)]
        else []
      ({ s with tokens := { s.tokens with setFacilityLock := t } }, packets)
    else (s, [.complete ⟨t, .genericFailure, none⟩])
  | _ => (s, [.complete ⟨t, .genericFailure, none⟩])

def rilRequestChangeSimPin (s : RilData) (t : RilToken) (data : Option (List CString)) :
    RilData × List RilEffect :=
  match data with
  | some (passwordOld :: passwordNew :: _) =>
    ({ s with tokens := { s.tokens with changeSimPin := t } },
      [.ipc (.simChangeChv 0x4 simPtypePin1 passwordOld passwordNew)])
  | _ => (s, [.complete ⟨t, .genericFailure, none⟩])

/-- The index of the application that `ril_request_get_sim_status` reports. -/
def RilSimState.appIndex : RilSimState → ℕ
  | .absent => 0
  | .notReady => 1
  | .ready => 2
  | .pin => 3
  | .puk => 4
  | .blocked => 5
  | .networkPerso => 6
  | .networkSubsetPerso => 7
  | .corporatePerso => 8
  | .serviceProviderPerso => 9

def rilRequestGetSimStatus (s : RilData) (t : RilToken) : RilData × List RilEffect :=
  (s, [.complete ⟨t, .success,
    some (.cardStatus ⟨s.state.simState ≠ .absent, s.state.simState.appIndex⟩)⟩])

end Mocha.Ril
