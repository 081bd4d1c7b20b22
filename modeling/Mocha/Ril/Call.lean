import Mathlib.Data.Fintype.Pi
import Mocha.Lib.Run
import Mocha.Ril.Hex
import Mocha.Ril.Token

/-! The call module (`call.c`): the table of call contexts, the requests that control calls and the
indications of the modem. Contexts are values in their slots, and the waiting between two packets
(`usleep`) is left out. Two handlers copy a number into a context, of which there is one definition for
a number that fits, and one with the bounds of the context. -/
namespace Mocha.Ril
open Mocha.Lib

/-- `MAX_CALLS` -/
def maxCalls : ℕ := 6

/-- The size of `number` in a context. -/
def callNumberSize : ℕ := 64

/-- `RIL_CallState` -/
inductive RilCallState
  | active
  | holding
  | dialing
  | alerting
  | incoming
  | waiting
deriving DecidableEq, Repr

/-- `ril_call_context`; a null token stands for no pending request. -/
structure RilCallContext where
  callId : UInt32
  callType : UInt32
  bMT : UInt8
  number : CString
  callState : RilCallState
  token : RilToken
deriving DecidableEq

/-- `ril_data.calls`, the tokens of the tone requests and `ril_data.state.last_call_fail_cause`. -/
structure CallData where
  calls : Fin maxCalls → Option RilCallContext
  tokenDtmfStart : RilToken
  tokenDtmfStop : RilToken
  lastCallFailCause : UInt32
deriving DecidableEq

def CallData.init : CallData := ⟨fun _ => none, rilTokenNull, rilTokenNull, 0⟩

/-- The fields of `tapiCallSetup` that are set; the others are zero. -/
structure TapiCallSetup where
  contextType : UInt8
  bUsed : UInt32
  hCall : UInt32
  hClient : UInt32
  callNo : UInt32
  bOriginated : UInt32
  nameMode : UInt8
  callNum1 : CString
  startTime : UInt32
  endTime : UInt32
  callType1 : UInt8
  callState : UInt8
  unknown10 : UInt8
  unknown12 : UInt32
  unknown14 : UInt8
  callType2 : UInt8
  callNum2 : CString
deriving DecidableEq

inductive CallEffect
  | complete (c : Completion Unit)
  | rilUnsolCallRing
  | rilUnsolResponseCallStateChanged
  | tapiCallSetup (callSetup : TapiCallSetup)
  | tapiCallRelease (callType : UInt8) (callId : UInt32) (releaseCause : UInt8)
  | tapiCallAnswer (callType : UInt8) (callId : UInt32)
  | tapiCallHold (callId : UInt32)
  | tapiCallActivate (callId : UInt32)
  | tapiCallsSwap (activeCallId holdingCallId : UInt32)
deriving DecidableEq

namespace CallData

def put (s : CallData) (i : Fin maxCalls) (c : Option RilCallContext) : CallData :=
  { s with calls := Function.update s.calls i c }

def modify (s : CallData) (i : Fin maxCalls) (f : RilCallContext → RilCallContext) : CallData :=
  s.put i ((s.calls i).map f)

def setToken (s : CallData) (i : Fin maxCalls) (t : RilToken) : CallData :=
  s.modify i ({ · with token := t })

def setState (s : CallData) (i : Fin maxCalls) (state : RilCallState) : CallData :=
  s.modify i ({ · with callState := state })

@[simp] theorem put_calls_self (s : CallData) (i : Fin maxCalls) (c : Option RilCallContext) :
    (s.put i c).calls i = c := Function.update_self ..

@[simp] theorem put_calls_of_ne (s : CallData) {i j : Fin maxCalls} (h : j ≠ i)
    (c : Option RilCallContext) : (s.put i c).calls j = s.calls j := Function.update_of_ne h ..

@[simp] theorem modify_calls_self (s : CallData) (i : Fin maxCalls)
    (f : RilCallContext → RilCallContext) : (s.modify i f).calls i = (s.calls i).map f :=
  put_calls_self ..

end CallData

/-- `new_ril_call_context`: a free slot, and the table with a zeroed context in it. -/
def newRilCallContext (s : CallData) : Option (Fin maxCalls × CallData) :=
  ((List.finRange maxCalls).find? fun i => (s.calls i).isNone).map fun i =>
    (i, s.put i (some ⟨0, 0, 0, [], .active, rilTokenNull⟩))

/-- `find_ril_call_context`: the first context with the id, by its slot. -/
def findRilCallContext (s : CallData) (callId : UInt32) : Option (Fin maxCalls) :=
  (List.finRange maxCalls).find? fun i => (s.calls i).any (·.callId = callId)

/-- `release_ril_call_context` -/
def releaseRilCallContext (s : CallData) (i : Fin maxCalls) : CallData := s.put i none

/-- The token of the context in a slot. -/
def CallData.tokenAt (s : CallData) (i : Fin maxCalls) : RilToken :=
  ((s.calls i).map (·.token)).getD rilTokenNull

/-- A pending request of a context is completed and its token cleared. -/
def settle (s : CallData) (i : Fin maxCalls) (e : RilErrno) : CallData × List CallEffect :=
  if s.tokenAt i ≠ rilTokenNull then (s.setToken i rilTokenNull, [.complete ⟨s.tokenAt i, e, none⟩])
  else (s, [])

/-- `cause == 0 ? RIL_E_SUCCESS : RIL_E_GENERIC_FAILURE` -/
def causeErrno (cause : UInt32) : RilErrno := if cause = 0 then .success else .genericFailure

/-! The indications. -/

/-- `tapiCallInfo` -/
structure TapiCallInfo where
  callId : UInt32
  callType : UInt8
  phoneNumber : CString
deriving DecidableEq

/-- `ipc_call_incoming`, for a number that fits. -/
def ipcCallIncomingFitting (s : CallData) (callInfo : TapiCallInfo) : CallData × List CallEffect :=
  let busy := (List.finRange maxCalls).any fun i => (s.calls i).any fun c =>
    c.callId ≠ 0xFF ∧ (c.callState = .active ∨ c.callState = .holding)
  let newCallState : RilCallState := if busy then .waiting else .incoming
  match newRilCallContext s with
  | none => (s, [])
  | some (i, s) =>
    (s.modify i fun c => { c with
        number := callInfo.phoneNumber
        callId := callInfo.callId
        callType := callInfo.callType.toUInt32
        callState := newCallState
        bMT := 1 },
      [.rilUnsolCallRing, .rilUnsolResponseCallStateChanged])

/-- `ipc_call_incoming`; `none` where `strcpy` runs over `number` into the state and the token. -/
def ipcCallIncoming (s : CallData) (callInfo : TapiCallInfo) : Option (CallData × List CallEffect) :=
  if newRilCallContext s = none then some (s, [])
  else (strcpy callNumberSize callInfo.phoneNumber).map fun number =>
    ipcCallIncomingFitting s { callInfo with phoneNumber := number }

def ipcCallEnd (s : CallData) (callId cause : UInt32) : CallData × List CallEffect :=
  match findRilCallContext s callId with
  | none => (s, [])
  | some i =>
    let s := { s with lastCallFailCause := cause }
    if s.tokenAt i ≠ rilTokenNull then
      (releaseRilCallContext s i, [.complete ⟨s.tokenAt i, .success, none⟩])
    else (releaseRilCallContext s i, [.rilUnsolResponseCallStateChanged])

def ipcCallSetupInd (s : CallData) (callId : UInt32) : CallData × List CallEffect :=
  match findRilCallContext s 0xFF with
  | none => (s, [])
  | some i =>
    let s := s.modify i ({ · with callId := callId })
    match findRilCallContext s callId with
    | none => (s, [])
    | some j => settle s j .success

def ipcCallAlert (s : CallData) (callId : UInt32) : CallData × List CallEffect :=
  match findRilCallContext s callId with
  | none => (s, [])
  | some i => (s.setState i .alerting, [.rilUnsolResponseCallStateChanged])

def ipcCallConnected (s : CallData) (callId : UInt32) : CallData × List CallEffect :=
  match findRilCallContext s callId with
  | none => (s, [])
  | some i =>
    let s := s.setState i .active
    if s.tokenAt i ≠ rilTokenNull then settle s i .success
    else (s, [.rilUnsolResponseCallStateChanged])

def ipcCallDtmfStart (s : CallData) (reason : UInt32) : CallData × List CallEffect :=
  (s, [.complete ⟨s.tokenDtmfStart, causeErrno reason, none⟩])

def ipcCallDtmfStop (s : CallData) (reason : UInt32) : CallData × List CallEffect :=
  (s, [.complete ⟨s.tokenDtmfStop, causeErrno reason, none⟩])

def ipcCallHold (s : CallData) (callId cause : UInt32) : CallData × List CallEffect :=
  match findRilCallContext s callId with
  | none => (s, [])
  | some i => settle (if cause = 0 then s.setState i .holding else s) i (causeErrno cause)

def ipcCallSwap (s : CallData) (activatedCallId heldCallId cause : UInt32) :
    CallData × List CallEffect :=
  match findRilCallContext s activatedCallId, findRilCallContext s heldCallId with
  | some activated, some held =>
    if s.tokenAt held ≠ rilTokenNull then
      settle (if cause = 0 then (s.setState activated .active).setState held .holding else s) held
        (causeErrno cause)
    else (s, [])
  | _, _ => (s, [])

def ipcCallActivate (s : CallData) (callId cause : UInt32) : CallData × List CallEffect :=
  match findRilCallContext s callId with
  | none => (s, [])
  | some i =>
    if s.tokenAt i ≠ rilTokenNull then
      settle (if cause = 0 then s.setState i .active else s) i (causeErrno cause)
    else (s, [])

def ipcCallError (s : CallData) (callId error : UInt32) : CallData × List CallEffect :=
  match findRilCallContext s callId with
  | none => (s, [])
  | some i =>
    let s := { s with lastCallFailCause := error }
    let out := if s.tokenAt i ≠ rilTokenNull then [.complete ⟨s.tokenAt i, .genericFailure, none⟩] else []
    (releaseRilCallContext s i, out ++ [.rilUnsolResponseCallStateChanged])

/-! The requests. -/

/-- `RIL_Dial`, as far as it is read. -/
structure RilDial where
  address : CString
deriving DecidableEq

/-- `ril_request_dial`, for an address that fits; `data` is `none` for a null or short argument, and `now`
is `time(NULL)`. -/
def rilRequestDialFitting (s : CallData) (t : RilToken) (data : Option RilDial) (now : UInt32) :
    CallData × List CallEffect :=
  let error : CallEffect := .complete ⟨t, .genericFailure, none⟩
  if findRilCallContext s 0xFF ≠ none then (s, [error])
  else match data with
    | none => (s, [error])
    | some dial =>
      match newRilCallContext s with
      | none => (s, [error])
      | some (i, s) =>
        let s := s.modify i fun c => { c with
          callId := 0xFF
          callState := .dialing
          bMT := 0
          number := dial.address }
        let callSetup : TapiCallSetup := {
          contextType := 1
          bUsed := 1
          hCall := 3
          hClient := 0x0
          callNo := 0xFF
          bOriginated := 1
          nameMode := 2
          callNum1 := dial.address
          startTime := now
          endTime := now
          callType1 := 0x0
          callState := 1
          unknown10 := 1
          unknown12 := 0x3A
          unknown14 := 1
          callType2 := 0x0
          callNum2 := dial.address }
        if s.tokenAt i ≠ rilTokenNull then (s, [.tapiCallSetup callSetup, error])
        else (s.setToken i t, [.tapiCallSetup callSetup])

/-- `ril_request_dial`; `none` where `strcpy` runs over `number` into the state and the token. What fits
there also ends within `callNum1` and `callNum2` and the unused bytes behind them. -/
def rilRequestDial (s : CallData) (t : RilToken) (data : Option RilDial) (now : UInt32) :
    Option (CallData × List CallEffect) :=
  let error : CallEffect := .complete ⟨t, .genericFailure, none⟩
  if findRilCallContext s 0xFF ≠ none then some (s, [error])
  else match data with
    | none => some (s, [error])
    | some dial =>
      if newRilCallContext s = none then some (s, [error])
      else (strcpy callNumberSize dial.address).map fun address =>
        rilRequestDialFitting s t (some { dial with address }) now

/-- An index of `RIL_REQUEST_HANGUP`. -/
abbrev CallIndex := { n : ℕ // 1 ≤ n ∧ n ≤ maxCalls }

/-- `*(int *)(data) - 1` -/
def CallIndex.slot (n : CallIndex) : Fin maxCalls := ⟨n.1 - 1, by have := n.2; omega⟩

/-- The request waits at a context, whose call is released. -/
def releaseCall (s : CallData) (p : Fin maxCalls × RilCallContext) (t : RilToken) :
    CallData × List CallEffect :=
  (s.setToken p.1 t, [.tapiCallRelease p.2.callType.toUInt8 p.2.callId 0x0])

/-- `ril_request_hangup`; `data` is `none` for a short argument. -/
def rilRequestHangup (s : CallData) (t : RilToken) (data : Option CallIndex) :
    CallData × List CallEffect :=
  let error : CallEffect := .complete ⟨t, .genericFailure, none⟩
  match data with
  | none => (s, [error])
  | some index =>
    match s.calls index.slot with
    | none => (s, [error])
    | some callCtxt =>
      if callCtxt.token ≠ rilTokenNull then (s, [error])
      else releaseCall s (index.slot, callCtxt) t

/-- The contexts that a loop over the table has met last, by their state. -/
abbrev FoundCalls := RilCallState → Option (Fin maxCalls × RilCallContext)

/-- The loop over the table that looks for calls in some states; `none` for `goto error` at a call
with a pending request. -/
def scanCalls (states : List RilCallState) (s : CallData) :
    List (Fin maxCalls) → FoundCalls → Option FoundCalls
  | [], found => some found
  | i :: is, found =>
    match s.calls i with
    | none => scanCalls states s is found
    | some c =>
      if c.callId ≠ 0xFF ∧ c.callState ∈ states then
        if c.token ≠ rilTokenNull then none
        else scanCalls states s is (Function.update found c.callState (some (i, c)))
      else scanCalls states s is found

def findCalls (states : List RilCallState) (s : CallData) : Option FoundCalls :=
  scanCalls states s (List.finRange maxCalls) fun _ => none

def rilRequestHangupWaitingOrBackground (s : CallData) (t : RilToken) :
    CallData × List CallEffect :=
  match findCalls [.active, .holding, .waiting, .incoming] s with
  | none => (s, [.complete ⟨t, .genericFailure, none⟩])
  | some found =>
    match found .active, found .holding, found .waiting, found .incoming with
    | _, some _, some waitCtxt, _ => releaseCall s waitCtxt t
    | some _, _, some waitCtxt, _ => releaseCall s waitCtxt t
    | some activeCtxt, _, _, _ => releaseCall s activeCtxt t
    | _, some holdCtxt, _, _ => releaseCall s holdCtxt t
    | _, _, some waitCtxt, _ => releaseCall s waitCtxt t
    | _, _, _, some incomingCtxt => releaseCall s incomingCtxt t
    | none, none, none, none => (s, [.complete ⟨t, .success, none⟩])

def rilRequestHangupForegroundResumeBackground (s : CallData) (t : RilToken) :
    CallData × List CallEffect :=
  match findCalls [.active, .holding] s with
  | none => (s, [.complete ⟨t, .genericFailure, none⟩])
  | some found =>
    match found .active, found .holding with
    | some (_, activeCtxt), some (i, holdCtxt) => (s.setToken i t,
        [.tapiCallRelease activeCtxt.callType.toUInt8 activeCtxt.callId 0x0,
          .tapiCallActivate holdCtxt.callId])
    | some activeCtxt, none => releaseCall s activeCtxt t
    | none, some holdCtxt => releaseCall s holdCtxt t
    | none, none => (s, [.complete ⟨t, .success, none⟩])

/-- The loop of `ril_request_answer`. -/
def answerCalls (t : RilToken) : List (Fin maxCalls) → CallData → CallData × List CallEffect
  | [], s => (s, [])
  | i :: is, s =>
    match s.calls i with
    | none => answerCalls t is s
    | some c =>
      if c.callId ≠ 0xFF ∧ c.callState = .incoming then
        if c.token ≠ rilTokenNull then (s, [.complete ⟨t, .genericFailure, none⟩])
        else
          let r := answerCalls t is (s.setToken i t)
          (r.1, .tapiCallAnswer c.callType.toUInt8 c.callId :: r.2)
      else answerCalls t is s

def rilRequestAnswer (s : CallData) (t : RilToken) : CallData × List CallEffect :=
  answerCalls t (List.finRange maxCalls) s

def rilRequestSwitchWaitingOrHoldingAndActive (s : CallData) (t : RilToken) :
    CallData × List CallEffect :=
  match findCalls [.active, .holding, .waiting] s with
  | none => (s, [.complete ⟨t, .genericFailure, none⟩])
  | some found =>
    match found .active, found .holding, found .waiting with
    | some (i, activeCtxt), some (_, holdCtxt), _ =>
      (s.setToken i t, [.tapiCallsSwap activeCtxt.callId holdCtxt.callId])
    | some (_, activeCtxt), none, some (i, waitCtxt) => (s.setToken i t,
        [.tapiCallHold activeCtxt.callId, .tapiCallAnswer waitCtxt.callType.toUInt8 waitCtxt.callId])
    | none, some _, some (i, waitCtxt) =>
      (s.setToken i t, [.tapiCallAnswer waitCtxt.callType.toUInt8 waitCtxt.callId])
    | some (i, activeCtxt), none, none => (s.setToken i t, [.tapiCallHold activeCtxt.callId])
    | none, some (i, holdCtxt), none => (s.setToken i t, [.tapiCallActivate holdCtxt.callId])
    | none, none, none => (s, [.complete ⟨t, .success, none⟩])
    -- the last `else if` has no `else`: a waiting call alone is passed over
    | none, none, some _ => (s, [])

/-- The requests that control calls. -/
inductive CallRequest
  | dial (data : Option RilDial) (now : UInt32)
  | hangup (data : Option CallIndex)
  | hangupWaitingOrBackground
  | hangupForegroundResumeBackground
  | answer
  | switchWaitingOrHoldingAndActive
deriving DecidableEq

inductive CallIndication
  | incoming (callInfo : TapiCallInfo)
  | callEnd (callId cause : UInt32)
  | setupInd (callId : UInt32)
  | alert (callId : UInt32)
  | connected (callId : UInt32)
  | dtmfStart (reason : UInt32)
  | dtmfStop (reason : UInt32)
  | hold (callId cause : UInt32)
  | swap (activatedCallId heldCallId cause : UInt32)
  | activate (callId cause : UInt32)
  | error (callId error : UInt32)
deriving DecidableEq

inductive CallEvent
  | request (t : RequestToken) (c : CallRequest)
  | indication (i : CallIndication)
deriving DecidableEq

/-! The handlers, for numbers that fit. -/

def callRequestHandler (s : CallData) (t : RilToken) : CallRequest → CallData × List CallEffect
  | .dial data now => rilRequestDialFitting s t data now
  | .hangup data => rilRequestHangup s t data
  | .hangupWaitingOrBackground => rilRequestHangupWaitingOrBackground s t
  | .hangupForegroundResumeBackground => rilRequestHangupForegroundResumeBackground s t
  | .answer => rilRequestAnswer s t
  | .switchWaitingOrHoldingAndActive => rilRequestSwitchWaitingOrHoldingAndActive s t

def callIndicationHandler (s : CallData) : CallIndication → CallData × List CallEffect
  | .incoming callInfo => ipcCallIncomingFitting s callInfo
  | .callEnd callId cause => ipcCallEnd s callId cause
  | .setupInd callId => ipcCallSetupInd s callId
  | .alert callId => ipcCallAlert s callId
  | .connected callId => ipcCallConnected s callId
  | .dtmfStart reason => ipcCallDtmfStart s reason
  | .dtmfStop reason => ipcCallDtmfStop s reason
  | .hold callId cause => ipcCallHold s callId cause
  | .swap activatedCallId heldCallId cause => ipcCallSwap s activatedCallId heldCallId cause
  | .activate callId cause => ipcCallActivate s callId cause
  | .error callId error => ipcCallError s callId error

def callHandler (s : CallData) : CallEvent → CallData × List CallEffect
  | .request t c => callRequestHandler s t.1 c
  | .indication i => callIndicationHandler s i

abbrev CallStep : Step CallData (CallEvent × List CallEffect) := Step.ofFun callHandler

/-! The handlers, within the bounds of the contexts. -/

def callRequestHandlerInBounds (s : CallData) (t : RilToken) :
    CallRequest → Option (CallData × List CallEffect)
  | .dial data now => rilRequestDial s t data now
  | c => some (callRequestHandler s t c)

def callIndicationHandlerInBounds (s : CallData) : CallIndication → Option (CallData × List CallEffect)
  | .incoming callInfo => ipcCallIncoming s callInfo
  | i => some (callIndicationHandler s i)

def callHandlerInBounds (s : CallData) : CallEvent → Option (CallData × List CallEffect)
  | .request t c => callRequestHandlerInBounds s t.1 c
  | .indication i => callIndicationHandlerInBounds s i

/-- A number that is copied into a new context fits. -/
def CallData.NumberFits (s : CallData) (number : CString) : Prop :=
  newRilCallContext s ≠ none → number.length < callNumberSize

def CallRequest.InBounds (s : CallData) : CallRequest → Prop
  | .dial (some data) _ => findRilCallContext s 0xFF = none → s.NumberFits data.address
  | _ => True

instance (s : CallData) (number : CString) : Decidable (s.NumberFits number) :=
  inferInstanceAs (Decidable (_ → _))

instance (s : CallData) : DecidablePred (CallRequest.InBounds s)
  | .dial (some dial) _ => inferInstanceAs (Decidable (_ = none → s.NumberFits dial.address))
  | .dial none _ | .hangup _ | .hangupWaitingOrBackground | .hangupForegroundResumeBackground | .answer
  | .switchWaitingOrHoldingAndActive => .isTrue trivial

def CallIndication.InBounds (s : CallData) : CallIndication → Prop
  | .incoming callInfo => s.NumberFits callInfo.phoneNumber
  | _ => True

def CallEvent.InBounds (s : CallData) : CallEvent → Prop
  | .request _ c => c.InBounds s
  | .indication i => i.InBounds s

section InBounds

variable {s : CallData} {t : RilToken}

theorem rilRequestDial_eq (data : Option RilDial) (now : UInt32) :
    rilRequestDial s t data now = some (rilRequestDialFitting s t data now) ∧
        (CallRequest.dial data now).InBounds s ∨
      rilRequestDial s t data now = none ∧ ¬(CallRequest.dial data now).InBounds s := by
  unfold rilRequestDial
  dsimp only
  by_cases hdialing : findRilCallContext s 0xFF ≠ none
  · left
    rw [if_pos hdialing]
    constructor
    · unfold rilRequestDialFitting
      dsimp only
      rw [if_pos hdialing]
    · cases data with
      | none => trivial
      | some dial => exact fun h => absurd h hdialing
  rw [if_neg hdialing]
  cases data with
  | none =>
    refine .inl ⟨?_, trivial⟩
    unfold rilRequestDialFitting
    dsimp only
    rw [if_neg hdialing]
  | some dial =>
    dsimp only
    cases hnew : newRilCallContext s with
    | none =>
      refine .inl ⟨?_, fun _ h => absurd hnew h⟩
      unfold rilRequestDialFitting
      dsimp only
      rw [if_pos rfl, if_neg hdialing, hnew]
    | some p =>
      rw [if_neg (Option.some_ne_none p)]
      by_cases hfits : dial.address.length < callNumberSize
      · rw [strcpy_of_lt hfits]
        exact .inl ⟨rfl, fun _ _ => hfits⟩
      · refine .inr ⟨?_, fun h => hfits (h (not_not.mp hdialing) (by simp [hnew]))⟩
        rw [strcpy, if_neg hfits]
        rfl

theorem ipcCallIncoming_eq (callInfo : TapiCallInfo) :
    ipcCallIncoming s callInfo = some (ipcCallIncomingFitting s callInfo) ∧
        (CallIndication.incoming callInfo).InBounds s ∨
      ipcCallIncoming s callInfo = none ∧ ¬(CallIndication.incoming callInfo).InBounds s := by
  unfold ipcCallIncoming
  cases hnew : newRilCallContext s with
  | none =>
    refine .inl ⟨?_, fun h => absurd hnew h⟩
    rw [if_pos rfl, ipcCallIncomingFitting, hnew]
  | some p =>
    rw [if_neg (Option.some_ne_none p)]
    by_cases hfits : callInfo.phoneNumber.length < callNumberSize
    · rw [strcpy_of_lt hfits]
      exact .inl ⟨rfl, fun _ => hfits⟩
    · refine .inr ⟨?_, fun h => hfits (h (by simp [hnew]))⟩
      rw [strcpy, if_neg hfits]
      rfl

/-- A request is handled as one whose number fits, or there is no result. -/
theorem callRequestHandlerInBounds_eq (c : CallRequest) :
    callRequestHandlerInBounds s t c = some (callRequestHandler s t c) ∧ c.InBounds s ∨
      callRequestHandlerInBounds s t c = none ∧ ¬c.InBounds s := by
  cases c with
  | dial data now => exact rilRequestDial_eq data now
  | _ => exact .inl ⟨rfl, trivial⟩

theorem callIndicationHandlerInBounds_eq (i : CallIndication) :
    callIndicationHandlerInBounds s i = some (callIndicationHandler s i) ∧ i.InBounds s ∨
      callIndicationHandlerInBounds s i = none ∧ ¬i.InBounds s := by
  cases i with
  | incoming callInfo => exact ipcCallIncoming_eq callInfo
  | _ => exact .inl ⟨rfl, trivial⟩

theorem callHandlerInBounds_eq_some {e : CallEvent} {r : CallData × List CallEffect} :
    callHandlerInBounds s e = some r ↔ callHandler s e = r ∧ e.InBounds s := by
  cases e with
  | request t c => exact eq_some_iff_of_or (callRequestHandlerInBounds_eq c)
  | indication i => exact eq_some_iff_of_or (callIndicationHandlerInBounds_eq i)

end InBounds

end Mocha.Ril
