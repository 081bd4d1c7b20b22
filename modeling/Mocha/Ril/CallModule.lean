import Mocha.Ril.CallIdentity

/-! The other requests of the call module, which read the call table or leave it alone, and how the
framework addresses calls: `RIL_REQUEST_GET_CURRENT_CALLS` reports a call at an index, and
`RIL_REQUEST_HANGUP` takes the index back. -/
namespace Mocha.Ril
open Mocha.Lib

/-- The call table and `ril_data.state.dtmf_tone`. -/
structure CallModule where
  table : CallData
  dtmfTone : UInt8
deriving DecidableEq

def CallModule.init : CallModule := ⟨.init, 0⟩

/-- `RIL_Call`; the two null pointers `name` and `uusInfo` are left out. -/
structure RilCall where
  state : RilCallState
  index : ℕ
  toa : ℕ
  isMpty : ℕ
  isMT : UInt8
  als : ℕ
  isVoice : ℕ
  isVoicePrivacy : ℕ
  number : CString
  numberPresentation : ℕ
  namePresentation : ℕ
deriving DecidableEq

/-- `RIL_LastCallFailCause`, as far as it is reported. -/
inductive RilLastCallFailCause
  | normal
  | congestion
  | errorUnspecified
deriving DecidableEq, Repr

inductive CallModuleEffect
  | control (e : CallEffect)
  | currentCalls (c : Completion (List RilCall))
  | lastCallFailCause (c : Completion RilLastCallFailCause)
  | tapiStartDtmf (callId : UInt32) (tone : UInt8)
  | tapiStopDtmf (callId : UInt32)
deriving DecidableEq

/-- The entry that `ril_request_get_current_calls` makes for a context. -/
def rilCall (i : Fin maxCalls) (c : RilCallContext) : RilCall where
  state := c.callState
  index := i + 1
  toa := if 0 < c.number.length ∧ c.number.head? = some 0x2B then 145 else 129
  isMpty := 0
  isMT := c.bMT
  als := 0
  isVoice := 1
  isVoicePrivacy := 0
  number := c.number
  numberPresentation := if 0 < c.number.length then 0 else 2
  namePresentation := 2

/-- The loop of `ril_request_get_current_calls`. -/
def currentCalls (s : CallData) : List (Fin maxCalls) → List RilCall
  | [] => []
  | i :: is =>
    match s.calls i with
    | none => currentCalls s is
    | some c => if c.callId = 0xFF then currentCalls s is else rilCall i c :: currentCalls s is

def rilRequestGetCurrentCalls (s : CallModule) (t : RilToken) : CallModule × List CallModuleEffect :=
  let calls := currentCalls s.table (List.finRange maxCalls)
  (s, [.currentCalls ⟨t, .success, if calls = [] then none else some calls⟩])

def findActiveCall (s : CallData) : Option RilCallContext :=
  ((List.finRange maxCalls).find? fun i =>
    (s.calls i).any fun c => c.callId ≠ 0xFF ∧ c.callState = .active).bind s.calls

/-- `ril_request_last_call_fail_cause`; the cases 43 and 7 fall through to those behind them. -/
def rilRequestLastCallFailCause (s : CallModule) (t : RilToken) :
    CallModule × List CallModuleEffect :=
  let cause := s.table.lastCallFailCause
  let failCause : RilLastCallFailCause :=
    if cause = 43 ∨ cause = 66 ∨ cause = 24 then .normal
    else if cause = 7 ∨ cause = 44 then .congestion
    else .errorUnspecified
  (s, [.lastCallFailCause ⟨t, .success, some failCause⟩])

def rilRequestDtmf (s : CallModule) (t : RilToken) : CallModule × List CallModuleEffect :=
  (s, [.control (.complete ⟨t, .success, none⟩)])

/-- `ril_request_dtmf_start`; `data` is `none` for a null or short argument. -/
def rilRequestDtmfStart (s : CallModule) (t : RilToken) (data : Option UInt8) :
    CallModule × List CallModuleEffect :=
  match findActiveCall s.table, data with
  | some activeCall, some tone =>
    (⟨{ s.table with tokenDtmfStart := t }, tone⟩,
      (if s.dtmfTone ≠ 0 then [.tapiStopDtmf activeCall.callId] else []) ++
        [.tapiStartDtmf activeCall.callId tone])
  | _, _ => (s, [.control (.complete ⟨t, .genericFailure, none⟩)])

def rilRequestDtmfStop (s : CallModule) (t : RilToken) : CallModule × List CallModuleEffect :=
  match findActiveCall s.table with
  | some activeCall =>
    (⟨{ s.table with tokenDtmfStop := t }, 0⟩, [.tapiStopDtmf activeCall.callId])
  | none => (s, [.control (.complete ⟨t, .genericFailure, none⟩)])

/-- All requests of the call module. -/
inductive CallModuleRequest
  | control (c : CallRequest)
  | getCurrentCalls
  | lastCallFailCause
  | dtmf
  | dtmfStart (data : Option UInt8)
  | dtmfStop
deriving DecidableEq

inductive CallModuleEvent
  | request (t : RequestToken) (c : CallModuleRequest)
  | indication (i : CallIndication)
deriving DecidableEq

/-- A handler of the call table in the module. -/
def CallModule.lift (s : CallModule) (r : CallData × List CallEffect) :
    CallModule × List CallModuleEffect := ({ s with table := r.1 }, r.2.map .control)

def callModuleRequestHandler (s : CallModule) (t : RilToken) :
    CallModuleRequest → CallModule × List CallModuleEffect
  | .control c => s.lift (callRequestHandler s.table t c)
  | .getCurrentCalls => rilRequestGetCurrentCalls s t
  | .lastCallFailCause => rilRequestLastCallFailCause s t
  | .dtmf => rilRequestDtmf s t
  | .dtmfStart data => rilRequestDtmfStart s t data
  | .dtmfStop => rilRequestDtmfStop s t

def callModuleHandler (s : CallModule) : CallModuleEvent → CallModule × List CallModuleEffect
  | .request t c => callModuleRequestHandler s t.1 c
  | .indication i => s.lift (callIndicationHandler s.table i)

abbrev CallModuleStep : Step CallModule (CallModuleEvent × List CallModuleEffect) :=
  Step.ofFun callModuleHandler

/-! The requests and the indications, within the bounds of the contexts. -/

def callModuleRequestHandlerInBounds (s : CallModule) (t : RilToken) :
    CallModuleRequest → Option (CallModule × List CallModuleEffect)
  | .control c => (callRequestHandlerInBounds s.table t c).map s.lift
  | c => some (callModuleRequestHandler s t c)

def callModuleIndicationInBounds (s : CallModule) (i : CallIndication) :
    Option (CallModule × List CallModuleEffect) :=
  (callIndicationHandlerInBounds s.table i).map s.lift

def CallModuleRequest.InBounds (s : CallModule) : CallModuleRequest → Prop
  | .control c => c.InBounds s.table
  | _ => True

instance (s : CallModule) : DecidablePred (CallModuleRequest.InBounds s)
  | .control c => inferInstanceAs (Decidable (c.InBounds s.table))
  | .getCurrentCalls | .lastCallFailCause | .dtmf | .dtmfStart _ | .dtmfStop => .isTrue trivial

theorem callModuleRequestHandlerInBounds_eq_some {s : CallModule} {t : RilToken} {c : CallModuleRequest}
    {r : CallModule × List CallModuleEffect} : callModuleRequestHandlerInBounds s t c = some r ↔
      callModuleRequestHandler s t c = r ∧ c.InBounds s := by
  cases c with
  | control c =>
    change (callRequestHandlerInBounds s.table t c).map s.lift = some r ↔
      s.lift (callRequestHandler s.table t c) = r ∧ c.InBounds s.table
    exact eq_some_iff_of_or ((callRequestHandlerInBounds_eq c).imp
      (And.imp_left (congrArg (Option.map s.lift))) (And.imp_left (congrArg (Option.map s.lift))))
  | _ => exact Option.some_inj.trans (and_iff_left trivial).symm

theorem callModuleIndicationInBounds_eq_some {s : CallModule} {i : CallIndication}
    {r : CallModule × List CallModuleEffect} : callModuleIndicationInBounds s i = some r ↔
      callModuleHandler s (.indication i) = r ∧ i.InBounds s.table := by
  change (callIndicationHandlerInBounds s.table i).map s.lift = some r ↔
    s.lift (callIndicationHandler s.table i) = r ∧ i.InBounds s.table
  exact eq_some_iff_of_or ((callIndicationHandlerInBounds_eq i).imp
    (And.imp_left (congrArg (Option.map s.lift))) (And.imp_left (congrArg (Option.map s.lift))))

section Reports

variable {s u : CallData} {k : CallIndex} {c : RilCallContext}

end Reports

section Step

variable {s u : CallModule} {a : CallModuleEvent × List CallModuleEffect} {i : Fin maxCalls}
  {x : CallIdentity}

end Step

section Runs

variable {s u : CallModule} {tr : List (CallModuleEvent × List CallModuleEffect)}

end Runs

end Mocha.Ril
