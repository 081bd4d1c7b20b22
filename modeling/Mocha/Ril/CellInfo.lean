import Mocha.Ril.Network

/-! What the modem tells about the network and the cell (`ipc_network_select` and `ipc_cell_info` of
`network.c`), and what is known after a sequence of such messages. -/
namespace Mocha.Ril
open Mocha.Lib

/-- `tapiCellInfo`, as far as it is read. -/
structure TapiCellInfo where
  bCellChanged : UInt32
  bRACChanged : UInt32
  bLACChanged : UInt32
  bPLMNChanged : UInt32
  cellId : UInt8 × UInt8 × UInt8 × UInt8
  racId : UInt8
  lacId : UInt8 × UInt8
  plmnId : UInt8 × UInt8 × UInt8
deriving DecidableEq

namespace TapiCellInfo

def cell (cellInfo : TapiCellInfo) : UInt32 :=
  let (c0, c1, c2, c3) := cellInfo.cellId
  c0.toUInt32 <<< 24 ||| c1.toUInt32 <<< 16 ||| c2.toUInt32 <<< 8 ||| c3.toUInt32

def lac (cellInfo : TapiCellInfo) : UInt16 :=
  let (l0, l1) := cellInfo.lacId
  l0.toUInt16 <<< 8 ||| l1.toUInt16

/-- The number that the code of the network is printed from; the country has three digits and the
network two or three. -/
def plmnDec (cellInfo : TapiCellInfo) : ℕ :=
  let (p0, p1, p2) := cellInfo.plmnId
  let digit (n : UInt8) : ℕ := (n &&& 0xF).toNat
  let mcc := digit p0 * 100 + digit (p0 >>> 4) * 10 + digit p1 * 1
  if digit (p1 >>> 4) = 0xF then
    let mnc := digit p2 * 10 + digit (p2 >>> 4) * 1
    mcc * 100 + mnc
  else
    let mnc := digit p2 * 100 + digit (p2 >>> 4) * 10 + digit (p1 >>> 4) * 1
    mcc * 1000 + mnc

def plmn (cellInfo : TapiCellInfo) : CString := decimal cellInfo.plmnDec

end TapiCellInfo

/-- `ril_data` with `ril_data.state.rac_id`, which nothing reads. -/
structure RilCellData where
  ril : RilData
  racId : UInt8

def ipcCellInfo (s : RilCellData) (cellInfo : TapiCellInfo) : RilCellData × List RilEffect :=
  let st := s.ril.state
  let st := if cellInfo.bCellChanged ≠ 0 then { st with cellId := cellInfo.cell } else st
  let racId := if cellInfo.bRACChanged ≠ 0 then cellInfo.racId else s.racId
  let st := if cellInfo.bLACChanged ≠ 0 then { st with lacId := cellInfo.lac } else st
  let st := if cellInfo.bPLMNChanged ≠ 0 then { st with properPlmn := cellInfo.plmn } else st
  (⟨{ s.ril with state := st }, racId⟩, [.unsolicited .responseVoiceNetworkStateChanged])

inductive RegistrationMessage
  | selectInd (netInfo : TapiNetworkInfo)
  | cellInfo (cellInfo : TapiCellInfo)
deriving DecidableEq

def registrationHandler (s : RilCellData) : RegistrationMessage → Option (RilCellData × List RilEffect)
  | .selectInd netInfo => (ipcNetworkSelect s.ril netInfo).map fun r => (⟨r.1, s.racId⟩, r.2)
  | .cellInfo cellInfo => some (ipcCellInfo s cellInfo)

/-- What the handler does with a message whose strings fit. -/
def registered (s : RilCellData) : RegistrationMessage → RilCellData × List RilEffect
  | .selectInd netInfo => (⟨(networkSelected s.ril netInfo).1, s.racId⟩, (networkSelected s.ril netInfo).2)
  | .cellInfo cellInfo => ipcCellInfo s cellInfo

/-- The technology that a type of packet service stands for. -/
def TapiNetworkInfo.technology (netInfo : TapiNetworkInfo) : Option ℕ :=
  match netInfo.psServiceType with
  | 0 => some radioTechUnknown
  | 1 => some radioTechGprs
  | 2 => some radioTechEdge
  | 3 => some radioTechUmts
  | 4 => some radioTechHsdpa
  | _ => none

/-! What a message says about the fields of the state. -/

namespace RegistrationMessage

def netInfo? : RegistrationMessage → Option TapiNetworkInfo
  | selectInd n => some n
  | _ => none

def cellInfo? : RegistrationMessage → Option TapiCellInfo
  | cellInfo c => some c
  | _ => none

def regState (m : RegistrationMessage) : Option ℕ := m.netInfo?.map (·.regState)

def act (m : RegistrationMessage) : Option ℕ := m.netInfo?.bind (·.technology)

def cellId (m : RegistrationMessage) : Option UInt32 :=
  m.cellInfo?.bind fun c => if c.bCellChanged ≠ 0 then some c.cell else none

def racId (m : RegistrationMessage) : Option UInt8 :=
  m.cellInfo?.bind fun c => if c.bRACChanged ≠ 0 then some c.racId else none

def lacId (m : RegistrationMessage) : Option UInt16 :=
  m.cellInfo?.bind fun c => if c.bLACChanged ≠ 0 then some c.lac else none

def properPlmn (m : RegistrationMessage) : Option CString :=
  m.cellInfo?.bind fun c => if c.bPLMNChanged ≠ 0 then some c.plmn else none

end RegistrationMessage

/-- After some messages each field has the value of the latest one that carries it, or the one it had
before, and the other fields are untouched. -/
structure LatestValues (s₀ : RilCellData) (messages : List RegistrationMessage) (s : RilCellData) :
    Prop where
  regState : s.ril.state.regState = latest (·.regState) messages s₀.ril.state.regState
  act : s.ril.state.act = latest (·.act) messages s₀.ril.state.act
  cellId : s.ril.state.cellId = latest (·.cellId) messages s₀.ril.state.cellId
  racId : s.racId = latest (·.racId) messages s₀.racId
  lacId : s.ril.state.lacId = latest (·.lacId) messages s₀.ril.state.lacId
  properPlmn : s.ril.state.properPlmn = latest (·.properPlmn) messages s₀.ril.state.properPlmn
  spn : s.ril.state.spn = latest (fun m => m.netInfo?.map (·.spn)) messages s₀.ril.state.spn
  name : s.ril.state.name = latest (fun m => m.netInfo?.map (·.name)) messages s₀.ril.state.name
  others : s.ril.state = { s₀.ril.state with
    regState := s.ril.state.regState
    act := s.ril.state.act
    cellId := s.ril.state.cellId
    lacId := s.ril.state.lacId
    properPlmn := s.ril.state.properPlmn
    spn := s.ril.state.spn
    name := s.ril.state.name }

/-- The latest SELECT_IND has a known type of packet service, or none of the service levels that stand
for something else than 0. -/
def KnownServiceLast (messages : List RegistrationMessage) : Prop :=
  ∀ netInfo ∈ (messages.filterMap (·.netInfo?)).getLast?,
    netInfo.psServiceType ≤ 4 ∨ netInfo.regState = 0

/-- The strings of a message fit. -/
def RegistrationMessage.Fits (m : RegistrationMessage) : Prop := ∀ netInfo ∈ m.netInfo?, netInfo.Fits

/-- The registration state that a SELECT_IND leaves: an unknown type of packet service overwrites it. -/
def RegistrationMessage.regStateLeft (m : RegistrationMessage) : Option ℕ :=
  m.netInfo?.map fun netInfo => if netInfo.psServiceType ≤ 4 then netInfo.regState else 0

section

variable {s s₀ : RilCellData}

theorem update_eq (netInfo : TapiNetworkInfo) (st : RilState) : netInfo.update st = { st with
    regState := if netInfo.psServiceType ≤ 4 then netInfo.regState else 0
    act := netInfo.technology.getD st.act } := by
  unfold TapiNetworkInfo.update
  split
  case h_6 h0 h1 h2 h3 h4 =>
    have hunknown : ¬netInfo.psServiceType ≤ 4 := by grind
    have hnone : netInfo.technology = none := by
      unfold TapiNetworkInfo.technology
      split <;> first | rfl | contradiction
    rw [if_neg hunknown, hnone]
    rfl
  all_goals
    next htype =>
      rw [TapiNetworkInfo.technology, htype]
      rfl

theorem completeSelection_state (s : RilData) (netInfo : TapiNetworkInfo) :
    (completeSelection s netInfo).1.state = s.state := by
  unfold completeSelection
  dsimp only
  split_ifs <;> rfl

/-- What a message writes. -/
theorem registered_state (s : RilCellData) (m : RegistrationMessage) :
    (registered s m).1.ril.state = { s.ril.state with
      regState := m.regStateLeft.getD s.ril.state.regState
      act := m.act.getD s.ril.state.act
      cellId := m.cellId.getD s.ril.state.cellId
      lacId := m.lacId.getD s.ril.state.lacId
      properPlmn := m.properPlmn.getD s.ril.state.properPlmn
      spn := (m.netInfo?.map (·.spn)).getD s.ril.state.spn
      name := (m.netInfo?.map (·.name)).getD s.ril.state.name } := by
  cases m with
  | selectInd netInfo =>
    change (networkSelected s.ril netInfo).1.state = _
    unfold networkSelected
    dsimp only
    rw [update_eq]
    by_cases htoken : s.ril.tokens.networkSelection ≠ rilTokenNull
    · rw [if_pos htoken, completeSelection_state]
      rfl
    · rw [if_neg htoken]
      rfl
  | cellInfo c =>
    change (ipcCellInfo s c).1.ril.state = _
    unfold ipcCellInfo RegistrationMessage.cellId RegistrationMessage.lacId
      RegistrationMessage.properPlmn RegistrationMessage.cellInfo?
    dsimp only [Option.bind_some]
    split_ifs <;> rfl

theorem registered_racId (s : RilCellData) (m : RegistrationMessage) :
    (registered s m).1.racId = m.racId.getD s.racId := by
  cases m with
  | selectInd netInfo => rfl
  | cellInfo c =>
    change (ipcCellInfo s c).1.racId = _
    unfold ipcCellInfo RegistrationMessage.racId RegistrationMessage.cellInfo?
    dsimp only [Option.bind_some]
    split_ifs <;> rfl

theorem regState_left (s₀ : RilCellData) (messages : List RegistrationMessage) :
    (exec registered s₀ messages).2.ril.state.regState =
      latest (·.regStateLeft) messages s₀.ril.state.regState := by
  refine Run.exec_latest registered (·.ril.state.regState) _ (fun s m => ?_) s₀ messages
  rw [registered_state]

/-- Which values a run writes and which it leaves alone. -/
theorem latestValues_iff_regState (s₀ : RilCellData) (messages : List RegistrationMessage) :
    LatestValues s₀ messages (exec registered s₀ messages).2 ↔
      latest (·.regStateLeft) messages s₀.ril.state.regState =
        latest (·.regState) messages s₀.ril.state.regState := by
  rw [← regState_left]
  refine ⟨fun h => h.regState, fun h => ?_⟩
  have hfield : ∀ {β : Type} (get : RilState → β) (f : RegistrationMessage → Option β),
      (∀ s m, get (registered s m).1.ril.state = (f m).getD (get s.ril.state)) →
        get (exec registered s₀ messages).2.ril.state = latest f messages (get s₀.ril.state) :=
    fun get f hget => Run.exec_latest registered (fun s => get s.ril.state) f hget s₀ messages
  refine {
    regState := h
    act := hfield (·.act) _ fun s m => by rw [registered_state]
    cellId := hfield (·.cellId) _ fun s m => by rw [registered_state]
    racId := Run.exec_latest registered (·.racId) _ registered_racId s₀ messages
    lacId := hfield (·.lacId) _ fun s m => by rw [registered_state]
    properPlmn := hfield (·.properPlmn) _ fun s m => by rw [registered_state]
    spn := hfield (·.spn) _ fun s m => by rw [registered_state]
    name := hfield (·.name) _ fun s m => by rw [registered_state]
    others := ?_ }
  refine (Run.exec registered s₀ messages).invariant (fun s => s.ril.state = { s₀.ril.state with
    regState := s.ril.state.regState
    act := s.ril.state.act
    cellId := s.ril.state.cellId
    lacId := s.ril.state.lacId
    properPlmn := s.ril.state.properPlmn
    spn := s.ril.state.spn
    name := s.ril.state.name }) (fun s a t hs hstep => ?_) rfl
  obtain rfl : (registered s a.1).1 = t := congrArg Prod.fst hstep
  rw [registered_state, hs]

/-- The latest SELECT_IND decides. -/
theorem latest_regState (messages : List RegistrationMessage) (f : TapiNetworkInfo → ℕ) (n : ℕ) :
    latest (fun m => m.netInfo?.map f) messages n =
      ((messages.filterMap (·.netInfo?)).getLast?.map f).getD n := by
  have hmap : messages.filterMap (fun m => m.netInfo?.map f) =
      (messages.filterMap (·.netInfo?)).map f := by rw [List.map_filterMap]
  rw [latest, hmap, List.getLastD_eq_getLast?, List.getLast?_map]

/-- With strings that fit. -/
theorem latestValues_registered_iff (s₀ : RilCellData) (messages : List RegistrationMessage) :
    LatestValues s₀ messages (exec registered s₀ messages).2 ↔ KnownServiceLast messages := by
  have hleft : latest (·.regStateLeft) messages s₀.ril.state.regState = _ :=
    latest_regState messages _ _
  have hright : latest (·.regState) messages s₀.ril.state.regState = _ :=
    latest_regState messages TapiNetworkInfo.regState _
  rw [latestValues_iff_regState, hleft, hright, KnownServiceLast]
  cases (messages.filterMap (·.netInfo?)).getLast? with
  | none => simp
  | some netInfo =>
    rw [Option.map_some, Option.map_some, Option.getD_some, Option.getD_some]
    by_cases hknown : netInfo.psServiceType ≤ 4
    · simp [hknown]
    · rw [if_neg hknown]
      simp [hknown, eq_comm]

theorem registrationHandler_eq_some (s : RilCellData) (m : RegistrationMessage)
    (r : RilCellData × List RilEffect) :
    registrationHandler s m = some r ↔ registered s m = r ∧ m.Fits := by
  cases m with
  | selectInd netInfo =>
    have hfits : (RegistrationMessage.selectInd netInfo).Fits ↔ netInfo.Fits :=
      ⟨fun h => h _ rfl, fun h _ hn => Option.some.inj hn ▸ h⟩
    rw [hfits, registrationHandler, Option.map_eq_some_iff]
    simp only [ipcNetworkSelect_eq_some]
    constructor
    · rintro ⟨_, ⟨rfl, h⟩, rfl⟩
      exact ⟨rfl, h⟩
    · rintro ⟨rfl, h⟩
      exact ⟨_, ⟨rfl, h⟩, rfl⟩
  | cellInfo c =>
    have hfits : (RegistrationMessage.cellInfo c).Fits := nofun
    rw [and_iff_left hfits]
    exact Option.some_inj

/-- **After every sequence of messages each field has its latest value** exactly if all the strings fit,
and the latest SELECT_IND has a known type of packet service, or a registration state of 0 in the first
place. -/
theorem latestValues_iff (s₀ : RilCellData) (messages : List RegistrationMessage) :
    (∃ r, execPartial registrationHandler s₀ messages = some r ∧ LatestValues s₀ messages r.2) ↔
      KnownServiceLast messages ∧ ∀ m ∈ messages, m.Fits := by
  rw [← latestValues_registered_iff s₀]
  simp only [execPartial_eq_some registrationHandler_eq_some]
  constructor
  · rintro ⟨_, ⟨rfl, hfits⟩, h⟩
    exact ⟨h, hfits⟩
  · rintro ⟨h, hfits⟩
    exact ⟨_, ⟨rfl, hfits⟩, h⟩

/-- The service is full in the home network, and the type of packet service is 5. -/
theorem not_latestValues_unknownService :
    ¬∀ (s₀ : RilCellData) (messages : List RegistrationMessage),
      ∃ r, execPartial registrationHandler s₀ messages = some r ∧ LatestValues s₀ messages r.2 := by
  intro h
  obtain ⟨r, hr, hlatest⟩ := h ⟨RilData.init, 0⟩ [.selectInd ⟨tapiServiceLevelFull, 5, 0, [], []⟩]
  obtain ⟨rfl, -⟩ := (execPartial_eq_some registrationHandler_eq_some).mp hr
  exact absurd hlatest.regState (by decide)

end

end Mocha.Ril
