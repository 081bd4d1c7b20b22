import Mocha.Ril.Data

/-! Network search, selection and registration (`mocha-ril/network.c`). -/
namespace Mocha.Ril
open Mocha.Lib

/-! Members of `enum TAPI_SERVICE_LEVEL`, `TAPI_NETWORK_MODE` and `TAPI_NETWORK_SELECTION_MODE`. -/

def tapiServiceLevelNone : UInt8 := 1
def tapiServiceLevelEmergency : UInt8 := 2
def tapiServiceLevelFull : UInt8 := 3
def tapiServiceLevelSearching : UInt8 := 4

def tapiNetworkModeGsm9001800 : UInt32 := 0x60
def tapiNetworkModeUmts9002100 : UInt32 := 0x4400
def tapiNetworkModeAutomatic : UInt32 := 0x7FF8

def tapiNetworkSelectionManual : UInt32 := 0
def tapiNetworkSelectionAuto : UInt32 := 1

/-! Members of `RIL_RadioTechnology` and `RIL_PreferredNetworkType`. -/

def radioTechUnknown : ℕ := 0
def radioTechGprs : ℕ := 1
def radioTechEdge : ℕ := 2
def radioTechUmts : ℕ := 3
def radioTechHsdpa : ℕ := 9

def prefNetTypeGsmWcdma : ℤ := 0
def prefNetTypeGsmOnly : ℤ := 1
def prefNetTypeWcdma : ℤ := 2

/-- `NET_MAX_NAME_LEN` and `NET_MAX_SPN_LEN` -/
def netMaxNameLen : ℕ := 40
def netMaxSpnLen : ℕ := 24

/-- `tapiNetworkInfo`, as far as it is read. The strings end where a null comes, in their arrays or
behind them. -/
structure TapiNetworkInfo where
  serviceLevel : UInt8
  psServiceType : UInt8
  bRoaming : UInt32
  name : CString
  spn : CString
deriving DecidableEq

/-- `ril_net_select_find_plmn`, with the place in the list. -/
def rilNetSelectFindPlmn (netSelectList : List RilNetSelect) (plmn : CString) :
    Option (ℕ × RilNetSelect) :=
  findCell? (fun netSelect => netSelect.plmn = plmn) netSelectList

/-- The number that the code of a network is printed from. -/
def TapiNetSearchCnf.plmnDec (entry : TapiNetSearchCnf) : ℕ :=
  if 99 < entry.mnc then entry.mcc.toNat * 1000 + entry.mnc.toNat
  else entry.mcc.toNat * 100 + entry.mnc.toNat

/-- One round of the loop in `ipc_network_search_cnf`. -/
def addNetwork (netSelectList : List RilNetSelect) (entry : TapiNetSearchCnf) : List RilNetSelect :=
  let plmn := decimal entry.plmnDec
  match rilNetSelectFindPlmn netSelectList plmn with
  | some (i, netSelect) =>
    if netSelect.netSelectEntry.systemType < entry.systemType then
      netSelectList.set i { netSelect with netSelectEntry := entry }
    else netSelectList
  | none => netSelectList ++ [⟨plmn, entry⟩]

def TapiNetSearchCnf.status (entry : TapiNetSearchCnf) : CString :=
  if entry.bForbidden ≠ 0 then cString "forbidden"
  else if entry.bCurrent ≠ 0 then cString "current"
  else if entry.bAvailable ≠ 0 then cString "available"
  else cString "unknown"

def RilNetSelect.response (netSelect : RilNetSelect) : List (Option CString) :=
  [some netSelect.netSelectEntry.name, some netSelect.netSelectEntry.name, some netSelect.plmn,
    some netSelect.netSelectEntry.status]

/-- `ipc_network_search_cnf`; the list counts as many entries as were registered. -/
def ipcNetworkSearchCnf (s : RilData) (entries : List TapiNetSearchCnf) : RilData × List RilEffect :=
  let netSelectList := entries.foldl addNetwork []
  let response := if netSelectList = [] then none
    else some (RilResponse.strings (netSelectList.flatMap RilNetSelect.response))
  ({ s with netSelectList := netSelectList },
    [.complete ⟨s.tokens.queryAvailNetworks, .success, response⟩])

/-- The completion of a selection in `ipc_network_select` and `ipc_network_select_cnf`. -/
def completeSelection (s : RilData) (netInfo : TapiNetworkInfo) : RilData × List RilEffect :=
  let tokens := { s.tokens with networkSelection := rilTokenNull }
  if netInfo.serviceLevel = tapiServiceLevelFull then
    ({ s with tokens := tokens, netSelectList := [] },
      [.complete ⟨s.tokens.networkSelection, .success, none⟩])
  else
    ({ s with tokens := tokens }, [.complete ⟨s.tokens.networkSelection, .illegalSimOrMe, none⟩])

def ipcNetworkSelectCnf (s : RilData) (netInfo : TapiNetworkInfo) : RilData × List RilEffect :=
  completeSelection s netInfo

/-- The registration state that a service level stands for. -/
def TapiNetworkInfo.regState (netInfo : TapiNetworkInfo) : ℕ :=
  if netInfo.serviceLevel = tapiServiceLevelNone then 0
  else if netInfo.serviceLevel = tapiServiceLevelEmergency then 12
  else if netInfo.serviceLevel = tapiServiceLevelFull then if netInfo.bRoaming ≠ 0 then 5 else 1
  else if netInfo.serviceLevel = tapiServiceLevelSearching then 2
  else 0

/-- The registration state and the technology; an unknown technology overwrites the former. -/
def TapiNetworkInfo.update (netInfo : TapiNetworkInfo) (st : RilState) : RilState :=
  let st := { st with regState := netInfo.regState }
  match netInfo.psServiceType with
  | 0 => { st with act := radioTechUnknown }
  | 1 => { st with act := radioTechGprs }
  | 2 => { st with act := radioTechEdge }
  | 3 => { st with act := radioTechUmts }
  | 4 => { st with act := radioTechHsdpa }
  | _ => { st with regState := radioTechUnknown }

/-- The strings end within `SPN` and `name`, which have the sizes of the arrays of the packet. -/
structure TapiNetworkInfo.Fits (netInfo : TapiNetworkInfo) : Prop where
  spn : netInfo.spn.length < netMaxSpnLen
  name : netInfo.name.length < netMaxNameLen

/-- `ipc_network_select`, for strings that fit. -/
def networkSelected (s : RilData) (netInfo : TapiNetworkInfo) : RilData × List RilEffect :=
  let st := { netInfo.update s.state with spn := netInfo.spn, name := netInfo.name }
  let r := if s.tokens.networkSelection ≠ rilTokenNull then
      completeSelection { s with state := st } netInfo
    else ({ s with state := st }, [])
  (r.1, r.2 ++ [.unsolicited .responseVoiceNetworkStateChanged])

/-- `ipc_network_select`; `none` where `strcpy` runs over `SPN` or `name` into what follows, the tokens
among it. -/
def ipcNetworkSelect (s : RilData) (netInfo : TapiNetworkInfo) : Option (RilData × List RilEffect) := do
  let spn ← strcpy netMaxSpnLen netInfo.spn
  let name ← strcpy netMaxNameLen netInfo.name
  return networkSelected s { netInfo with spn := spn, name := name }

theorem ipcNetworkSelect_eq_some {s : RilData} {netInfo : TapiNetworkInfo}
    {r : RilData × List RilEffect} :
    ipcNetworkSelect s netInfo = some r ↔ networkSelected s netInfo = r ∧ netInfo.Fits := by
  unfold ipcNetworkSelect
  simp only [Option.bind_eq_bind, Option.bind_eq_some_iff, strcpy_eq_some]
  constructor
  · rintro ⟨_, ⟨hspn, rfl⟩, _, ⟨hname, rfl⟩, h⟩
    exact ⟨Option.some.inj h, hspn, hname⟩
  · rintro ⟨rfl, hspn, hname⟩
    exact ⟨_, ⟨hspn, rfl⟩, _, ⟨hname, rfl⟩, rfl⟩

def rilRequestQueryAvailableNetworks (s : RilData) (t : RilToken) : RilData × List RilEffect :=
  ({ s with tokens := { s.tokens with queryAvailNetworks := t } },
    [.ipc (.tapiSetSelectionMode 1), .ipc .tapiNetworkSearch])

def rilRequestSetNetworkSelectionAutomatic (s : RilData) (t : RilToken) : RilData × List RilEffect :=
  ({ s with tokens := { s.tokens with networkSelection := t },
            bAutoAttach := tapiNetworkSelectionAuto },
    [.ipc (.tapiNetworkReselect 1), .ipc (.tapiSetSelectionMode 0),
      .saveRilConfig tapiNetworkSelectionAuto])

/-- The network that a manual selection asks for; `data` is a string and the length it comes with. -/
def selectedNetwork (s : RilData) (data : Option (CString × ℕ)) : Option RilNetSelect := do
  let (plmn, datalen) ← data
  if datalen < 4 then none else
    let (_, netSelect) ← rilNetSelectFindPlmn s.netSelectList plmn
    return netSelect

def rilRequestSetNetworkSelectionManual (s : RilData) (t : RilToken) (data : Option (CString × ℕ)) :
    RilData × List RilEffect :=
  match selectedNetwork s data with
  | none => (s, [.complete ⟨t, .genericFailure, none⟩])
  | some netSelect =>
    ({ s with tokens := { s.tokens with networkSelection := t },
              bAutoAttach := tapiNetworkSelectionManual },
      [.ipc (.tapiNetworkSelect netSelect.netSelectEntry),
        .saveRilConfig tapiNetworkSelectionManual])

def ipc2rilPlmnSel (mode : UInt32) : ℤ := if mode = tapiNetworkSelectionManual then 1 else 0

def rilRequestQueryNetworkSelectionMode (s : RilData) (t : RilToken) : RilData × List RilEffect :=
  (s, [.complete ⟨t, .success, some (.int (ipc2rilPlmnSel s.bAutoAttach))⟩])

def ipc2rilNetMode (mode : UInt32) : ℤ :=
  if mode = tapiNetworkModeUmts9002100 then prefNetTypeWcdma
  else if mode = tapiNetworkModeGsm9001800 then prefNetTypeGsmOnly
  else prefNetTypeGsmWcdma

def ril2ipcNetMode (mode : ℤ) : UInt32 :=
  if mode = prefNetTypeWcdma then tapiNetworkModeUmts9002100
  else if mode = prefNetTypeGsmOnly then tapiNetworkModeGsm9001800
  else tapiNetworkModeAutomatic

def rilRequestGetPreferredNetworkType (s : RilData) (t : RilToken) : RilData × List RilEffect :=
  (s, [.complete ⟨t, .success, some (.int (ipc2rilNetMode s.state.netMode))⟩])

/-- `ril_request_set_preferred_network_type`; `none` when the data is null or too short. -/
def rilRequestSetPreferredNetworkType (s : RilData) (t : RilToken) (data : Option ℤ) :
    RilData × List RilEffect :=
  match data with
  | none => (s, [.complete ⟨t, .genericFailure, none⟩])
  | some rilMode =>
    let netMode := ril2ipcNetMode rilMode
    let s := { s with state := { s.state with netMode := netMode } }
    if s.state.radioState ≠ .off then
      (s, [.ipc (.tapiNetworkSetMode netMode), .complete ⟨t, .success, none⟩])
    else (s, [.complete ⟨t, .radioNotAvailable, none⟩])

def rilRequestOperator (s : RilData) (t : RilToken) : RilData × List RilEffect :=
  if s.state.regState = 1 then
    let name := if s.state.name ≠ [] then some s.state.name
      else if s.state.spn ≠ [] then some s.state.spn
      else none
    (s, [.complete ⟨t, .success, some (.strings [name, name, some s.state.properPlmn])⟩])
  else (s, [.complete ⟨t, .opNotAllowedBeforeRegToNw, none⟩])

/-- `%x` -/
def hexadecimal (n : ℕ) : CString := cString (String.ofList (Nat.toDigits 16 n))

/-- The location and the technology, as both registration states are answered with them. -/
def RilState.location (st : RilState) : List (Option CString) :=
  [some (hexadecimal st.lacId.toNat), some (hexadecimal st.cellId.toNat), some (decimal st.act)]

def rilRequestVoiceRegistrationState (s : RilData) (t : RilToken) : RilData × List RilEffect :=
  let cause := if s.state.regState = 3 then some (decimal 0) else none
  (s, [.complete ⟨t, .success, some (.strings (some (decimal s.state.regState) ::
    s.state.location ++ List.replicate 9 none ++ [cause, none]))⟩])

def rilRequestDataRegistrationState (s : RilData) (t : RilToken) : RilData × List RilEffect :=
  let regState := if s.state.act = radioTechUnknown then 0 else s.state.regState
  let cause := if s.state.regState = 3 then some (decimal 7) else none
  (s, [.complete ⟨t, .success, some (.strings (some (decimal regState) ::
    s.state.location ++ [cause, some (decimal maxConnections)]))⟩])

end Mocha.Ril
