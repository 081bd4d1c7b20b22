import Mocha.Lib.Cells
import Mocha.Lib.Run
import Mocha.Ril.Hex
import Mocha.Ril.Token

/-! Data calls (`gprs.c`): the list of connections, the cid of the last failed one, and the functions
that change them. A pointer to a connection is its position in the list. What `calloc`, `tun_alloc`,
`pthread_create` and `ifc_configure` return comes with the event; a cell of the list is always
allocated, and the strings of START_NETWORK are without a bound. -/
namespace Mocha.Ril
open Mocha.Lib

/-- `MAX_CONNECTIONS` -/
def maxConnections : ℕ := 2

/-- The context id of a connection that the modem has not answered for. -/
def contextIdPlaceholder : UInt32 := 0xFFFFFFFF

inductive ProtoType
  | none
  | ip
  | ppp
deriving DecidableEq, Repr

/-- The members of `RIL_DataCallFailCause` that the module uses. -/
inductive RilDataCallFailCause
  | none
  | errorUnspecified
deriving DecidableEq, Repr

/-- `struct in_addr`, by its bytes in memory. -/
structure InAddr where
  b0 : UInt8
  b1 : UInt8
  b2 : UInt8
  b3 : UInt8
deriving DecidableEq

def htoina (addr : UInt32) : InAddr :=
  ⟨(addr >>> 24).toUInt8, (addr >>> 16).toUInt8, (addr >>> 8).toUInt8, addr.toUInt8⟩

/-- `%d` -/
def decimal (n : ℤ) : CString := cString (toString n)

theorem decimal_nat (n : ℕ) :
    decimal n = (Nat.toDigits 10 n).map fun c => UInt8.ofNat c.toNat := by
  change ((Nat.repr n).toList).map _ = _
  rw [Nat.toList_repr]

theorem decimal_length_le {n k : ℕ} (hk : 0 < k) : (decimal n).length ≤ k ↔ n < 10 ^ k := by
  rw [decimal_nat, List.length_map]
  exact Nat.length_toDigits_le_iff (by decide) hk

/-- The sign stands in front of the digits. -/
theorem decimal_ne_zero (n : ℕ) : 0 ∉ decimal n := by
  rw [decimal_nat, List.mem_map]
  rintro ⟨c, hc, hzero⟩
  have hdigit : c.isDigit := Nat.isDigit_of_mem_toDigits (by decide) (by decide) hc
  simp only [Char.isDigit, Bool.and_eq_true, decide_eq_true_eq, ge_iff_le,
    UInt32.le_iff_toNat_le] at hdigit
  have hlow : 48 ≤ c.toNat := hdigit.1
  have hhigh : c.toNat ≤ 57 := hdigit.2
  have hval := congrArg UInt8.toNat hzero
  rw [UInt8.toNat_ofNat'] at hval
  change c.toNat % 256 = 0 at hval
  omega

theorem decimal_negSucc (n : ℕ) : decimal (Int.negSucc n) = 0x2D :: decimal (n + 1 : ℕ) := by
  change (("-" ++ Nat.repr (n + 1)).toList).map _ = _
  rw [String.toList_append, List.map_append]
  rfl

/-- `IN_ADDR_FMT`, with the format `%d.%d.%d.%d`. -/
def inAddrFmt (a : InAddr) : CString :=
  decimal a.b0.toNat ++ cString "." ++ decimal a.b1.toNat ++ cString "." ++
    decimal a.b2.toNat ++ cString "." ++ decimal a.b3.toNat

def isDigit (c : UInt8) : Bool := 0x30 ≤ c ∧ c ≤ 0x39

def digitsValue (s : CString) : ℤ :=
  (s.takeWhile isDigit).foldl (fun n c => 10 * n + (c.toNat - 0x30)) 0

/-- `atoi`, for a number in the range of `int`. -/
def atoi (s : CString) : ℤ :=
  match s.dropWhile isSpace with
  | 0x2D :: ds => -digitsValue ds
  | 0x2B :: ds => digitsValue ds
  | ds => digitsValue ds

def protoTypeToDataCallType : ProtoType → CString
  | .ip => cString "IP"
  | .ppp => cString "PPP"
  | .none => cString "IP"

def dataCallTypeToProtoType (type : CString) : ProtoType :=
  if type = cString "IP" ∨ type = cString "IPV6" ∨ type = cString "IPV4V6" then .ip
  else if type = cString "PPP" then .ppp
  else .none

/-- `struct ril_gprs_connection`; nothing reads its member `status`. -/
structure RilGprsConnection where
  contextId : UInt32
  cid : ℤ
  active : ℕ
  type : ProtoType
  iface : ℤ
  ifname : CString
  ip : InAddr
  gateway : InAddr
  dns1 : InAddr
  dns2 : InAddr
  prefixLen : ℕ
  token : RilToken
  failCause : RilDataCallFailCause
  threadState : ℕ
deriving DecidableEq

/-- `ril_data.gprs_connections` and `ril_data.state.gprs_last_failed_cid`. -/
structure GprsData where
  gprsConnections : List RilGprsConnection
  gprsLastFailedCid : ℤ
deriving DecidableEq

def GprsData.init : GprsData := ⟨[], 0⟩

/-- `RIL_Data_Call_Response_v6` -/
structure RilDataCallResponseV6 where
  status : RilDataCallFailCause
  cid : ℤ
  active : ℕ
  type : CString
  ifname : CString
  addresses : CString
  dnses : CString
  gateways : CString
deriving DecidableEq

inductive GprsResponse
  | setupDataCall (r : RilDataCallResponseV6)
  | dataCallList (rs : List RilDataCallResponseV6)
  | failCause (c : RilDataCallFailCause)
deriving DecidableEq

/-- `protoStartNetwork`: the members that `ril_request_setup_data_call` sets; the others are 0. -/
structure ProtoStartNetwork where
  opMode : UInt16
  protoType : ProtoType
  napAddr : CString
  preferredAccountHandle : UInt32
  localAddr : UInt32
  dnsAddr1 : UInt32
  dnsAddr2 : UInt32
  userId : CString
  userPasswd : CString
deriving DecidableEq

/-- `protoStopNetwork` -/
structure ProtoStopNetwork where
  opMode : UInt16
  protoType : ProtoType
  contextId : UInt32
deriving DecidableEq

/-- `protoStartNetworkCnf`: the members that are read. -/
structure ProtoStartNetworkCnf where
  contextId : UInt32
  error : UInt16
  localAddr : UInt32
  dnsAddr1 : UInt32
  dnsAddr2 : UInt32
deriving DecidableEq

def protoOpmodePs : UInt16 := 1

inductive GprsEffect
  | complete (c : Completion GprsResponse)
  | unsolicited (dataCallListChanged : List RilDataCallResponseV6)
  | protoStartNetwork (r : ProtoStartNetwork)
  | protoStopNetwork (r : ProtoStopNetwork)
  | tunAlloc (ifname : CString)
  | close (iface : ℤ)
  | write (iface : ℤ) (netBuf : List UInt8)
  | ifcConfigure (ifname : CString) (ip : InAddr) (prefixLen : ℕ) (gateway dns1 dns2 : InAddr)
deriving DecidableEq

def GprsEffect.completion : GprsEffect → Option (Completion GprsResponse)
  | .complete c => some c
  | _ => none

def GprsEffect.startsNetwork : GprsEffect → Bool
  | .protoStartNetwork _ => true
  | _ => false

/-! The list of connections. -/

/-- The loop of `ril_gprs_connection_find_cid`. -/
def rilGprsConnectionFindCid (s : GprsData) (cid : ℤ) : Option (ℕ × RilGprsConnection) :=
  findCell? (·.cid = cid) s.gprsConnections

/-- The loop of `ril_gprs_connection_find_contextId`. -/
def rilGprsConnectionFindContextId (s : GprsData) (contextId : UInt32) :
    Option (ℕ × RilGprsConnection) :=
  findCell? (·.contextId = contextId) s.gprsConnections

/-- The connection at a position is changed. -/
def GprsData.put (s : GprsData) (i : ℕ) (c : RilGprsConnection) : GprsData :=
  { s with gprsConnections := s.gprsConnections.set i c }

/-- A connection that has been allocated for a cid. -/
def RilGprsConnection.alloc (cid : ℤ) : RilGprsConnection where
  contextId := 0
  cid := cid
  active := 0
  type := .none
  iface := -1
  ifname := []
  ip := ⟨0, 0, 0, 0⟩
  gateway := ⟨0, 0, 0, 0⟩
  dns1 := ⟨0, 0, 0, 0⟩
  dns2 := ⟨0, 0, 0, 0⟩
  prefixLen := 0
  token := rilTokenNull
  failCause := .none
  threadState := 0

/-- `ril_gprs_connection_register`; `none` when there is no memory for the connection. Memory for the cell
of the list is taken for granted: without it the function returns 0 all the same, and its caller writes
to the null pointer that `ril_gprs_connection_find_cid` then gives. -/
def rilGprsConnectionRegister (s : GprsData) (cid : ℤ) (allocated : Bool) : Option GprsData :=
  if allocated then some { s with gprsConnections := s.gprsConnections ++ [.alloc cid] } else none

/-- `ril_gprs_connection_unregister` -/
def rilGprsConnectionUnregister (s : GprsData) (i : ℕ) : GprsData :=
  { s with gprsConnections := s.gprsConnections.eraseIdx i }

/-- `ril_gprs_connection_stop` -/
def rilGprsConnectionStop (s : GprsData) (i : ℕ) (c : RilGprsConnection) :
    GprsData × List GprsEffect :=
  (rilGprsConnectionUnregister s i, if 0 ≤ c.iface then [.close c.iface] else [])

/-- The inner loop of `ril_gprs_connection_start`, which clears a cid that is in use. -/
def clearUsedCid (cid : ℤ) : List RilGprsConnection → ℤ
  | [] => cid
  | c :: cs => if c.cid = cid then 0 else clearUsedCid cid cs

/-- The outer loop, for the last `n` values of `i`. -/
def findUnusedCid (cs : List RilGprsConnection) : ℕ → ℤ → ℤ
  | 0, cid => cid
  | n + 1, _ =>
    let cid := clearUsedCid (maxConnections - (n + 1) + 1) cs
    if 0 < cid then cid else findUnusedCid cs n cid

/-- `ril_gprs_connection_start`: the new connection, or none. -/
def rilGprsConnectionStart (s : GprsData) (allocated : Bool) (iface : ℤ) :
    GprsData × List GprsEffect × Option (ℕ × RilGprsConnection) :=
  let cid := findUnusedCid s.gprsConnections maxConnections 0
  if cid ≤ 0 then (s, [], none)
  else match rilGprsConnectionRegister s cid allocated with
    | none => (s, [], none)
    | some s =>
      match rilGprsConnectionFindCid s cid with
      | none => (s, [], none) -- the connection has just been registered
      | some (i, c) =>
        let ifname := cString "tun" ++ decimal (cid - 1)
        let c := { c with ifname := ifname, iface := iface }
        if iface < 0 then (rilGprsConnectionUnregister (s.put i c) i, [.tunAlloc ifname], none)
        else (s.put i c, [.tunAlloc ifname], some (i, c))

/-! The requests. -/

/-- The strings of RIL_REQUEST_SETUP_DATA_CALL that are read; `none` for a null pointer. -/
structure SetupDataCall where
  apn : Option CString
  username : Option CString
  password : Option CString
  type : CString
deriving DecidableEq

def protoStopContext (type : ProtoType) (contextId : UInt32) : GprsEffect :=
  .protoStopNetwork ⟨protoOpmodePs, type, contextId⟩

/-- `ril_request_setup_data_call`; `data` is `none` for a null pointer or too few strings. -/
def rilRequestSetupDataCall (s : GprsData) (t : RilToken) (data : Option SetupDataCall)
    (allocated : Bool) (iface : ℤ) : GprsData × List GprsEffect :=
  match data with
  | none => (s, [.complete ⟨t, .genericFailure, none⟩])
  | some d =>
    match rilGprsConnectionStart s allocated iface with
    | (s, out, none) => (s, out ++ [.complete ⟨t, .genericFailure, none⟩])
    | (s, out, some (i, c)) =>
      let c := { c with type := dataCallTypeToProtoType d.type }
      if c.type = .none then
        let c := { c with token := rilTokenNull }
        let (s, stopped) := rilGprsConnectionStop (s.put i c) i c
        (s, out ++ .complete ⟨t, .genericFailure, none⟩ :: stopped)
      else
        (s.put i { c with token := t, contextId := contextIdPlaceholder },
          out ++ [.protoStartNetwork
            { opMode := protoOpmodePs
              protoType := c.type
              napAddr := d.apn.getD []
              preferredAccountHandle := 0x21
              localAddr := 0xFFFFFFFF
              dnsAddr1 := 0xFFFFFFFF
              dnsAddr2 := 0xFFFFFFFF
              userId := d.username.getD []
              userPasswd := d.password.getD [] }])

/-- `ril_request_deactivate_data_call`; `cid` is `none` for a null pointer or no string. -/
def rilRequestDeactivateDataCall (s : GprsData) (t : RilToken) (cid : Option CString) :
    GprsData × List GprsEffect :=
  match cid with
  | none => (s, [.complete ⟨t, .genericFailure, none⟩])
  | some cid =>
    match rilGprsConnectionFindCid s (atoi cid) with
    | none => (s, [.complete ⟨t, .genericFailure, none⟩])
    | some (i, c) => (s.put i { c with token := t }, [protoStopContext c.type c.contextId])

/-- `ril_request_last_data_call_fail_cause` -/
def rilRequestLastDataCallFailCause (s : GprsData) (t : RilToken) : GprsData × List GprsEffect :=
  let answer (cause : RilDataCallFailCause) : GprsEffect :=
    .complete ⟨t, .success, some (.failCause cause)⟩
  if s.gprsLastFailedCid = 0 then (s, [answer .errorUnspecified])
  else match rilGprsConnectionFindCid s s.gprsLastFailedCid with
    | none => ({ s with gprsLastFailedCid := 0 }, [answer .errorUnspecified])
    | some (i, c) =>
      let (s, stopped) := rilGprsConnectionStop (s.put i { c with token := rilTokenNull }) i c
      ({ s with gprsLastFailedCid := 0 }, stopped ++ [answer c.failCause])

def RilGprsConnection.response (c : RilGprsConnection) : RilDataCallResponseV6 where
  status := .none
  cid := c.cid
  active := c.active
  type := protoTypeToDataCallType c.type
  ifname := c.ifname
  addresses := inAddrFmt c.ip ++ cString "/" ++ decimal c.prefixLen
  dnses := inAddrFmt c.dns1 ++ cString " " ++ inAddrFmt c.dns2
  gateways := inAddrFmt c.gateway

/-- `ril_unsol_data_call_list_changed` -/
def rilUnsolDataCallListChanged (s : GprsData) (t : RilToken) : List GprsEffect :=
  let dataCallList := s.gprsConnections.map (·.response)
  if t = 0 then [.unsolicited dataCallList]
  else [.complete ⟨t, .success, some (.dataCallList dataCallList)⟩]

/-- `ril_request_data_call_list` -/
def rilRequestDataCallList (s : GprsData) (t : RilToken) : GprsData × List GprsEffect :=
  (s, rilUnsolDataCallListChanged s t)

/-! The indications. -/

/-- A set-up has failed: the token is completed, and the connection stays in the list. -/
def failSetUp (s : GprsData) (i : ℕ) (c : RilGprsConnection) : GprsData × List GprsEffect :=
  ({ s.put i { c with failCause := .errorUnspecified, token := rilTokenNull } with
      gprsLastFailedCid := c.cid },
    [.complete ⟨c.token, .genericFailure, none⟩])

/-- `ipc_proto_starting_network_ind` -/
def ipcProtoStartingNetworkInd (s : GprsData) (error : UInt16) : GprsData × List GprsEffect :=
  if error = 0 then (s, [])
  else match rilGprsConnectionFindContextId s contextIdPlaceholder with
    | none => (s, [])
    | some (i, c) => failSetUp s i c

/-- `ipc_proto_start_network_cnf` -/
def ipcProtoStartNetworkCnf (s : GprsData) (netCnf : ProtoStartNetworkCnf)
    (threadStarted configured : Bool) : GprsData × List GprsEffect :=
  match rilGprsConnectionFindContextId s contextIdPlaceholder with
  | none => (s, [])
  | some (i, c) =>
    let abort (c : RilGprsConnection) : GprsData × List GprsEffect :=
      let (s, out) := failSetUp s i c
      (s, out ++ [protoStopContext c.type c.contextId])
    let c := { c with contextId := netCnf.contextId }
    if netCnf.error ≠ 0 then abort c
    else
      let c := { c with
        active := 2
        ip := htoina netCnf.localAddr
        gateway := htoina netCnf.localAddr
        dns1 := htoina netCnf.dnsAddr1
        dns2 := htoina netCnf.dnsAddr2
        prefixLen := 32 }
      if !threadStarted then abort c
      else
        let c := { c with threadState := 1 }
        let configure : GprsEffect :=
          .ifcConfigure c.ifname c.ip c.prefixLen c.gateway c.dns1 c.dns2
        if !configured then
          let (s, out) := abort c
          (s, configure :: out)
        else (s.put i { c with token := rilTokenNull },
          [configure, .complete ⟨c.token, .success, some (.setupDataCall c.response)⟩])

/-- What ends with a connection: its pending request, and the connection itself. -/
def endConnection (s : GprsData) (i : ℕ) (c : RilGprsConnection) (errno : RilErrno) :
    GprsData × List GprsEffect :=
  let out : List GprsEffect :=
    if c.token ≠ rilTokenNull then [.complete ⟨c.token, errno, none⟩] else []
  let c := { c with token := rilTokenNull }
  let (s, stopped) := rilGprsConnectionStop (s.put i c) i c
  (s, out ++ stopped)

/-- `ipc_proto_stop_network_cnf` -/
def ipcProtoStopNetworkCnf (s : GprsData) (contextId : UInt32) : GprsData × List GprsEffect :=
  match rilGprsConnectionFindContextId s contextId with
  | none => (s, [])
  | some (i, c) => endConnection s i c .success

/-- `ipc_proto_stop_network_ind` -/
def ipcProtoStopNetworkInd (s : GprsData) (contextId : UInt32) : GprsData × List GprsEffect :=
  match rilGprsConnectionFindContextId s contextId with
  | none => (s, [])
  | some (i, c) =>
    let (s, out) := endConnection s i c .genericFailure
    (s, out ++ rilUnsolDataCallListChanged s 0)

/-- `ipc_proto_receive_data_ind` -/
def ipcProtoReceiveDataInd (s : GprsData) (contextId : UInt32) (netBuf : List UInt8) :
    GprsData × List GprsEffect :=
  match rilGprsConnectionFindContextId s contextId with
  | none => (s, [])
  | some (_, c) => if c.iface < 0 then (s, []) else (s, [.write c.iface netBuf])

/-- The physical link of a connection goes down (1) or up (2). -/
def changeLink (s : GprsData) (contextId : UInt32) (active : ℕ) : GprsData × List GprsEffect :=
  match rilGprsConnectionFindContextId s contextId with
  | none => (s, [])
  | some (i, c) =>
    let s := s.put i { c with active }
    (s, rilUnsolDataCallListChanged s 0)

/-- `ipc_proto_suspend_network_ind` -/
def ipcProtoSuspendNetworkInd (s : GprsData) (contextId : UInt32) : GprsData × List GprsEffect :=
  changeLink s contextId 1

/-- `ipc_proto_resume_network_ind` -/
def ipcProtoResumeNetworkInd (s : GprsData) (contextId : UInt32) : GprsData × List GprsEffect :=
  changeLink s contextId 2

inductive GprsEvent
  | setupDataCall (t : RequestToken) (data : Option SetupDataCall) (allocated : Bool) (iface : ℤ)
  | deactivateDataCall (t : RequestToken) (cid : Option CString)
  | lastDataCallFailCause (t : RequestToken)
  | dataCallList (t : RequestToken)
  | startingNetworkInd (error : UInt16)
  | startNetworkCnf (netCnf : ProtoStartNetworkCnf) (threadStarted configured : Bool)
  | stopNetworkCnf (contextId : UInt32)
  | stopNetworkInd (contextId : UInt32)
  | receiveDataInd (contextId : UInt32) (netBuf : List UInt8)
  | suspendNetworkInd (contextId : UInt32)
  | resumeNetworkInd (contextId : UInt32)
deriving DecidableEq

def gprsHandler (s : GprsData) : GprsEvent → GprsData × List GprsEffect
  | .setupDataCall t data allocated iface => rilRequestSetupDataCall s t.1 data allocated iface
  | .deactivateDataCall t cid => rilRequestDeactivateDataCall s t.1 cid
  | .lastDataCallFailCause t => rilRequestLastDataCallFailCause s t.1
  | .dataCallList t => rilRequestDataCallList s t.1
  | .startingNetworkInd error => ipcProtoStartingNetworkInd s error
  | .startNetworkCnf netCnf threadStarted configured =>
    ipcProtoStartNetworkCnf s netCnf threadStarted configured
  | .stopNetworkCnf contextId => ipcProtoStopNetworkCnf s contextId
  | .stopNetworkInd contextId => ipcProtoStopNetworkInd s contextId
  | .receiveDataInd contextId netBuf => ipcProtoReceiveDataInd s contextId netBuf
  | .suspendNetworkInd contextId => ipcProtoSuspendNetworkInd s contextId
  | .resumeNetworkInd contextId => ipcProtoResumeNetworkInd s contextId

abbrev GprsStep : Step GprsData (GprsEvent × List GprsEffect) := Step.ofFun gprsHandler

end Mocha.Ril
