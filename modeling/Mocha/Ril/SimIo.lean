import Mocha.Lib.Run
import Mocha.Ipc.Sim
import Mocha.Ril.Hex
import Mocha.Ril.Token

/-! SIM I/O (`mocha-ril/sim.c`, `sim.h`): the slot `tokens.sim_io`, the list of requests and the
functions that change them. Allocations are taken to succeed, buffers are values, and the number of
the service centre is a string without a bound. -/
namespace Mocha.Ril
open Mocha.Lib Mocha.Ipc

def simCommandReadBinary : Int32 := 0xB0
def simCommandUpdateBinary : Int32 := 0xD6
def simCommandReadRecord : Int32 := 0xB2
def simCommandUpdateRecord : Int32 := 0xDC
def simCommandSeek : Int32 := 0xA2
def simCommandGetResponse : Int32 := 0xC0

def simFileTypeMf : UInt8 := 0x01
def simFileTypeDf : UInt8 := 0x02
def simFileTypeEf : UInt8 := 0x04

/-- `sim_file_ids` -/
def simFileIds : List (UInt16 × UInt8) :=
  [(0x2F05, simFileTypeEf), (0x2FE2, simFileTypeEf), (0x3F00, simFileTypeMf),
    (0x4F20, simFileTypeEf), (0x5F3A, simFileTypeDf), (0x6F05, simFileTypeEf),
    (0x6F06, simFileTypeEf), (0x6F07, simFileTypeEf), (0x6F11, simFileTypeEf),
    (0x6F13, simFileTypeEf), (0x6F14, simFileTypeEf), (0x6F15, simFileTypeEf),
    (0x6F16, simFileTypeEf), (0x6F17, simFileTypeEf), (0x6F18, simFileTypeEf),
    (0x6F38, simFileTypeEf), (0x6F38, simFileTypeEf), (0x6F3A, simFileTypeEf),
    (0x6F40, simFileTypeEf), (0x6F42, simFileTypeEf), (0x6F45, simFileTypeEf),
    (0x6F46, simFileTypeEf), (0x6F48, simFileTypeEf), (0x6F49, simFileTypeEf),
    (0x6F4A, simFileTypeEf), (0x6F4D, simFileTypeEf), (0x6F50, simFileTypeEf),
    (0x6F56, simFileTypeEf), (0x6FAD, simFileTypeEf), (0x6FAE, simFileTypeEf),
    (0x6FB7, simFileTypeEf), (0x6FC5, simFileTypeEf), (0x6FC6, simFileTypeEf),
    (0x6FC7, simFileTypeEf), (0x6FC9, simFileTypeEf), (0x6FCA, simFileTypeEf),
    (0x6FCB, simFileTypeEf), (0x6FCD, simFileTypeEf), (0x7F10, simFileTypeDf),
    (0x7F20, simFileTypeDf)]

/-- `RIL_SIM_IO_v6`; `none` for a null string. -/
structure RilSimIoV6 where
  command : Int32
  fileid : Int32
  p1 : Int32
  p2 : Int32
  p3 : Int32
  data : Option CString
  pin2 : Option CString
deriving DecidableEq

/-- `struct ril_request_sim_io_info`; `none` for a null buffer. -/
structure RilRequestSimIoInfo where
  command : Int32
  fileid : Int32
  p1 : Int32
  p2 : Int32
  p3 : Int32
  data : Option (List UInt8)
  length : ℕ
  waiting : Bool
  token : RilToken
deriving DecidableEq

/-- The arguments of `ril_request_sim_io_complete`. -/
structure SimIoCall where
  t : RilToken
  command : Int32
  fileid : Int32
  p1 : Int32
  p2 : Int32
  p3 : Int32
  data : Option (List UInt8)
  size : ℕ
deriving DecidableEq

namespace RilRequestSimIoInfo

def call (info : RilRequestSimIoInfo) : SimIoCall :=
  ⟨info.token, info.command, info.fileid, info.p1, info.p2, info.p3, info.data, info.length⟩

/-- The entry after it has been handed over. -/
def handedOver (info : RilRequestSimIoInfo) : RilRequestSimIoInfo :=
  { info with data := none, length := 0, waiting := false }

@[simp] theorem handedOver_token (info : RilRequestSimIoInfo) :
    info.handedOver.token = info.token := rfl

end RilRequestSimIoInfo

/-- `ril_data.tokens.sim_io`, `ril_data.sim_io` and `ril_data.smsc_number`. -/
structure SimIoData where
  tokenSimIo : RilToken
  simIo : List RilRequestSimIoInfo
  smscNumber : CString
deriving DecidableEq

def SimIoData.init : SimIoData := ⟨rilTokenNull, [], []⟩

/-- `RIL_SIM_IO_Response` -/
structure RilSimIoResponse where
  sw1 : ℕ
  sw2 : ℕ
  simResponse : Option CString
deriving DecidableEq

/-- Completions, calls of `ril_request_sim_io_complete`, and the requests that go to the modem. -/
inductive SimIoEffect
  | complete (c : Completion RilSimIoResponse)
  | simIoComplete (c : SimIoCall)
  | request (r : SimRequest)
deriving DecidableEq

/-- `ril_request_sim_io_register`, at the end of the list. -/
def rilRequestSimIoRegister (s : SimIoData) (info : RilRequestSimIoInfo) : SimIoData :=
  { s with simIo := s.simIo ++ [info] }

def rilRequestSimIoUnregister (s : SimIoData) (info : RilRequestSimIoInfo) : SimIoData :=
  { s with simIo := s.simIo.erase info }

def rilRequestSimIoInfoFindToken (s : SimIoData) (t : RilToken) : Option RilRequestSimIoInfo :=
  s.simIo.find? (·.token = t)

/-- The request that `ril_request_sim_io_complete` sends, if it knows the command. -/
def SimIoCall.request (c : SimIoCall) : Option SimRequest :=
  let simData (fileStructure : UInt8) : SimDataRequest :=
    ⟨c.fileid.toUInt32.toUInt16, fileStructure, 0x00, c.p1.toUInt32, 0x00, 0x00, 0x01,
      c.p3.toUInt32.toUInt16, 0x00, 0x00, 0x00, 0x00, 0x00⟩
  let simDataUpdate (fileStructure : UInt8) : SimUpdateFile :=
    ⟨c.fileid.toUInt32.toUInt16, fileStructure, 0x00, c.p1.toUInt32, 0x01, UInt32.ofNat c.size⟩
  if c.command = simCommandGetResponse then some (.simGetFileInfo 0x5 c.fileid.toUInt32.toUInt16)
  else if c.command = simCommandReadRecord then some (.simReadFileRecord 0x5 (simData 0x02))
  else if c.command = simCommandReadBinary then some (.simReadFileBinary 0x5 (simData 0x01))
  else if c.command = simCommandUpdateRecord then
    some (.simUpdateFileRecord 0x5 (simDataUpdate 0x02) c.data)
  else if c.command = simCommandUpdateBinary then
    some (.simUpdateFileBinary 0x5 (simDataUpdate 0x01) c.data)
  else if c.command = simCommandSeek then
    some (.simSearchFileRecord 0x5 ⟨c.fileid.toUInt32.toUInt16, 0x01, none, c.p1.toUInt32, 0x01,
      0x04, c.p3.toUInt32⟩ c.data (UInt8.ofNat c.size))
  else none

def rilRequestSimIoComplete (c : SimIoCall) : List SimIoEffect :=
  .simIoComplete c :: c.request.toList.map .request

def rilRequestSimIoNext (s : SimIoData) : SimIoData × List SimIoEffect :=
  match s.simIo with
  | [] => ({ s with tokenSimIo := rilTokenNull }, [])
  | info :: rest => ({ s with tokenSimIo := info.token, simIo := info.handedOver :: rest },
      rilRequestSimIoComplete info.call)

/-- The data of a request, `none` where it is refused; strings that start with "20" are. -/
def simIoBuffer : Option CString → Option (Option (List UInt8) × ℕ)
  | none => some (none, 0)
  | some (0x32 :: 0x30 :: _) => none
  | some string =>
    let simIoSize := string2dataSize string
    if simIoSize = 0 then none
    else (string2data string).map fun simIoData => (some simIoData, simIoSize)

/-- The checks of `ril_request_sim_io`: the entry to register, or `none` for `goto error`. `data`
is `none` for a null or short argument. -/
def simIoInfo (t : RilToken) (data : Option RilSimIoV6) : Option RilRequestSimIoInfo :=
  data.bind fun simIo =>
    (simIoBuffer simIo.data).bind fun buffer =>
      if simIo.pin2 ≠ none then none
      else some ⟨simIo.command, simIo.fileid, simIo.p1, simIo.p2, simIo.p3, buffer.1, buffer.2,
        true, t⟩

def rilRequestSimIo (s : SimIoData) (t : RilToken) (data : Option RilSimIoV6) :
    SimIoData × List SimIoEffect :=
  match simIoInfo t data with
  | none => (s, [.complete ⟨t, .genericFailure, none⟩])
  | some info =>
    let registered := rilRequestSimIoRegister s info
    if s.tokenSimIo ≠ rilTokenNull then (registered, [])
    else if s.smscNumber = [] then ({ registered with tokenSimIo := rilTokenDataWaiting }, [])
    -- the entry at the end of the list is the new one
    else ({ s with tokenSimIo := t, simIo := s.simIo ++ [info.handedOver] },
      rilRequestSimIoComplete info.call)

/-- The bytes of `struct sim_file_response`. -/
def simFileResponse (info : RilRequestSimIoInfo) (ev : SimEvent) : List UInt8 :=
  let fileType := ((simFileIds.find? fun p => info.fileid = Int32.ofNat p.1.toNat).map
    Prod.snd).getD simFileTypeEf
  [0, 0, (ev.infoFileSize >>> 8).toUInt8, ev.infoFileSize.toUInt8,
    (ev.infoFileId >>> 8).toUInt8, ev.infoFileId.toUInt8, fileType, 0, 0x00, 0xff, 0xff, 0x01, 0x02,
    ev.infoFileStructure - 1, ev.infoRecordSize]

/-- The response that `ipc_sim_io_response` builds; an answer for another file overwrites the status
of the event. -/
def simIoResponse (info : RilRequestSimIoInfo) (ev : SimEvent) : RilSimIoResponse :=
  let eventStatus :=
    if ev.eventType = simEventFileInfo ∧ Int32.ofNat ev.infoFileId.toNat ≠ info.fileid then
      simNotSupported
    else ev.eventStatus
  let simResponse :=
    if ev.eventType = simEventFileInfo then data2string (simFileResponse info ev)
    else if ev.eventType = simEventReadFile then
      data2string ((List.range ev.dataBufLen.toNat).map fun i => ev.dataByte i)
    else none
  if eventStatus = simOk then ⟨0x90, 0x00, simResponse⟩
  else if eventStatus = simFileNotFound then ⟨0x94, 0x04, simResponse⟩
  else ⟨0x00, 0x00, simResponse⟩

def ipcSimIoResponse (s : SimIoData) (ev : SimEvent) : SimIoData × List SimIoEffect :=
  match rilRequestSimIoInfoFindToken s s.tokenSimIo with
  | none => rilRequestSimIoNext s
  | some info =>
    let (t, out) := rilRequestSimIoNext (rilRequestSimIoUnregister s info)
    (t, .complete ⟨s.tokenSimIo, .success, some (simIoResponse info ev)⟩ :: out)

def ipcSimSmscNumber (s : SimIoData) (ev : SimEvent) : SimIoData × List SimIoEffect :=
  let dataLen := ev.dataBufLen.toInt32.toInt
  if s.smscNumber = [] then
    let count := (ev.dataByte (dataLen - 15)).toNat + 1
    let digits := (List.range count).flatMap fun i => hexByte (ev.dataByte (dataLen - 15 + i))
    let s := { s with smscNumber := s.smscNumber ++ digits }
    if s.tokenSimIo = rilTokenDataWaiting then rilRequestSimIoNext s else (s, [])
  else (s, [])

/-- The token of a SIM I/O request, neither null nor the mark for a missing number. -/
abbrev SimIoToken := { t : RilToken // t ≠ rilTokenNull ∧ t ≠ rilTokenDataWaiting }

inductive SimIoEvent
  | rilRequestSimIo (t : SimIoToken) (data : Option RilSimIoV6)
  | ipcSimIoResponse (ev : SimEvent)
  | ipcSimSmscNumber (ev : SimEvent)

def simIoHandler (s : SimIoData) : SimIoEvent → SimIoData × List SimIoEffect
  | .rilRequestSimIo t data => rilRequestSimIo s t.1 data
  | .ipcSimIoResponse ev => ipcSimIoResponse s ev
  | .ipcSimSmscNumber ev => ipcSimSmscNumber s ev

abbrev SimIoStep : Step SimIoData (SimIoEvent × List SimIoEffect) := Step.ofFun simIoHandler

end Mocha.Ril
