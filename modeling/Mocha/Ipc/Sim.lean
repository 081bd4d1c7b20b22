import Mocha.Ipc.Frame

/-! SIM events from the modem and SIM file requests to it (`include/sim.h`, `mocha-ipc/sim.c`). -/
namespace Mocha.Ipc
open Mocha.Lib

/-- The memory around an event, addressed from the event's first byte. -/
abbrev SimEvent := ℤ → UInt8

/-! Members of `enum SIM_EVENT_TYPE`. -/

def simEventSimOpen : UInt8 := 1
def simEventVerifyPin1Ind : UInt8 := 2
def simEventGetSimOpenData : UInt8 := 3
def simEventFileInfo : UInt8 := 5
def simEventReadFile : UInt8 := 7
def simEventUpdateFile : UInt8 := 8
def simEventVerifyChv : UInt8 := 10
def simEventChangeChv : UInt8 := 11
def simEventDisableChv : UInt8 := 12
def simEventEnableChv : UInt8 := 13
def simEventUnblockChv : UInt8 := 14
def simEventSearchRecord : UInt8 := 20

/-! Members of `enum SIM_EVENT_STATUS`. -/

def simOk : UInt8 := 0
def simFileNotFound : UInt8 := 3
def simNotSupported : UInt8 := 5

namespace SimEvent

def ofBytes (bytes : List UInt8) : SimEvent := fun i => if 0 ≤ i then bytes.getD i.toNat 0 else 0

def word16 (ev : SimEvent) (off : ℤ) : UInt16 :=
  UInt16.ofNat ((ev off).toNat + 256 * (ev (off + 1)).toNat)

def word32 (ev : SimEvent) (off : ℤ) : UInt32 :=
  UInt32.ofNat ((ev.word16 off).toNat + 65536 * (ev.word16 (off + 2)).toNat)

/-! `simEventPacketHeader`: 11 bytes. -/

def eventType (ev : SimEvent) : UInt8 := ev 4
def eventStatus (ev : SimEvent) : UInt8 := ev 5

/-! `fileInfoEvent`, behind the header. -/

def infoFileId (ev : SimEvent) : UInt16 := ev.word16 15
def infoFileStructure (ev : SimEvent) : UInt8 := ev 17
def infoRecordSize (ev : SimEvent) : UInt8 := ev 26
def infoFileSize (ev : SimEvent) : UInt16 := ev.word16 34

/-! `simDataResponse`, behind the header, and the data behind it. -/

def dataFileId (ev : SimEvent) : UInt16 := ev.word16 11
def dataBufLen (ev : SimEvent) : UInt32 := ev.word32 13
def dataByte (ev : SimEvent) (i : ℤ) : UInt8 := ev (17 + i)

theorem word16_toNat (ev : SimEvent) (off : ℤ) :
    (ev.word16 off).toNat = (ev off).toNat + 256 * (ev (off + 1)).toNat := by
  have hlow := (ev off).toNat_lt
  have hhigh := (ev (off + 1)).toNat_lt
  exact UInt16.toNat_ofNat_of_lt' (show _ < 2 ^ 16 by omega)

/-- A word is read out of the bytes that stand in memory. -/
theorem word32_eq {ev : SimEvent} {bytes : List UInt8} (off : ℕ)
    (hev : ∀ (i : ℕ) (h : i < bytes.length), ev i = bytes[i]) (hfits : off + 4 ≤ bytes.length) :
    ev.word32 off = UInt32.ofNat (wordAt 4 off bytes) := by
  have h0 : ev off = bytes[off] := hev off (by omega)
  have h1 : ev (off + 1) = bytes[off + 1] := hev (off + 1) (by omega)
  have h2 : ev (off + 2) = bytes[off + 2] := hev (off + 2) (by omega)
  have h3 : ev (off + 2 + 1) = bytes[off + 3] := hev (off + 3) (by omega)
  have hbytes : (bytes.drop off).take 4 = [bytes[off], bytes[off + 1], bytes[off + 2], bytes[off + 3]] := by
    rw [List.drop_eq_getElem_cons (by omega), List.drop_eq_getElem_cons (by omega),
      List.drop_eq_getElem_cons (by omega), List.drop_eq_getElem_cons (by omega)]
    rfl
  rw [word32, word16_toNat, word16_toNat, h0, h1, h2, h3, wordAt, hbytes]
  congr 1
  simp only [leNat, List.foldr_cons, List.foldr_nil]
  ring

end SimEvent

structure SimDataRequest where
  fileId : UInt16
  fileStructure : UInt8
  unk0 : UInt32
  recordIndex : UInt32
  unk1 : UInt32
  unk2 : UInt32
  simInd2 : UInt8
  size : UInt16
  unk3 : UInt32
  unk4 : UInt32
  unk5 : UInt32
  unk6 : UInt32
  unk7 : UInt32
deriving DecidableEq

structure SimUpdateFile where
  fileId : UInt16
  fileStructure : UInt8
  unk0 : UInt32
  recordIndex : UInt32
  simInd2 : UInt8
  bufLen : UInt32
deriving DecidableEq

/-- `unk1` is `none` where it is never assigned. -/
structure SimSearchRecord where
  fileId : UInt16
  unk0 : UInt8
  unk1 : Option UInt32
  recordIndex : UInt32
  simInd2 : UInt8
  unk2 : UInt8
  recordSize : UInt32
deriving DecidableEq

/-- Calls of the functions that send a file request to the modem. -/
inductive SimRequest
  | simGetFileInfo (hSim : UInt8) (simDataType : UInt16)
  | simReadFileRecord (hSim : UInt8) (simData : SimDataRequest)
  | simReadFileBinary (hSim : UInt8) (simData : SimDataRequest)
  | simUpdateFileRecord (hSim : UInt8) (simData : SimUpdateFile) (dataBuf : Option (List UInt8))
  | simUpdateFileBinary (hSim : UInt8) (simData : SimUpdateFile) (dataBuf : Option (List UInt8))
  | simSearchFileRecord (hSim : UInt8) (simData : SimSearchRecord) (dataBuf : Option (List UInt8))
      (bufLen : UInt8)
deriving DecidableEq

/-- What `sim_parse_event` does with an event: nothing, one of the callbacks, or a request. -/
inductive SimAction
  | none
  | simOpen
  | simStatusPuk
  | simStatusPin
  | lockStatus
  | simSmscNumber
  | simIoResponse
  | request (r : SimRequest)
deriving DecidableEq

/-- The record read to get the number of the service centre, "work around for reading SMSC number". -/
def smscRequest (simFileId simSize : UInt16) : SimRequest :=
  .simReadFileRecord 0x5 ⟨simFileId, 0x02, 0, 0x01, 0, 0, 0x01, simSize, 0, 0, 0, 0, 0⟩

def simParseEvent (ev : SimEvent) : SimAction :=
  if ev.eventType = simEventSimOpen ∨ ev.eventType = simEventGetSimOpenData then .simOpen
  else if ev.eventType = simEventVerifyPin1Ind then
    if ev 11 = 3 then .simStatusPuk else .simStatusPin
  else if ev.eventType = simEventVerifyChv then .lockStatus
  else if ev.eventType = simEventDisableChv then .lockStatus
  else if ev.eventType = simEventEnableChv then .lockStatus
  else if ev.eventType = simEventUnblockChv then .lockStatus
  else if ev.eventType = simEventFileInfo then
    let simFileId := ev.word16 15
    if simFileId = 0x6F42 then .request (smscRequest simFileId (ev.word16 26)) else .simIoResponse
  else if ev.eventType = simEventReadFile then
    let simFileId := ev.word16 11
    if simFileId = 0x6F42 then .simSmscNumber else .simIoResponse
  else if ev.eventType = simEventUpdateFile then .simIoResponse
  else if ev.eventType = simEventSearchRecord then .simIoResponse
  else if ev.eventType = simEventChangeChv then .lockStatus
  else .none

/-- An event of the type that a request is answered with, for the same file. The code reads no file
id in the answers to updates and searches. -/
def SimRequest.Answers (r : SimRequest) (ev : SimEvent) : Prop :=
  match r with
  | simGetFileInfo _ simDataType => ev.eventType = simEventFileInfo ∧ ev.infoFileId = simDataType
  | simReadFileRecord _ d => ev.eventType = simEventReadFile ∧ ev.dataFileId = d.fileId
  | simReadFileBinary _ d => ev.eventType = simEventReadFile ∧ ev.dataFileId = d.fileId
  | simUpdateFileRecord .. => ev.eventType = simEventUpdateFile
  | simUpdateFileBinary .. => ev.eventType = simEventUpdateFile
  | simSearchFileRecord .. => ev.eventType = simEventSearchRecord

end Mocha.Ipc
