import Mocha.Ipc.SimFile
import Mocha.Ril.SimIo

/-! What `ril_request_sim_io_complete` has `mocha-ipc` send for the requests that bring data: updates and
searches of a file. -/
namespace Mocha.Ril
open Mocha.Lib Mocha.Ipc

namespace RilRequestSimIoInfo

variable (fresh : ℕ → UInt8) (stack : UInt32) (info : RilRequestSimIoInfo)

/-- The payload of the request is its structure and its data. -/
def CarriesData : Prop := ∃ r call, info.call.request = some r ∧ r.oemCall fresh stack = some call ∧
  call.Carries (r.simData stack) (info.data.getD [])

/-- The length of the payload. -/
def payloadLength : Option UInt32 := do
  let r ← info.call.request
  let call ← r.oemCall fresh stack
  return call.oemBufLen

/-- The payloads for a record and for a binary file have the same length. -/
def SameLength : Prop := ∃ n,
  ({ info with command := simCommandUpdateRecord }).payloadLength fresh stack = some n ∧
    ({ info with command := simCommandUpdateBinary }).payloadLength fresh stack = some n

/-- The commands that bring data. -/
def HasData : Prop := info.command = simCommandUpdateRecord ∨ info.command = simCommandUpdateBinary ∨
  info.command = simCommandSeek

/-- The structure of an update. -/
def simDataUpdate (fileStructure : UInt8) : SimUpdateFile :=
  ⟨info.fileid.toUInt32.toUInt16, fileStructure, 0x00, info.p1.toUInt32, 0x01, UInt32.ofNat info.length⟩

variable {info}

theorem request_updateRecord (h : info.command = simCommandUpdateRecord) :
    info.call.request = some (.simUpdateFileRecord 0x5 (info.simDataUpdate 0x02) info.data) := by
  rw [SimIoCall.request, show info.call.command = _ from h]
  rfl

theorem request_updateBinary (h : info.command = simCommandUpdateBinary) :
    info.call.request = some (.simUpdateFileBinary 0x5 (info.simDataUpdate 0x01) info.data) := by
  rw [SimIoCall.request, show info.call.command = _ from h]
  rfl

theorem request_seek (h : info.command = simCommandSeek) : info.call.request =
    some (.simSearchFileRecord 0x5 ⟨info.fileid.toUInt32.toUInt16, 0x01, none, info.p1.toUInt32, 0x01, 0x04,
      info.p3.toUInt32⟩ info.data (UInt8.ofNat info.length)) := by
  rw [SimIoCall.request, show info.call.command = _ from h]
  rfl

variable {fresh stack}

/-- A request with data goes beyond its buffer. -/
theorem not_carriesData (h : info.HasData) : ¬info.CarriesData fresh stack := by
  rintro ⟨r, call, hr, hcall, hcarries⟩
  rcases h with h | h | h
  · obtain rfl := Option.some.inj ((request_updateRecord h).symm.trans hr)
    exact simUpdateFileRecord_not_carries hcall hcarries
  · obtain rfl := Option.some.inj ((request_updateBinary h).symm.trans hr)
    exact simUpdateFileBinary_not_carries hcall hcarries
  · obtain rfl := Option.some.inj ((request_seek h).symm.trans hr)
    exact simSearchFileRecord_not_carries hcall hcarries

theorem payloadLength_updateRecord {n : UInt32} (h : info.command = simCommandUpdateRecord)
    (hn : info.payloadLength fresh stack = some n) :
    n = sizeofSimUpdateFile + UInt32.ofNat info.length + 5 := by
  rw [payloadLength, request_updateRecord h, Option.bind_eq_bind, Option.bind_some] at hn
  obtain ⟨call, hcall, hn⟩ := Option.bind_eq_some_iff.mp hn
  obtain ⟨data, -, hcall⟩ := Option.bind_eq_some_iff.mp hcall
  rw [← Option.some.inj hn, ← Option.some.inj hcall]
  rfl

theorem payloadLength_updateBinary {n : UInt32} (h : info.command = simCommandUpdateBinary)
    (hn : info.payloadLength fresh stack = some n) :
    n = sizeofSimDataRequest + UInt32.ofNat info.length + 5 := by
  rw [payloadLength, request_updateBinary h, Option.bind_eq_bind, Option.bind_some] at hn
  obtain ⟨call, hcall, hn⟩ := Option.bind_eq_some_iff.mp hn
  obtain ⟨data, -, hcall⟩ := Option.bind_eq_some_iff.mp hcall
  rw [← Option.some.inj hn, ← Option.some.inj hcall]
  rfl

/-- The lengths differ by those of the structures. -/
theorem not_sameLength : ¬info.SameLength fresh stack := by
  rintro ⟨n, hrecord, hbinary⟩
  have hlength := (payloadLength_updateRecord rfl hrecord).symm.trans (payloadLength_updateBinary rfl hbinary)
  rw [simUpdateFileBinary_length] at hlength
  exact add_ne_self (by decide) hlength.symm

end RilRequestSimIoInfo

/-- **The payloads of the requests with data** are never what they should be: each goes beyond the buffer
that was built for it, and those of the two updates differ in length. -/
theorem simIo_payloads (fresh : ℕ → UInt8) (stack : UInt32) {info : RilRequestSimIoInfo}
    (h : info.HasData) : ¬info.CarriesData fresh stack ∧ ¬info.SameLength fresh stack :=
  ⟨RilRequestSimIoInfo.not_carriesData h, RilRequestSimIoInfo.not_sameLength⟩

/-- The entry of an update of the first record of the file 6F3A with the bytes 41 42. -/
def simIoUpdate : RilRequestSimIoInfo :=
  ⟨simCommandUpdateRecord, 0x6F3A, 1, 4, 2, some [0x41, 0x42], 2, true, 1⟩

theorem simIo_payloads_update : ¬simIoUpdate.CarriesData (fun _ => 0) 0 ∧
    ¬simIoUpdate.SameLength (fun _ => 0) 0 := simIo_payloads (fun _ => 0) 0 (.inl rfl)

theorem not_forall_carriesData : ¬∀ t simIo info, simIoInfo t (some simIo) = some info → info.HasData →
    info.CarriesData (fun _ => 0) 0 ∧ info.SameLength (fun _ => 0) 0 := by
  intro h
  have hinfo : simIoInfo 1 (some ⟨simCommandUpdateRecord, 0x6F3A, 1, 4, 2, some (cString "4142"), none⟩) =
      some simIoUpdate := by decide
  have hcarries := h _ _ _ hinfo (.inl rfl)
  exact RilRequestSimIoInfo.not_carriesData (.inl rfl) hcarries.1

end Mocha.Ril
