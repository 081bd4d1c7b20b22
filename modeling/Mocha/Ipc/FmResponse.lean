import Mocha.Ipc.Fm

/-! The response to a file operation of the modem: `ipc_parse_fm` frames what the operation has left
in the response, and so depends on its lengths being right. -/
namespace Mocha.Ipc
open Mocha.Lib

/-- What the response to a request should be: the operation has set both words and the whole buffer,
and what is sent is the request's header with the length of that, and then all of it. -/
structure FmAnswered (sys : FmSystem) (s : FmDirs) (ipcFrame : ModemIo) : Prop where
  answer : ∃ t tx frame funcRet errorVal,
    fmResponse sys s (getRequestPacket ipcFrame.data) = some (t, tx) ∧
      ipcParseFm sys s ipcFrame = some (t, frame) ∧
      tx.funcRet = some funcRet ∧ tx.errorVal = some errorVal ∧
      let header : FmPacketHeader := { (getRequestPacket ipcFrame.data).header with
        packetLen := UInt32.ofNat (8 + tx.respBuf.written.length) }
      frame.magic = ipcFrame.magic ∧ frame.cmd = ipcFrame.cmd ∧
        frame.datasize = 16 + header.packetLen ∧
        frame.data = (header.toBytes ++ leBytes 4 funcRet.toNat ++ leBytes 4 errorVal.toNat ++
          tx.respBuf.written).map some

section

variable {sys : FmSystem} {s : FmDirs} {rx : FmRequest} {tx : FmResponse} {header : FmPacketHeader}
  {ipcFrame : ModemIo}

theorem ipcParseFm_eq {t : FmDirs}
    (htx : fmResponse sys s (getRequestPacket ipcFrame.data) = some (t, tx)) :
    ipcParseFm sys s ipcFrame =
      (tx.respBuf.copy (tx.header.packetLen - (4 + 4))).map fun payload =>
        (t, tx.frame ipcFrame payload) := by
  rw [ipcParseFm, htx, Option.bind_some]

/-- What is answered has set its words, and has the length of what was put into the buffer. -/
theorem FmAnswered.response {t : FmDirs} (h : FmAnswered sys s ipcFrame)
    (htx : fmResponse sys s (getRequestPacket ipcFrame.data) = some (t, tx)) :
    tx.funcRet.isSome ∧ tx.header.packetLen = UInt32.ofNat (8 + tx.respBuf.written.length) := by
  obtain ⟨t', tx', frame, funcRet, errorVal, htx', hframe, hfuncRet, -, -, -, hdatasize, -⟩ := h
  obtain ⟨-, rfl⟩ := Prod.mk.inj (Option.some.inj (htx.symm.trans htx'))
  rw [ipcParseFm_eq htx, Option.map_eq_some_iff] at hframe
  obtain ⟨payload, -, heq⟩ := hframe
  obtain ⟨-, rfl⟩ := Prod.mk.inj heq
  exact ⟨hfuncRet ▸ rfl, (UInt32.add_right_inj _).mp hdatasize⟩

end

end Mocha.Ipc
