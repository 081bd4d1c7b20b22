import Mathlib.Data.List.Forall2
import Mocha.Ipc.Reassembly
import Mocha.Ipc.Tapi

/-! TAPI packets from the modem: `ipc_parse_tapi` (`tapi.c`) with the parsers of the services, and the
packets of a sender against the callbacks and the acknowledgements of the receiver. A packet is
allocated with its size, and a read behind its end has no result. -/
namespace Mocha.Ipc
open Mocha.Lib

/-- `enum ipc_ril_cb_type` -/
inductive IpcRilCbType
  | networkSetSubscriptionMode
  | networkRadioInfo
  | networkSelect
  | networkCellInfo
  | networkOptError
  | networkNitzInfoInd
  | networkSearchCnf
  | networkSelectCnf
  | cpSystemStart
  | callIncomingInd
  | callEndInd
  | callSetupInd
  | callHold
  | callSwap
  | callActivate
  | callAlert
  | callConnected
  | callDtmfStart
  | callDtmfStop
  | callError
  | nettextIncoming
  | nettextSendCallback
  | simOpen
  | simStatus
  | lockStatus
  | simIoResponse
  | simSmscNumber
  | ssUssdCallback
  | ssError
  | lbsGetPositionInd
  | lbsStateInd
  | protoStartingNetworkInd
  | protoStartNetworkCnf
  | protoStopNetworkCnf
  | protoStopNetworkInd
  | protoReceiveDataInd
  | protoSuspendNetworkInd
  | protoResumeNetworkInd
deriving DecidableEq, Repr

/-- What a parser does: a call of `ipc_invoke_ril_cb`, with the bytes from its pointer to the end of the
packet, or with a number in place of the pointer; one of `ipc_send` or `syssec_send_imei`; or work on a
packet that no callback is invoked for. -/
inductive IpcEffect
  | ipcInvokeRilCb (type : IpcRilCbType) (data : List UInt8)
  | ipcInvokeRilCbNumber (type : IpcRilCbType) (data : ℕ)
  | ipcSend (packet : ModemIo)
  | syssecSendImei
  | parsed (d : Delivery)
deriving DecidableEq

/-- A case of the `switch` in the parser of a service: the callback, whether the first byte is logged,
and whether the data are printed. -/
structure TapiCase where
  callback : Option IpcRilCbType
  logsByte : Bool
  hexDump : Bool
deriving DecidableEq, Repr

def tapiCallParser (tapiCallType : UInt16) : TapiCase :=
  match List.lookup tapiCallType
    [(TapiCallType.incomingInd, IpcRilCbType.callIncomingInd), (TapiCallType.endInd, .callEndInd),
      (TapiCallType.setupInd, .callSetupInd), (TapiCallType.alertInd, .callAlert),
      (TapiCallType.connectedInd, .callConnected), (TapiCallType.startDtmfCnf, .callDtmfStart),
      (TapiCallType.stopDtmfCnf, .callDtmfStop), (TapiCallType.holdCnf, .callHold),
      (TapiCallType.swapCnf, .callSwap), (TapiCallType.activateCnf, .callActivate),
      (TapiCallType.errorInd, .callError)] with
  | some cb => ⟨some cb, false, false⟩
  | none =>
    ⟨none, false, tapiCallType ∉ [TapiCallType.apireq, TapiCallType.connectedNumberInd,
      TapiCallType.ssNotifyInd, TapiCallType.connectingInd]⟩

/-- The data are printed in any case. -/
def tapiNettextParser (tapiNettextType : UInt16) : TapiCase :=
  ⟨List.lookup tapiNettextType [(TapiNettextType.incoming, .nettextIncoming),
    (TapiNettextType.sendCallback, .nettextSendCallback)], false, true⟩

def tapiNetworkParser (tapiNetType : UInt16) : TapiCase :=
  match List.lookup tapiNetType
    [(TapiNetworkType.setSubscriptionMode, IpcRilCbType.networkSetSubscriptionMode),
      (TapiNetworkType.selectInd, .networkSelect), (TapiNetworkType.radioInfo, .networkRadioInfo),
      (TapiNetworkType.commonError, .networkOptError), (TapiNetworkType.cellInfo, .networkCellInfo),
      (TapiNetworkType.nitzInfoInd, .networkNitzInfoInd),
      (TapiNetworkType.searchCnf, .networkSearchCnf),
      (TapiNetworkType.selectCnf, .networkSelectCnf)] with
  | some cb =>
    ⟨some cb, tapiNetType = TapiNetworkType.setSubscriptionMode ∨
      tapiNetType = TapiNetworkType.commonError, false⟩
  | none => ⟨none, false, true⟩

/-- The data are printed in any case. -/
def tapiSsParser (tapiSsType : UInt16) : TapiCase :=
  ⟨List.lookup tapiSsType [(TapiSsType.ussdCnf, .ssUssdCallback), (TapiSsType.ussdInd, .ssUssdCallback),
    (TapiSsType.commonErrorInd, .ssError)], false, true⟩

/-! The `switch` of these parsers has no other case than `default`. -/

def tapiAtParser (_tapiAtType : UInt16) : TapiCase := ⟨none, false, true⟩
def tapiDmhParser (_tapiDmhType : UInt16) : TapiCase := ⟨none, false, true⟩
def tapiConfigParser (_tapiConfigType : UInt16) : TapiCase := ⟨none, false, true⟩

/-- The parser of a service. -/
def tapiParser (tapiService : UInt16) : Option (UInt16 → TapiCase) :=
  if tapiService = tapiTypeCall then some tapiCallParser
  else if tapiService = tapiTypeNettext then some tapiNettextParser
  else if tapiService = tapiTypeNetwork then some tapiNetworkParser
  else if tapiService = tapiTypeSs then some tapiSsParser
  else if tapiService = tapiTypeAt then some tapiAtParser
  else if tapiService = tapiTypeDmh then some tapiDmhParser
  else if tapiService = tapiTypeConfig then some tapiConfigParser
  else none

/-- The case that a header leads to; there is none for an undefined service. -/
def TapiPacketHeader.case (h : TapiPacketHeader) : Option TapiCase :=
  (tapiParser h.tapiService).map fun parser => parser h.tapiServiceFunction

/-- `hex_dump` finds all the bytes that it reads; its length is an `int`. -/
def HexDumpInside (data : List UInt8) (size : UInt32) : Prop := size.toInt32.toInt ≤ data.length

instance (data : List UInt8) (size : UInt32) : Decidable (HexDumpInside data size) :=
  inferInstanceAs (Decidable (_ ≤ _))

def TapiCase.run (c : TapiCase) (len : UInt32) (data : List UInt8) : Option (List IpcEffect) :=
  if c.logsByte ∧ data = [] then none
  else if c.hexDump ∧ ¬HexDumpInside data len then none
  else some (c.callback.toList.map (.ipcInvokeRilCb · data))

/-- The answer to a packet: "return true". -/
def tapiResponse : TapiPacket := ⟨⟨0, 0, 8⟩, ⟨leBytes 4 0 ++ leBytes 4 1, true⟩⟩

/-- `ipc_parse_tapi`; answers are not answered. -/
def ipcParseTapi (fresh : ℕ → UInt8) (ipcFrame : ModemIo) : Option (List IpcEffect) := do
  let bytes ← Block.read ⟨ipcFrame.data, true⟩ 0 8
  let rxHeader := TapiPacketHeader.ofBytes bytes
  let effects ← rxHeader.case.elim (some []) fun c => c.run rxHeader.len (ipcFrame.data.drop 8)
  if rxHeader.tapiService = 0 ∧ rxHeader.tapiServiceFunction = 0 then some effects
  else (tapiSendPacket fresh tapiResponse).map fun response => effects ++ [.ipcSend response]

/-- What is done with the TAPI packets among some deliveries, in order. -/
def tapiReceived (fresh : ℕ → UInt8) (ds : List Delivery) : Option (List IpcEffect) :=
  ((ds.filter fun d => d.handler = .ipcParseTapi).mapM fun d => ipcParseTapi fresh d.packet).map
    List.flatten

/-- The packet of an answer. -/
def tapiResponseFrame : ModemIo :=
  ⟨frameMagic, fifoPktTapi, 16, tapiResponse.header.toBytes ++ tapiResponse.buf.bytes, rfl⟩

namespace TapiPacket

/-- The bytes that are sent behind the header. -/
def payload (r : TapiPacket) : List UInt8 := r.buf.bytes.take r.header.len.toNat

/-- What a packet asks for: the callback of its case with its bytes, and an answer unless it is one. -/
def effects (r : TapiPacket) : List IpcEffect :=
  ((r.header.case.bind TapiCase.callback).toList.map (.ipcInvokeRilCb · r.payload)) ++
    if r.header.tapiService = 0 ∧ r.header.tapiServiceFunction = 0 then []
    else [.ipcSend tapiResponseFrame]

/-- The packet has the byte that is logged. -/
def HasLoggedByte (r : TapiPacket) : Prop := ∀ c ∈ r.header.case, c.logsByte → r.header.len ≠ 0

/-- The packet does not fit one frame, and its last fragment has the size of a header. -/
def Lost (r : TapiPacket) : Prop :=
  maxSingleFrameData < 8 + r.header.len.toNat ∧ (8 + r.header.len.toNat) % maxSingleFrameData = 12

instance (r : TapiPacket) : Decidable r.Lost := inferInstanceAs (Decidable (_ ∧ _))

/-- The packet that `tapi_send_packet` hands to `ipc_send`. -/
def SentAs (r : TapiPacket) (p : ModemIo) : Prop := ∃ fresh, tapiSendPacket fresh r = some p

end TapiPacket

section

variable {fresh : ℕ → UInt8} {r : TapiPacket} {p q : ModemIo}

theorem tapiResponse_sent (fresh : ℕ → UInt8) :
    tapiSendPacket fresh tapiResponse = some tapiResponseFrame := by
  have hsome : (tapiSendPacket fresh tapiResponse).isSome :=
    (headedPacket_isSome_iff fresh fifoPktTapi 8 tapiResponse.buf (by decide) (by decide)).mpr
      ⟨by decide, .inr ⟨rfl, by decide⟩⟩
  obtain ⟨packet, hpacket⟩ := Option.isSome_iff_exists.mp hsome
  obtain ⟨hmagic, hcmd, hdata, -⟩ := tapiSendPacket_data hpacket
  have hdata : packet.data = tapiResponseFrame.data := hdata
  have hdatasize : packet.datasize = tapiResponseFrame.datasize := by
    rw [← UInt32.toNat_inj, ← packet.data_length, hdata, tapiResponseFrame.data_length]
  rw [hpacket]
  exact congrArg some (ModemIo.ext hmagic hcmd hdatasize hdata)

theorem TapiPacket.SentAs.spec (h : r.SentAs p) : p.cmd = fifoPktTapi ∧
    p.data = r.header.toBytes ++ r.payload ∧ r.payload.length = r.header.len.toNat := by
  obtain ⟨fresh, h⟩ := h
  obtain ⟨-, hcmd, hdata, hfits⟩ := tapiSendPacket_data h
  exact ⟨hcmd, hdata, List.length_take_of_le hfits⟩

theorem TapiPacket.SentAs.datasize (h : r.SentAs p) :
    p.datasize.toNat = 8 + r.header.len.toNat := by
  obtain ⟨-, hdata, hlength⟩ := h.spec
  rw [← p.data_length, hdata, List.length_append, r.header.toBytes_length, hlength]

/-- A case runs on the bytes that its header announces. -/
theorem TapiCase.run_eq {c : TapiCase} {len : UInt32} {data : List UInt8} (hlen : data.length = len.toNat)
    (hsize : len.toNat < 2 ^ 31) (hlog : c.logsByte → len ≠ 0) :
    c.run len data = some (c.callback.toList.map (.ipcInvokeRilCb · data)) := by
  have hlogged : ¬(c.logsByte ∧ data = []) := by
    rintro ⟨hbyte, rfl⟩
    refine hlog hbyte ?_
    rw [← UInt32.toNat_inj, ← hlen]
    rfl
  have hinside : HexDumpInside data len := by
    unfold HexDumpInside
    rw [toInt_toInt32, if_pos hsize, hlen]
  unfold TapiCase.run
  rw [if_neg hlogged, if_neg (fun h => h.2 hinside)]

/-- A packet is parsed as it was sent. -/
theorem ipcParseTapi_sent (fresh : ℕ → UInt8) (h : r.SentAs p) (hlog : r.HasLoggedByte)
    (hsize : 8 + r.header.len.toNat < 2 ^ 31) (hq : q.data = p.data) :
    ipcParseTapi fresh q = some r.effects := by
  obtain ⟨-, hdata, hlength⟩ := h.spec
  rw [hdata] at hq
  have hheader := TapiPacketHeader.ofBytes_toBytes r.header []
  rw [List.append_nil] at hheader
  have hread : Block.read ⟨q.data, true⟩ 0 8 = some r.header.toBytes := by
    rw [Block.read_eq rfl, List.drop_zero, hq, List.take_left' r.header.toBytes_length]
    rw [hq, List.length_append, r.header.toBytes_length]
    omega
  have hdrop : q.data.drop 8 = r.payload := by
    rw [hq, List.drop_left' r.header.toBytes_length]
  have hcase : (r.header.case.elim (some []) fun c => c.run r.header.len r.payload) =
      some ((r.header.case.bind TapiCase.callback).toList.map (.ipcInvokeRilCb · r.payload)) := by
    cases hc : r.header.case with
    | none => rfl
    | some c => exact TapiCase.run_eq hlength (by omega) (hlog c hc)
  unfold ipcParseTapi
  simp only [hread, Option.bind_eq_bind, Option.bind_some, hheader, hdrop, hcase,
    tapiResponse_sent, Option.map_some]
  unfold TapiPacket.effects
  split_ifs
  · rw [List.append_nil]
  · rfl

/-- An answer is dropped. -/
theorem ipcParseTapi_response (fresh : ℕ → UInt8) : ipcParseTapi fresh tapiResponseFrame = some [] :=
  ipcParseTapi_sent fresh (r := tapiResponse) ⟨fresh, tapiResponse_sent fresh⟩
    (fun c hc hbyte => absurd hbyte (by
      obtain rfl := Option.some.inj hc
      decide)) (by decide) rfl

@[simp] theorem tapiReceived_nil (fresh : ℕ → UInt8) : tapiReceived fresh [] = some [] := rfl

theorem tapiReceived_append {ds ds' : List Delivery} {out out' : List IpcEffect}
    (h : tapiReceived fresh ds = some out) (h' : tapiReceived fresh ds' = some out') :
    tapiReceived fresh (ds ++ ds') = some (out ++ out') := by
  unfold tapiReceived at h h' ⊢
  obtain ⟨effects, heffects, rfl⟩ := Option.map_eq_some_iff.mp h
  obtain ⟨effects', heffects', rfl⟩ := Option.map_eq_some_iff.mp h'
  rw [List.filter_append, List.mapM_append, heffects, heffects']
  exact congrArg some List.flatten_append

theorem tapiReceived_singleton (d : Delivery) (hd : d.handler = .ipcParseTapi) :
    tapiReceived fresh [d] = ipcParseTapi fresh d.packet := by
  unfold tapiReceived
  rw [List.filter_cons_of_pos (by simpa using hd), List.filter_nil, List.mapM_cons]
  cases ipcParseTapi fresh d.packet with
  | none => rfl
  | some out => exact congrArg some (List.append_nil out)

variable (fresh) in
/-- A packet that is not lost is delivered with its data. -/
theorem run_delivered (hcmd : p.cmd ≠ fifoPktFifoInternal) (hsize : p.datasize.toNat < 2 ^ 31)
    (hfits : p.datasize.toNat ≤ maxSingleFrameData ∨ p.datasize.toNat % maxSingleFrameData ≠ 12)
    (s : Reassembly) : ∃ tr t q, Run (Dispatch fresh) s tr t ∧ inputs tr = waveIpcSend p ∧
      outputs tr = [deliver q] ∧ q.cmd = p.cmd ∧ q.data = p.data := by
  by_cases hle : p.datasize.toNat ≤ maxSingleFrameData
  · exact ⟨_, s, p, .one (dispatch_whole s hcmd), (waveIpcSend_single hle).symm, rfl, rfl, rfl⟩
  · obtain ⟨m, hframes, hmcmd, -, hmdata⟩ :=
      exists_message hcmd (not_le.mp hle) hsize (hfits.resolve_left hle)
    obtain ⟨t, ht⟩ := m.run fresh s
    exact ⟨_, t, m.packet, ht, m.inputs_trace.trans hframes, m.outputs_trace, hmcmd, hmdata⟩

variable (fresh) in
/-- The frames of a packet, from any state: it is received, or nothing is. -/
theorem run_sent (h : r.SentAs p) (hlog : r.HasLoggedByte) (hsize : 8 + r.header.len.toNat < 2 ^ 31)
    (s : Reassembly) : ∃ tr t, Run (Dispatch fresh) s tr t ∧ inputs tr = waveIpcSend p ∧
      tapiReceived fresh (outputs tr) = some (if r.Lost then [] else r.effects) := by
  have hdatasize := h.datasize
  have hcmd := h.spec.1
  by_cases hlost : r.Lost
  · rw [if_pos hlost]
    obtain ⟨hlong, hlast⟩ := hlost
    obtain ⟨tr, t, hrun, hin, hout⟩ := run_waveIpcSend_twelve fresh (p := p) (by omega) (by omega)
      (by rw [hdatasize, hlast]) s
    refine ⟨tr, t, hrun, hin, ?_⟩
    rw [hout, tapiReceived_nil]
  · rw [if_neg hlost]
    have hne : p.cmd ≠ fifoPktFifoInternal := by
      rw [hcmd]
      decide
    have hfits : p.datasize.toNat ≤ maxSingleFrameData ∨
        p.datasize.toNat % maxSingleFrameData ≠ 12 := by
      rw [hdatasize]
      exact (not_and_or.mp hlost).imp_left not_lt.mp
    obtain ⟨tr, t, q, hrun, hin, hout, hqcmd, hqdata⟩ := run_delivered fresh hne (by omega) hfits s
    have hhandler : (deliver q).handler = .ipcParseTapi := by
      change dispatchCase q.cmd = _
      rw [hqcmd, hcmd]
      rfl
    refine ⟨tr, t, hrun, hin, ?_⟩
    rw [hout, tapiReceived_singleton _ hhandler]
    exact ipcParseTapi_sent fresh h hlog hsize hqdata

/-- Another type of packet goes to another parser. -/
theorem dispatchCase_ne_tapi {cmd : UInt32} (h : cmd ≠ fifoPktTapi) :
    dispatchCase cmd ≠ .ipcParseTapi := by
  unfold dispatchCase
  rw [if_neg h]
  simp only [ne_eq, ite_eq_iff, reduceCtorEq, and_false, or_self, not_false_eq_true]

variable (fresh) in
theorem run_allSent {reqs : List TapiPacket} {packets : List ModemIo}
    (h : List.Forall₂ TapiPacket.SentAs reqs packets) (hlog : ∀ r ∈ reqs, r.HasLoggedByte)
    (hsize : ∀ r ∈ reqs, 8 + r.header.len.toNat < 2 ^ 31) (s : Reassembly) : ∃ tr t,
      Run (Dispatch fresh) s tr t ∧ inputs tr = packets.flatMap waveIpcSend ∧
        tapiReceived fresh (outputs tr) = some ((reqs.filter fun r => ¬r.Lost).flatMap TapiPacket.effects) := by
  induction h generalizing s with
  | nil => exact ⟨[], s, .nil, rfl, rfl⟩
  | @cons r p reqs packets hr _ ih =>
    obtain ⟨hlogr, hlogs⟩ := List.forall_mem_cons.mp hlog
    obtain ⟨hsizer, hsizes⟩ := List.forall_mem_cons.mp hsize
    obtain ⟨tr, u, hrun, hin, hout⟩ := run_sent fresh hr hlogr hsizer s
    obtain ⟨tr', t, hrun', hin', hout'⟩ := ih hlogs hsizes u
    refine ⟨tr ++ tr', t, hrun.append hrun', ?_, ?_⟩
    · rw [inputs_append, hin, hin', List.flatMap_cons]
    · have happend : outputs (tr ++ tr') = outputs tr ++ outputs tr' := List.flatMap_append
      rw [happend, tapiReceived_append hout hout']
      by_cases hlost : r.Lost
      · rw [if_pos hlost, List.nil_append, List.filter_cons_of_neg (by simpa using hlost)]
      · rw [if_neg hlost, List.filter_cons_of_pos (by simpa using hlost), List.flatMap_cons]

/-- **TAPI packets among other frames.** Each packet that is not lost gets its callback, with the bytes
that were sent, and one answer, in the order they were sent in, and answers are dropped. -/
theorem tapi_received_in_order {reqs : List TapiPacket} {packets : List ModemIo}
    (h : List.Forall₂ TapiPacket.SentAs reqs packets) (hlog : ∀ r ∈ reqs, r.HasLoggedByte)
    (hsize : ∀ r ∈ reqs, 8 + r.header.len.toNat < 2 ^ 31) {others frames : List ModemIo}
    (hothers : ∀ f ∈ others, f.cmd ≠ fifoPktFifoInternal ∧ f.cmd ≠ fifoPktTapi)
    (hframes : Interleave (packets.flatMap waveIpcSend) others frames) (s : Reassembly) :
    ∃ tr t, Run (Dispatch fresh) s tr t ∧ inputs tr = frames ∧
      tapiReceived fresh (outputs tr) = some ((reqs.filter fun r => ¬r.Lost).flatMap TapiPacket.effects) ∧
        tapiReceived fresh [deliver tapiResponseFrame] = some [] := by
  obtain ⟨tr, t, hrun, hin, hout⟩ := run_allSent fresh h hlog hsize s
  have hwhole : others = (others.map fun f => (f, [deliver f])).map Prod.fst := by
    rw [List.map_map]
    exact (List.map_id others).symm
  rw [← hin, hwhole] at hframes
  obtain ⟨tr', rfl, htr⟩ := Interleave.exists_of_map (g := Prod.fst) hframes
  have hquiet : ∀ a ∈ others.map fun f => (f, [deliver f]),
      a.2.filter (fun d => d.handler = .ipcParseTapi) = [] := by
    intro a ha
    obtain ⟨f, hf, rfl⟩ := List.mem_map.mp ha
    have hcase := dispatchCase_ne_tapi (hothers f hf).2
    exact List.filter_cons_of_neg (Bool.not_eq_true _ ▸ decide_eq_false hcase)
  refine ⟨tr', t, htr.run (fun a ha u => ?_) hrun, rfl, ?_, ?_⟩
  · obtain ⟨f, hf, rfl⟩ := List.mem_map.mp ha
    exact dispatch_whole u (hothers f hf).1
  · have hfilter : (outputs tr').filter (fun d => d.handler = .ipcParseTapi) =
        (outputs tr).filter fun d => d.handler = .ipcParseTapi := by
      unfold outputs
      rw [List.filter_flatMap, List.filter_flatMap]
      exact htr.flatMap_left hquiet
    unfold tapiReceived at hout ⊢
    rw [hfilter, hout]
  · rw [tapiReceived_singleton _ rfl]
    exact ipcParseTapi_response fresh

end

/-- An incoming call, in front of a frame for the sound. -/
theorem tapi_received_in_order_incoming :
    let incoming : TapiPacket :=
      ⟨⟨tapiTypeCall, TapiCallType.incomingInd, 3⟩, ⟨[1, 2, 3], true⟩⟩
    let packet : ModemIo :=
      ⟨frameMagic, fifoPktTapi, 11, incoming.header.toBytes ++ [1, 2, 3], rfl⟩
    let sound : ModemIo := ⟨frameMagic, fifoPktSound, 1, [7], rfl⟩
    ∃ tr t, Run (Dispatch fun _ => 0) .init tr t ∧ inputs tr = [packet, sound] ∧
      tapiReceived (fun _ => 0) (outputs tr) =
        some (([incoming].filter fun r => ¬r.Lost).flatMap TapiPacket.effects) ∧
      tapiReceived (fun _ => 0) [deliver tapiResponseFrame] = some [] := by
  intro incoming packet sound
  have hsent : incoming.SentAs packet := ⟨fun _ => 0, by decide⟩
  have hframes : Interleave ([packet].flatMap waveIpcSend) [sound] [packet, sound] := by
    have hsend : [packet].flatMap waveIpcSend = [packet] :=
      congrArg (· ++ []) (waveIpcSend_single (p := packet) (by decide))
    rw [hsend]
    exact .left _ (.right _ .nil)
  refine tapi_received_in_order (.cons hsent .nil) (fun r hr c hc hbyte => ?_) ?_ ?_ hframes .init
  · obtain rfl := List.mem_singleton.mp hr
    decide
  · intro r hr
    obtain rfl := List.mem_singleton.mp hr
    decide
  · decide

end Mocha.Ipc
