import Mocha.Ipc.Reassembly
import Mocha.Ipc.Tapi

/-! The calls of the library that send a TAPI packet (`tapi_call.c`, `tapi_network.c`,
`tapi_nettext.c`, `tapi_ss.c`, `tapi_at.c`), and the packets read back. Where a structure on the stack
is not filled in completely, `stack` is what it contains, by offset. -/
namespace Mocha.Ipc
open Mocha.Lib

/-- A packet of a local variable. -/
def tapiLocal (service function : UInt16) (bytes : List UInt8) : TapiPacket :=
  ⟨⟨service, function, UInt32.ofNat bytes.length⟩, ⟨bytes, true⟩⟩

/-- A packet without a buffer, the pointer to which is null. -/
def tapiEmpty (service function : UInt16) : TapiPacket := ⟨⟨service, function, 0⟩, ⟨[], false⟩⟩

def tapiCallRelease (stack : ℕ → UInt8) (callType : UInt8) (callId : UInt32) (releaseCause : UInt8) :
    TapiPacket :=
  tapiLocal tapiTypeCall TapiCallType.release ([callType, stack 1, stack 2, stack 3] ++
    leBytes 4 callId.toNat ++ [releaseCause, stack 9, stack 10, stack 11])

def tapiCallAnswer (stack : ℕ → UInt8) (callType : UInt8) (callId : UInt32) : TapiPacket :=
  tapiLocal tapiTypeCall TapiCallType.answer
    ([callType, stack 1, stack 2, stack 3] ++ leBytes 4 callId.toNat)

/-- `sizeof(tapiCallSetup)` -/
def tapiCallSetupSize : ℕ := 2068

def tapiCallSetup (callSetup : Block) : TapiPacket :=
  ⟨⟨tapiTypeCall, TapiCallType.setup, UInt32.ofNat tapiCallSetupSize⟩, callSetup⟩

def tapiCallHold (callId : UInt32) : TapiPacket :=
  tapiLocal tapiTypeCall TapiCallType.hold (leBytes 4 callId.toNat)

def tapiCallActivate (callId : UInt32) : TapiPacket :=
  tapiLocal tapiTypeCall TapiCallType.activate (leBytes 4 callId.toNat)

def tapiStartDtmf (callId : UInt32) (tone : UInt8) : TapiPacket :=
  tapiLocal tapiTypeCall TapiCallType.startDtmf
    (leBytes 4 callId.toNat ++ tone :: List.replicate 87 0)

/-- The field `tone` is not set. -/
def tapiStopDtmf (stack : ℕ → UInt8) (callId : UInt32) : TapiPacket :=
  tapiLocal tapiTypeCall TapiCallType.stopDtmf
    (leBytes 4 callId.toNat ++ (List.range 88).map fun i => stack (4 + i))

def tapiCallsSwap (activeCallId holdingCallId : UInt32) : TapiPacket :=
  tapiLocal tapiTypeCall TapiCallType.swap
    (leBytes 4 activeCallId.toNat ++ leBytes 4 holdingCallId.toNat)

def tapiNetworkInit : TapiPacket := tapiEmpty tapiTypeNetwork TapiNetworkType.init

/-- `sizeof(tapiStartupNetworkInfo)` -/
def tapiStartupNetworkInfoSize : ℕ := 20

def tapiNetworkStartup (networkStartupInfo : Block) : TapiPacket :=
  ⟨⟨tapiTypeNetwork, TapiNetworkType.startup, UInt32.ofNat tapiStartupNetworkInfoSize⟩,
    networkStartupInfo⟩

/-- The mode is not sent. -/
def tapiNetworkShutdown (_mode : UInt8) : TapiPacket :=
  tapiEmpty tapiTypeNetwork TapiNetworkType.shutdown

def tapiSetOfflineMode (mode : UInt8) : TapiPacket :=
  tapiLocal tapiTypeNetwork TapiNetworkType.setOfflineMode [mode]

/-- `sizeof(tapiNetSearchCnf)` -/
def tapiNetSearchCnfSize : ℕ := 88

def tapiNetworkSelect (netSelect : Block) : TapiPacket :=
  ⟨⟨tapiTypeNetwork, TapiNetworkType.select, UInt32.ofNat tapiNetSearchCnfSize⟩, netSelect⟩

def tapiNetworkReselect (mode : UInt8) : TapiPacket :=
  tapiLocal tapiTypeNetwork TapiNetworkType.reselect [mode]

def tapiNetworkSearch : TapiPacket := tapiEmpty tapiTypeNetwork TapiNetworkType.search

def tapiSetSelectionMode (mode : UInt8) : TapiPacket :=
  tapiLocal tapiTypeNetwork TapiNetworkType.setSelectionMode [mode]

def tapiNetworkSetMode (mode : UInt32) : TapiPacket :=
  tapiLocal tapiTypeNetwork TapiNetworkType.setMode (leBytes 4 mode.toNat)

def tapiSetSubscriptionMode (mode : UInt8) : TapiPacket :=
  tapiLocal tapiTypeNetwork TapiNetworkType.setSubscriptionMode [mode]

/-- What `tapi_nettext_send` gives for the length of a message. -/
def tapiNettextSendLen : ℕ := 0x138

def tapiNettextSend (tapiNettextOutgoingMessage : Block) : TapiPacket :=
  ⟨⟨tapiTypeNettext, TapiNettextType.send, UInt32.ofNat tapiNettextSendLen⟩,
    tapiNettextOutgoingMessage⟩

def tapiNettextSetMemAvailable (bMemAvail : UInt32) : TapiPacket :=
  tapiLocal tapiTypeNettext TapiNettextType.setMemAvail (leBytes 4 bMemAvail.toNat)

def tapiNettextSetPreferredMemory (preferredMemory : UInt8) : TapiPacket :=
  tapiLocal tapiTypeNettext TapiNettextType.setPreferredMem [preferredMemory]

def tapiNettextSetNetBurst (bNetBurstEnabled : UInt32) : TapiPacket :=
  tapiLocal tapiTypeNettext TapiNettextType.setBurst (leBytes 4 bNetBurstEnabled.toNat)

/-- `sizeof(tapi_nettext_cb_settings)` -/
def tapiNettextCbSettingsSize : ℕ := 0x64

def tapiNettextSetCbSettings (cbSettBuf : Block) : TapiPacket :=
  ⟨⟨tapiTypeNettext, TapiNettextType.setCbSetting, UInt32.ofNat tapiNettextCbSettingsSize⟩, cbSettBuf⟩

/-- `sizeof(tapiSsSendUssd)` -/
def tapiSsSendUssdSize : ℕ := 196

def tapiSsSendUssdStringRequest (ussdReq : Block) : TapiPacket :=
  ⟨⟨tapiTypeSs, TapiSsType.sendUssdStringReq, UInt32.ofNat tapiSsSendUssdSize⟩, ussdReq⟩

/-- `sizeof(tapiSsResponse)` -/
def tapiSsResponseSize : ℕ := 200

def tapiSsUssdResp (ussdReq : Block) : TapiPacket :=
  ⟨⟨tapiTypeSs, TapiSsType.ussdRsp, UInt32.ofNat tapiSsResponseSize⟩, ussdReq⟩

def tapiAtInit : TapiPacket := tapiEmpty tapiTypeAt TapiAtType.init

/-- A call with its arguments, where a pointer stands for the block that it refers to. -/
inductive TapiRequest
  | callRelease (callType : UInt8) (callId : UInt32) (releaseCause : UInt8)
  | callAnswer (callType : UInt8) (callId : UInt32)
  | callSetup (callSetup : Block)
  | callHold (callId : UInt32)
  | callActivate (callId : UInt32)
  | startDtmf (callId : UInt32) (tone : UInt8)
  | stopDtmf (callId : UInt32)
  | callsSwap (activeCallId holdingCallId : UInt32)
  | networkInit
  | networkStartup (networkStartupInfo : Block)
  | networkShutdown (mode : UInt8)
  | setOfflineMode (mode : UInt8)
  | networkSelect (netSelect : Block)
  | networkReselect (mode : UInt8)
  | networkSearch
  | setSelectionMode (mode : UInt8)
  | networkSetMode (mode : UInt32)
  | setSubscriptionMode (mode : UInt8)
  | nettextSend (tapiNettextOutgoingMessage : Block)
  | nettextSetMemAvailable (bMemAvail : UInt32)
  | nettextSetPreferredMemory (preferredMemory : UInt8)
  | nettextSetNetBurst (bNetBurstEnabled : UInt32)
  | nettextSetCbSettings (cbSettBuf : Block)
  | ssSendUssdStringRequest (ussdReq : Block)
  | ssUssdResp (ussdReq : Block)
  | atInit
deriving DecidableEq

namespace TapiRequest

/-- The packet that the call fills in. -/
def packet (stack : ℕ → UInt8) : TapiRequest → TapiPacket
  | callRelease callType callId releaseCause => tapiCallRelease stack callType callId releaseCause
  | callAnswer callType callId => tapiCallAnswer stack callType callId
  | callSetup setup => tapiCallSetup setup
  | callHold callId => tapiCallHold callId
  | callActivate callId => tapiCallActivate callId
  | startDtmf callId tone => tapiStartDtmf callId tone
  | stopDtmf callId => tapiStopDtmf stack callId
  | callsSwap activeCallId holdingCallId => tapiCallsSwap activeCallId holdingCallId
  | networkInit => tapiNetworkInit
  | networkStartup networkStartupInfo => tapiNetworkStartup networkStartupInfo
  | networkShutdown mode => tapiNetworkShutdown mode
  | setOfflineMode mode => tapiSetOfflineMode mode
  | networkSelect netSelect => tapiNetworkSelect netSelect
  | networkReselect mode => tapiNetworkReselect mode
  | networkSearch => tapiNetworkSearch
  | setSelectionMode mode => tapiSetSelectionMode mode
  | networkSetMode mode => tapiNetworkSetMode mode
  | setSubscriptionMode mode => tapiSetSubscriptionMode mode
  | nettextSend message => tapiNettextSend message
  | nettextSetMemAvailable bMemAvail => tapiNettextSetMemAvailable bMemAvail
  | nettextSetPreferredMemory preferredMemory => tapiNettextSetPreferredMemory preferredMemory
  | nettextSetNetBurst bNetBurstEnabled => tapiNettextSetNetBurst bNetBurstEnabled
  | nettextSetCbSettings cbSettBuf => tapiNettextSetCbSettings cbSettBuf
  | ssSendUssdStringRequest ussdReq => tapiSsSendUssdStringRequest ussdReq
  | ssUssdResp ussdReq => tapiSsUssdResp ussdReq
  | atInit => tapiAtInit

/-- What the call hands to `ipc_send`. -/
def send (fresh stack : ℕ → UInt8) (r : TapiRequest) : Option ModemIo :=
  tapiSendPacket fresh (r.packet stack)

/-- The block that the caller passes a pointer to, with the size of the structure in it. -/
def argument : TapiRequest → Option (Block × ℕ)
  | callSetup setup => some (setup, tapiCallSetupSize)
  | networkStartup networkStartupInfo => some (networkStartupInfo, tapiStartupNetworkInfoSize)
  | networkSelect netSelect => some (netSelect, tapiNetSearchCnfSize)
  | nettextSend message => some (message, 310)
  | nettextSetCbSettings cbSettBuf => some (cbSettBuf, tapiNettextCbSettingsSize)
  | ssSendUssdStringRequest ussdReq => some (ussdReq, tapiSsSendUssdSize)
  | ssUssdResp ussdReq => some (ussdReq, tapiSsResponseSize)
  | _ => none

/-- The caller's structure is allocated, and nothing is behind it. -/
def Allocated (r : TapiRequest) : Prop := ∀ a ∈ r.argument, a.1.live ∧ a.1.bytes.length = a.2

/-- What the packet says of the call: of a block the bytes that are copied, and nothing of the mode of
`tapi_network_shutdown`. -/
def sent : TapiRequest → TapiRequest
  | callSetup setup => callSetup ⟨setup.bytes.take tapiCallSetupSize, true⟩
  | networkStartup info => networkStartup ⟨info.bytes.take tapiStartupNetworkInfoSize, true⟩
  | networkShutdown _ => networkShutdown 0
  | networkSelect netSelect => networkSelect ⟨netSelect.bytes.take tapiNetSearchCnfSize, true⟩
  | nettextSend message => nettextSend ⟨message.bytes.take tapiNettextSendLen, true⟩
  | nettextSetCbSettings settings =>
    nettextSetCbSettings ⟨settings.bytes.take tapiNettextCbSettingsSize, true⟩
  | ssSendUssdStringRequest ussdReq =>
    ssSendUssdStringRequest ⟨ussdReq.bytes.take tapiSsSendUssdSize, true⟩
  | ssUssdResp ussdReq => ssUssdResp ⟨ussdReq.bytes.take tapiSsResponseSize, true⟩
  | r => r

/-- The calls by the service and the function of their packets, with the length of the buffer and how
to read it. -/
def table : List ((UInt16 × UInt16) × ℕ × (List UInt8 → TapiRequest)) :=
  [((tapiTypeCall, TapiCallType.release), 12, fun l => callRelease (l.getD 0 0)
      (UInt32.ofNat (wordAt 4 4 l)) (l.getD 8 0)),
    ((tapiTypeCall, TapiCallType.answer), 8, fun l =>
      callAnswer (l.getD 0 0) (UInt32.ofNat (wordAt 4 4 l))),
    ((tapiTypeCall, TapiCallType.setup), tapiCallSetupSize, fun l => callSetup ⟨l, true⟩),
    ((tapiTypeCall, TapiCallType.hold), 4, fun l => callHold (UInt32.ofNat (wordAt 4 0 l))),
    ((tapiTypeCall, TapiCallType.activate), 4, fun l => callActivate (UInt32.ofNat (wordAt 4 0 l))),
    ((tapiTypeCall, TapiCallType.startDtmf), 92, fun l =>
      startDtmf (UInt32.ofNat (wordAt 4 0 l)) (l.getD 4 0)),
    ((tapiTypeCall, TapiCallType.stopDtmf), 92, fun l => stopDtmf (UInt32.ofNat (wordAt 4 0 l))),
    ((tapiTypeCall, TapiCallType.swap), 8, fun l =>
      callsSwap (UInt32.ofNat (wordAt 4 0 l)) (UInt32.ofNat (wordAt 4 4 l))),
    ((tapiTypeNetwork, TapiNetworkType.init), 0, fun _ => networkInit),
    ((tapiTypeNetwork, TapiNetworkType.startup), tapiStartupNetworkInfoSize, fun l =>
      networkStartup ⟨l, true⟩),
    ((tapiTypeNetwork, TapiNetworkType.shutdown), 0, fun _ => networkShutdown 0),
    ((tapiTypeNetwork, TapiNetworkType.setOfflineMode), 1, fun l => setOfflineMode (l.getD 0 0)),
    ((tapiTypeNetwork, TapiNetworkType.select), tapiNetSearchCnfSize, fun l =>
      networkSelect ⟨l, true⟩),
    ((tapiTypeNetwork, TapiNetworkType.reselect), 1, fun l => networkReselect (l.getD 0 0)),
    ((tapiTypeNetwork, TapiNetworkType.search), 0, fun _ => networkSearch),
    ((tapiTypeNetwork, TapiNetworkType.setSelectionMode), 1, fun l =>
      setSelectionMode (l.getD 0 0)),
    ((tapiTypeNetwork, TapiNetworkType.setMode), 4, fun l =>
      networkSetMode (UInt32.ofNat (wordAt 4 0 l))),
    ((tapiTypeNetwork, TapiNetworkType.setSubscriptionMode), 1, fun l =>
      setSubscriptionMode (l.getD 0 0)),
    ((tapiTypeNettext, TapiNettextType.send), tapiNettextSendLen, fun l => nettextSend ⟨l, true⟩),
    ((tapiTypeNettext, TapiNettextType.setMemAvail), 4, fun l =>
      nettextSetMemAvailable (UInt32.ofNat (wordAt 4 0 l))),
    ((tapiTypeNettext, TapiNettextType.setPreferredMem), 1, fun l =>
      nettextSetPreferredMemory (l.getD 0 0)),
    ((tapiTypeNettext, TapiNettextType.setBurst), 4, fun l =>
      nettextSetNetBurst (UInt32.ofNat (wordAt 4 0 l))),
    ((tapiTypeNettext, TapiNettextType.setCbSetting), tapiNettextCbSettingsSize, fun l =>
      nettextSetCbSettings ⟨l, true⟩),
    ((tapiTypeSs, TapiSsType.sendUssdStringReq), tapiSsSendUssdSize, fun l =>
      ssSendUssdStringRequest ⟨l, true⟩),
    ((tapiTypeSs, TapiSsType.ussdRsp), tapiSsResponseSize, fun l => ssUssdResp ⟨l, true⟩),
    ((tapiTypeAt, TapiAtType.init), 0, fun _ => atInit)]

/-- The call that a packet comes from. -/
def ofBytes (l : List UInt8) : Option TapiRequest := do
  let h := TapiPacketHeader.ofBytes l
  let (len, read) ← table.lookup (h.tapiService, h.tapiServiceFunction)
  if h.len.toNat = len ∧ (l.drop 8).length = len then some (read (l.drop 8)) else none

section

variable {fresh stack : ℕ → UInt8} {r : TapiRequest} {p : ModemIo}

/-- A word is read where it was written. -/
theorem word_field (off : ℕ) (pre post : List UInt8) (hoff : pre.length = off) (x : UInt32) :
    UInt32.ofNat (wordAt 4 off (pre ++ leBytes 4 x.toNat ++ post)) = x := by
  rw [wordAt_field off pre post hoff (show x.toNat < 256 ^ 4 from x.toNat_lt), UInt32.ofNat_toNat]

theorem word_start (x : UInt32) (post : List UInt8) :
    UInt32.ofNat (wordAt 4 0 (leBytes 4 x.toNat ++ post)) = x := word_field 0 [] post rfl x

theorem word_only (x : UInt32) : UInt32.ofNat (wordAt 4 0 (leBytes 4 x.toNat)) = x := by
  rw [← List.append_nil (leBytes 4 x.toNat), word_start]

theorem take_local {service function : UInt16} {bytes : List UInt8} {n : ℕ} (h : bytes.length = n) :
    (tapiLocal service function bytes).buf.bytes.take n = bytes :=
  List.take_of_length_le (Nat.le_of_eq h)

/-- The table has each call, with the length of its packet, and reads it from the buffer. -/
theorem table_spec (stack : ℕ → UInt8) (r : TapiRequest) : ∃ n read,
    table.lookup ((r.packet stack).header.tapiService, (r.packet stack).header.tapiServiceFunction) =
        some (n, read) ∧
      (r.packet stack).header.len.toNat = n ∧ n ≤ tapiCallSetupSize ∧
        read ((r.packet stack).buf.bytes.take n) = r.sent := by
  cases r with
  | callRelease callType callId releaseCause =>
    refine ⟨_, _, rfl, rfl, by decide, ?_⟩
    have hid := word_field 4 [callType, stack 1, stack 2, stack 3]
      [releaseCause, stack 9, stack 10, stack 11] rfl callId
    rw [packet, tapiCallRelease, take_local (n := 12) rfl, hid]
    rfl
  | callAnswer callType callId =>
    refine ⟨_, _, rfl, rfl, by decide, ?_⟩
    have hid := word_field 4 [callType, stack 1, stack 2, stack 3] [] rfl callId
    rw [List.append_nil] at hid
    rw [packet, tapiCallAnswer, take_local (n := 8) rfl, hid]
    rfl
  | startDtmf callId tone =>
    refine ⟨_, _, rfl, rfl, by decide, ?_⟩
    rw [packet, tapiStartDtmf, take_local (n := 92) rfl, word_start]
    rfl
  | stopDtmf callId =>
    refine ⟨_, _, rfl, rfl, by decide, ?_⟩
    rw [packet, tapiStopDtmf, take_local (n := 92) rfl, word_start]
    rfl
  | callsSwap activeCallId holdingCallId =>
    refine ⟨_, _, rfl, rfl, by decide, ?_⟩
    have hholding := word_field 4 (leBytes 4 activeCallId.toNat) [] rfl holdingCallId
    rw [List.append_nil] at hholding
    rw [packet, tapiCallsSwap, take_local (n := 8) rfl, word_start, hholding]
    rfl
  | callHold callId | callActivate callId | networkSetMode callId | nettextSetMemAvailable callId
  | nettextSetNetBurst callId =>
    refine ⟨_, _, rfl, rfl, by decide, ?_⟩
    exact congrArg _ (word_only callId)
  | _ => exact ⟨_, _, rfl, rfl, by decide, rfl⟩

/-- The packet fits one frame. -/
theorem send_datasize (h : r.send fresh stack = some p) : p.datasize.toNat ≤ maxSingleFrameData := by
  obtain ⟨-, -, hdata, hfits⟩ := tapiSendPacket_data h
  obtain ⟨n, -, -, hn, hsmall, -⟩ := table_spec stack r
  have hheader := (r.packet stack).header.toBytes_length
  rw [← p.data_length, hdata, List.length_append, List.length_take_of_le hfits, hheader, hn]
  unfold maxSingleFrameData
  unfold tapiCallSetupSize at hsmall
  omega

/-- The packet is read back. -/
theorem ofBytes_send (h : r.send fresh stack = some p) : ofBytes p.data = some r.sent := by
  obtain ⟨-, -, hdata, hfits⟩ := tapiSendPacket_data h
  obtain ⟨n, read, hlookup, hn, -, hread⟩ := table_spec stack r
  have hheader := TapiPacketHeader.ofBytes_toBytes (r.packet stack).header
    ((r.packet stack).buf.bytes.take (r.packet stack).header.len.toNat)
  have hdrop : p.data.drop 8 = (r.packet stack).buf.bytes.take n := by
    rw [hdata, List.drop_left' (r.packet stack).header.toBytes_length, hn]
  have hlength : (p.data.drop 8).length = n := by
    rw [hdrop, List.length_take_of_le (hn ▸ hfits)]
  rw [← hdata] at hheader
  unfold ofBytes
  simp only [hheader, hlookup, Option.bind_eq_bind, Option.bind_some]
  rw [if_pos ⟨hn, hlength⟩, hdrop, hread]

variable (fresh stack) in
/-- A structure of its caller's is read within its bounds, but for a message, which is two bytes
shorter than what is copied. -/
theorem send_isSome_iff (hr : r.Allocated) :
    (r.send fresh stack).isSome ↔ ∀ message, r ≠ .nettextSend message := by
  have hheader := (r.packet stack).header.toBytes_length
  have hlen := (r.packet stack).header.len.toNat_lt
  obtain ⟨n, -, -, hn, hsmall, -⟩ := table_spec stack r
  have hsize : (r.packet stack).header.toBytes.length + (r.packet stack).header.len.toNat < 2 ^ 32 := by
    unfold tapiCallSetupSize at hsmall
    omega
  have hiff := headedPacket_isSome_iff fresh fifoPktTapi (r.packet stack).header.len
    (r.packet stack).buf (by omega : 0 < (r.packet stack).header.toBytes.length) (by omega)
  refine hiff.trans ((and_iff_right hsize).trans ?_)
  cases r with
  | nettextSend message =>
    have hlength : message.bytes.length = 310 := (hr _ rfl).2
    refine iff_of_false ?_ fun h => h message rfl
    rintro (hzero | ⟨-, hfits⟩)
    · exact absurd hzero (show UInt32.ofNat tapiNettextSendLen ≠ 0 by decide)
    · have hfits : 0x138 ≤ message.bytes.length := hfits
      omega
  | callSetup b | networkStartup b | networkSelect b | nettextSetCbSettings b
  | ssSendUssdStringRequest b | ssUssdResp b =>
    obtain ⟨hlive, hlength⟩ := hr _ rfl
    exact iff_of_true (.inr ⟨hlive, Nat.le_of_eq hlength.symm⟩) nofun
  | networkInit | networkShutdown | networkSearch | atInit => exact iff_of_true (.inl rfl) nofun
  | _ => exact iff_of_true (.inr ⟨rfl, Nat.le_of_eq rfl⟩) nofun

/-- Of a call that can be sent nothing is lost but the mode of `tapi_network_shutdown`. -/
theorem sent_eq (hr : r.Allocated) (hmode : ∀ mode, r ≠ .networkShutdown mode)
    (hmessage : ∀ message, r ≠ .nettextSend message) : r.sent = r := by
  have hblock : ∀ (b : Block) (n : ℕ), b.live ∧ b.bytes.length = n → ⟨b.bytes.take n, true⟩ = b := by
    rintro ⟨bytes, live⟩ n ⟨rfl, hlength⟩
    rw [List.take_of_length_le (Nat.le_of_eq hlength)]
  cases r with
  | networkShutdown mode => exact absurd rfl (hmode mode)
  | nettextSend message => exact absurd rfl (hmessage message)
  | callSetup b => exact congrArg callSetup (hblock b _ (hr _ rfl))
  | networkStartup b => exact congrArg networkStartup (hblock b _ (hr _ rfl))
  | networkSelect b => exact congrArg networkSelect (hblock b _ (hr _ rfl))
  | nettextSetCbSettings b => exact congrArg nettextSetCbSettings (hblock b _ (hr _ rfl))
  | ssSendUssdStringRequest b => exact congrArg ssSendUssdStringRequest (hblock b _ (hr _ rfl))
  | ssUssdResp b => exact congrArg ssUssdResp (hblock b _ (hr _ rfl))
  | _ => rfl

/-- **The calls and their packets.** With the structures of their callers, all calls are sent but that of
a message, each in one frame for `ipc_parse_tapi`, and the call is read back from the packet. -/
theorem tapiRequest_sent (fresh stack : ℕ → UInt8) (r : TapiRequest) (hr : r.Allocated) :
    ((r.send fresh stack).isSome ↔ ∀ message, r ≠ .nettextSend message) ∧
      ∀ p, r.send fresh stack = some p → waveIpcSend p = [p] ∧
        dispatchCase p.cmd = .ipcParseTapi ∧ ofBytes p.data = some r.sent ∧
          ((∀ mode, r ≠ .networkShutdown mode) → r.sent = r) := by
  refine ⟨send_isSome_iff fresh stack hr, fun p h => ⟨waveIpcSend_single (send_datasize h), ?_, ofBytes_send h, ?_⟩⟩
  · rw [(tapiSendPacket_data h).2.1]
    rfl
  · intro hmode
    refine sent_eq hr hmode ((send_isSome_iff fresh stack hr).mp ?_)
    rw [h]
    rfl

/-- A call is set up with a structure of zeros. -/
theorem tapiRequest_sent_setup :
    let r : TapiRequest := callSetup ⟨List.replicate tapiCallSetupSize 0, true⟩
    (r.send (fun _ => 0) (fun _ => 0)).isSome ∧
      ∀ p, r.send (fun _ => 0) (fun _ => 0) = some p → waveIpcSend p = [p] ∧
        dispatchCase p.cmd = .ipcParseTapi ∧ ofBytes p.data = some r := by
  intro r
  have hr : r.Allocated := by
    intro a ha
    obtain rfl := Option.some.inj ha
    exact ⟨rfl, List.length_replicate⟩
  obtain ⟨hsome, hsent⟩ := tapiRequest_sent (fun _ => 0) (fun _ => 0) r hr
  refine ⟨hsome.mpr nofun, fun p hp => ?_⟩
  obtain ⟨hframe, hcase, hbytes, hargs⟩ := hsent p hp
  rw [hargs nofun] at hbytes
  exact ⟨hframe, hcase, hbytes⟩

end

end TapiRequest

end Mocha.Ipc
