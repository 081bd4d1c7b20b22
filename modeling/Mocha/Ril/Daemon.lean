import Mocha.Lib.Cascade
import Mocha.Ipc.Reassembly
import Mocha.Ril.Callback
import Mocha.Ril.SystemTokens

/-! The daemon as a whole: frames of the modem through `ipc_dispatch`, its parsers and the callbacks to
`ril_data`, beside the requests of the framework. Over it stands a daemon that gets whole packets, which
knows nothing of frames. -/
namespace Mocha.Ril
open Mocha.Lib Mocha.Ipc

/-- `FIFO_PKT_SECUREBOOT` -/
def fifoPktSecureboot : UInt32 := 0x96

/-- `ril_data`, and the global `cached_bcd_imei`. -/
structure DaemonData where
  ril : RilData
  cachedBcdImei : List.Vector UInt8 9

inductive DaemonEvent
  | frame (ipcFrame : ModemIo)
  | request (request : RilRequest) (t : FrameworkToken)
  | clientState (state : RilClientState)

inductive DaemonEffect
  | ril (e : SystemEffect)
  | ipcSend (packet : ModemIo)
  | parsed (d : Delivery)

/-- What is found outside of a packet and of `ril_data`: the memory around it, and the data of the NVM. -/
structure PacketContext extends CallbackContext where
  around : PacketMemory
  nvm : List.Vector UInt8 150

/-- The memory from the first byte of a packet on. -/
def PacketContext.memory (ctx : PacketContext) (data : List UInt8) : PacketMemory := fun i =>
  if 0 ≤ i then data.getD i.toNat (ctx.around i) else ctx.around i

/-- The IMEI that `load_sec_data` finds. -/
def secImei (nvm : List.Vector UInt8 150) : List.Vector UInt8 9 :=
  if nvm.toList.getD 137 0 = 0x08 then ⟨(nvm.toList.drop 137).take 9, by simp⟩ else ⟨fakeImei, rfl⟩

/-- The packet that `syssec_send_imei` fills in. -/
def imeiPacket (cachedBcdImei : List.Vector UInt8 9) : ModemIo :=
  packetOf fifoPktSecureboot
    (leBytes 4 2 ++ leBytes 4 0 ++ leBytes 4 17 ++ leBytes 4 0 ++ List.replicate 8 0 ++ cachedBcdImei.toList)
    (by simp)

/-- `syssec_send_imei`, which loads the IMEI when there is none. -/
def syssecSendImei (nvm : List.Vector UInt8 150) (s : DaemonData) : DaemonData × List DaemonEffect :=
  let s : DaemonData :=
    if s.cachedBcdImei.head = 0x00 then ⟨loadSecData s.ril nvm.toList, secImei nvm⟩ else s
  (s, [.ipcSend (imeiPacket s.cachedBcdImei)])

/-- `ipc_invoke_ril_cb`; a type may have no callback. -/
def invokeCallback (s : DaemonData) (c : Option RilCallback) : Option (DaemonData × List DaemonEffect) :=
  c.elim (some (s, [])) fun c =>
    (ipcInvokeRilCb s.ril c).map fun r => ({ s with ril := r.1 }, r.2.map .ril)

/-- One of the effects of a parser on a packet. The data of a callback end where the packet ends. -/
def ipcEffect (ctx : PacketContext) (packet : ModemIo) (s : DaemonData) :
    IpcEffect → Option (DaemonData × List DaemonEffect)
  | .ipcInvokeRilCb type data =>
    (readCallback ctx.toCallbackContext
      ((ctx.memory packet.data).from (packet.data.length - data.length)) data.length type).bind
        (invokeCallback s)
  | .ipcInvokeRilCbNumber type data => (readNumber type data).bind fun c => invokeCallback s (some c)
  | .ipcSend packet => some (s, [.ipcSend packet])
  | .syssecSendImei => some (syssecSendImei ctx.nvm s)
  | .parsed d => some (s, [.parsed d])

def ipcEffects (ctx : PacketContext) (packet : ModemIo) :
    DaemonData → List IpcEffect → Option (DaemonData × List DaemonEffect)
  | s, [] => some (s, [])
  | s, e :: es => do
    let (s, out) ← ipcEffect ctx packet s e
    let (s, outs) ← ipcEffects ctx packet s es
    return (s, out ++ outs)

/-- A whole packet is parsed, and its effects follow each other. -/
def ipcReceive (ctx : PacketContext) (s : DaemonData) (packet : ModemIo) :
    Option (DaemonData × List DaemonEffect) :=
  (ipcParse ctx.fresh (ctx.memory packet.data) (deliver packet)).bind (ipcEffects ctx packet s)

/-- The daemon that gets whole packets. -/
inductive PacketStep : Step DaemonData (DaemonEvent × List DaemonEffect)
  | packet {s t : DaemonData} {packet : ModemIo} {out : List DaemonEffect} (ctx : PacketContext)
      (h : ipcReceive ctx s packet = some (t, out)) : PacketStep s (.frame packet, out) t
  | request {s : DaemonData} {ril : RilData} {out : List SystemEffect} {request : RilRequest}
      {t : FrameworkToken} (h : RilStep s.ril (.request request t, out) ril) :
      PacketStep s (.request request t, out.map .ril) { s with ril }
  | clientState {s : DaemonData} {ril : RilData} {out : List SystemEffect} {state : RilClientState}
      (h : RilStep s.ril (.clientState state, out) ril) :
      PacketStep s (.clientState state, out.map .ril) { s with ril }

/-- The events that a frame stands for are the packets that it delivers. -/
def deliveredEvents (ds : List Delivery) : List DaemonEvent := ds.map fun d => .frame d.packet

/-- What an event is for the reassembly, and the events that it stands for; `fresh` is what `malloc`
returns. -/
inductive ReassemblyStep (fresh : ℕ → UInt8) : Step Reassembly (DaemonEvent × List DaemonEvent)
  | frame {s t : Reassembly} {f : ModemIo} {ds : List Delivery} (h : Dispatch fresh s (f, ds) t) :
      ReassemblyStep fresh s (.frame f, deliveredEvents ds) t
  | request (s : Reassembly) (request : RilRequest) (t : FrameworkToken) :
      ReassemblyStep fresh s (.request request t, [.request request t]) s
  | clientState (s : Reassembly) (state : RilClientState) :
      ReassemblyStep fresh s (.clientState state, [.clientState state]) s

/-- The daemon: a frame goes to the reassembly, and each packet that is delivered to its parser. -/
def DaemonStep (fresh : ℕ → UInt8) : Step (Reassembly × DaemonData) (DaemonEvent × List DaemonEffect) :=
  cascade (ReassemblyStep fresh) PacketStep

/-- The state that the daemon starts in. -/
def daemonInit (bAutoAttach : UInt32) (state : RilClientState) : Reassembly × DaemonData :=
  (.init, ⟨rilInit bAutoAttach (some ⟨state, true⟩), .replicate 9 0⟩)

def DaemonEvent.token : DaemonEvent → Option RilToken
  | .request _ t => some t.1
  | _ => none

def DaemonEffect.ril? : DaemonEffect → Option SystemEffect
  | .ril e => some e
  | _ => none

/-- The tokens of the requests among some events, in order. -/
def issuedTokens (es : List DaemonEvent) : List RilToken := es.filterMap DaemonEvent.token

/-- What the telephony layer does among some effects, in order. -/
def rilEffects (out : List DaemonEffect) : List SystemEffect := out.filterMap DaemonEffect.ril?

end Mocha.Ril
