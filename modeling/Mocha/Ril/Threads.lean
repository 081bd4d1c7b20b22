import Mocha.Lib.Mutex
import Mocha.Lib.Run

/-! The threads of the daemon and the mutexes that they take: `RIL_LOCK`, `RIL_CLIENT_LOCK`,
`SRS_CLIENT_LOCK` and the mutex of each data connection (`mocha-ril.c`, `ipc.c`, `srs.c`, `gprs.c`,
`drv.c`). Of the data, only the memory of a connection and its `thread_state` are kept. -/
namespace Mocha.Ril
open Mocha.Lib

/-- The mutexes; `κ` are the data connections. -/
inductive RilMutex (κ : Type*)
  | rilData
  | ipcPacketClient
  | srsClient
  | srsClientData
  | gprsConnection (c : κ)
deriving DecidableEq

/-- The functions that take `RIL_LOCK`. -/
inductive RilLocker (κ : Type*)
  | rilInit
  | rilOnRequest
  | ipcReadLoop
  | srsDispatch
  | gprsTunnelingThread (c : κ)
deriving DecidableEq

/-- The places between `RIL_LOCK` and `RIL_UNLOCK`: at and behind the locks of `ipc_send` and of
`srs_client_send`, behind `pthread_create` in `gprs_start_tunneling_thread`, at and behind the lock of
`gprs_stop_tunneling_thread`, and behind that function. -/
inductive RilSection (κ : Type*)
  | running
  | ipcSendLock
  | ipcSending
  | srsSendLock
  | srsSending
  | threadStarted (c : κ)
  | stopLock (c : κ)
  | stopUnlock (c : κ)
  | unregister (c : κ)
deriving DecidableEq

/-- Where a thread stands. -/
inductive ThreadPoint (κ : Type*)
  | notStarted
  | ended
  | rilLock (w : RilLocker κ)
  | rilSection (w : RilLocker κ) (p : RilSection κ)
  -- outside of `ril_on_request`
  | rild
  -- `ipc_read_loop`
  | readSelect
  | readLock
  | readRecv
  -- `srs_client_read_loop`
  | srsHead
  | srsFillLock
  | srsFill
  | srsSelect
  | srsScanLock
  | srsScan
  | srsRecvLock
  | srsRecv
  -- `srs_read_loop`
  | srsAccept
  | srsRegisterLock
  | srsRegister
  -- `battery_thread`
  | batterySleep
  | batterySendLock
  | batterySend
  -- `gprs_tunneling_thread`
  | tunnelLock (c : κ)
  | tunnelSelect (c : κ)
  | tunnelUnlock (c : κ)
  | tunnelExit (c : κ)
deriving DecidableEq

/-- How far a thread is with the start or the stop of a tunnel. -/
inductive ConnectionStage
  | threadStarted
  | stopLock
  | stopUnlock
  | unregister
deriving DecidableEq

/-- The memory of a data connection. -/
inductive ConnectionMemory
  | absent
  | live (threadState : ℕ)
  | freed
deriving DecidableEq

variable {ι κ : Type*}

/-- The mutexes that the caller of `RIL_LOCK` has already. -/
def RilLocker.held : RilLocker κ → List (RilMutex κ)
  | .rilInit | .rilOnRequest | .ipcReadLoop => []
  | .srsDispatch => [.srsClientData]
  | .gprsTunnelingThread c => [.gprsConnection c]

/-- The functions whose callees stop a tunnel. -/
def RilLocker.StopsTunnels (w : RilLocker κ) : Prop := w = .rilOnRequest ∨ w = .ipcReadLoop

/-- Where a thread goes on behind `RIL_UNLOCK`. -/
def RilLocker.after : RilLocker κ → ThreadPoint κ
  | .rilInit => .ended
  | .rilOnRequest => .rild
  | .ipcReadLoop => .readSelect
  | .srsDispatch => .srsScan
  | .gprsTunnelingThread c => .tunnelUnlock c

namespace RilSection

def held : RilSection κ → List (RilMutex κ)
  | .ipcSending => [.ipcPacketClient]
  | .srsSending => [.srsClient]
  | .stopUnlock c => [.gprsConnection c]
  | _ => []

def wants : RilSection κ → Option (RilMutex κ)
  | .ipcSendLock => some .ipcPacketClient
  | .srsSendLock => some .srsClient
  | .stopLock c => some (.gprsConnection c)
  | _ => none

end RilSection

namespace ThreadPoint

def held : ThreadPoint κ → List (RilMutex κ)
  | .rilLock w => w.held
  | .rilSection w p => p.held ++ .rilData :: w.held
  | .readRecv | .batterySend => [.ipcPacketClient]
  | .srsFill | .srsScan | .srsRecvLock | .srsRegister => [.srsClientData]
  | .srsRecv => [.srsClient, .srsClientData]
  | .tunnelSelect c | .tunnelUnlock c | .tunnelExit c => [.gprsConnection c]
  | _ => []

def wants : ThreadPoint κ → Option (RilMutex κ)
  | .rilLock _ => some .rilData
  | .rilSection _ p => p.wants
  | .readLock | .batterySendLock => some .ipcPacketClient
  | .srsFillLock | .srsScanLock | .srsRegisterLock => some .srsClientData
  | .srsRecvLock => some .srsClient
  | .tunnelLock c => some (.gprsConnection c)
  | _ => none

/-- The connection whose tunnel a thread serves, and whether the thread is past the check of
`thread_state` and has a frame to send or has sent it. -/
def tunnel : ThreadPoint κ → Option (κ × Bool)
  | .tunnelLock c | .tunnelSelect c | .tunnelExit c => some (c, false)
  | .tunnelUnlock c | .rilLock (.gprsTunnelingThread c) | .rilSection (.gprsTunnelingThread c) _ =>
    some (c, true)
  | _ => none

/-- The connection whose tunnel a thread starts or stops. -/
def stage : ThreadPoint κ → Option (ConnectionStage × κ)
  | .rilSection _ (.threadStarted c) => some (.threadStarted, c)
  | .rilSection _ (.stopLock c) => some (.stopLock, c)
  | .rilSection _ (.stopUnlock c) => some (.stopUnlock, c)
  | .rilSection _ (.unregister c) => some (.unregister, c)
  | _ => none

end ThreadPoint

/-- The mutexes in the code of the daemon. -/
def rilCode (κ : Type*) : MutexCode (ThreadPoint κ) (RilMutex κ) := ⟨ThreadPoint.held, ThreadPoint.wants⟩

/-- One step of a thread: where it stands, its call, where it gets to, and the connections. -/
inductive PointStep [DecidableEq κ] (k : κ → ConnectionMemory) :
    ThreadPoint κ → MutexCall (RilMutex κ) → ThreadPoint κ → (κ → ConnectionMemory) → Prop
  -- between `RIL_LOCK` and `RIL_UNLOCK`
  | rilLock (w : RilLocker κ) : PointStep k (.rilLock w) (.lock .rilData) (.rilSection w .running) k
  | rilUnlock (w : RilLocker κ) : PointStep k (.rilSection w .running) (.unlock .rilData) w.after k
  | ipcSend (w : RilLocker κ) (hw : w ≠ .rilInit) :
    PointStep k (.rilSection w .running) .none (.rilSection w .ipcSendLock) k
  | ipcSendLock (w : RilLocker κ) : PointStep k (.rilSection w .ipcSendLock) (.lock .ipcPacketClient)
      (.rilSection w .ipcSending) k
  | ipcSendUnlock (w : RilLocker κ) : PointStep k (.rilSection w .ipcSending)
      (.unlock .ipcPacketClient) (.rilSection w .running) k
  | srsSend (w : RilLocker κ) (hw : w = .ipcReadLoop ∨ w = .srsDispatch) :
    PointStep k (.rilSection w .running) .none (.rilSection w .srsSendLock) k
  | srsSendLock (w : RilLocker κ) :
    PointStep k (.rilSection w .srsSendLock) (.lock .srsClient) (.rilSection w .srsSending) k
  | srsSendUnlock (w : RilLocker κ) :
    PointStep k (.rilSection w .srsSending) (.unlock .srsClient) (.rilSection w .running) k
  | connectionRegister (c : κ) (hc : k c = .absent) :
    PointStep k (.rilSection .rilOnRequest .running) .none (.rilSection .rilOnRequest .running)
      (Function.update k c (.live 0))
  | threadStarted (w : RilLocker κ) (c : κ) : PointStep k (.rilSection w (.threadStarted c)) .none
      (.rilSection w .running) (Function.update k c (.live 1))
  | stopTunneling (w : RilLocker κ) (hw : w.StopsTunnels) (c : κ)
      (hc : k c = .live 1) : PointStep k (.rilSection w .running) .none (.rilSection w (.stopLock c))
      (Function.update k c (.live 2))
  | stopIdle (w : RilLocker κ) (hw : w.StopsTunnels) (c : κ) (n : ℕ)
      (hc : k c = .live n) (hn : n ≠ 1) :
    PointStep k (.rilSection w .running) .none (.rilSection w (.unregister c)) k
  | stopLock (w : RilLocker κ) (c : κ) : PointStep k (.rilSection w (.stopLock c))
      (.lock (.gprsConnection c)) (.rilSection w (.stopUnlock c)) k
  | stopUnlock (w : RilLocker κ) (c : κ) : PointStep k (.rilSection w (.stopUnlock c))
      (.unlock (.gprsConnection c)) (.rilSection w (.unregister c)) k
  | connectionUnregister (w : RilLocker κ) (c : κ) : PointStep k (.rilSection w (.unregister c)) .none
      (.rilSection w .running) (Function.update k c .freed)
  -- `ril_on_request` is called
  | request : PointStep k .rild .none (.rilLock .rilOnRequest) k
  -- `ipc_read_loop`; after an error the client is made anew, some times
  | readSelect : PointStep k .readSelect .none .readLock k
  | readLock : PointStep k .readLock (.lock .ipcPacketClient) .readRecv k
  | readRecv : PointStep k .readRecv (.unlock .ipcPacketClient) (.rilLock .ipcReadLoop) k
  | readFailed : PointStep k .readRecv (.unlock .ipcPacketClient) .readSelect k
  | readEnded : PointStep k .readSelect .none .ended k
  -- `srs_client_read_loop`
  | srsRound : PointStep k .srsHead .none .srsFillLock k
  | srsEnded : PointStep k .srsHead .none .ended k
  | srsFillLock : PointStep k .srsFillLock (.lock .srsClientData) .srsFill k
  | srsFill : PointStep k .srsFill (.unlock .srsClientData) .srsSelect k
  | srsNoClients : PointStep k .srsSelect .none .srsHead k
  | srsSelect : PointStep k .srsSelect .none .srsScanLock k
  | srsScanLock : PointStep k .srsScanLock (.lock .srsClientData) .srsScan k
  | srsScan : PointStep k .srsScan .none .srsRecvLock k
  | srsScanUnlock : PointStep k .srsScan (.unlock .srsClientData) .srsHead k
  | srsRecvLock : PointStep k .srsRecvLock (.lock .srsClient) .srsRecv k
  | srsTerminated : PointStep k .srsRecv (.unlock .srsClient) .srsScan k
  | srsRecv : PointStep k .srsRecv (.unlock .srsClient) (.rilLock .srsDispatch) k
  -- `srs_read_loop`
  | srsAccept : PointStep k .srsAccept .none .srsRegisterLock k
  | srsServerFailed : PointStep k .srsAccept .none .ended k
  | srsRegisterLock : PointStep k .srsRegisterLock (.lock .srsClientData) .srsRegister k
  | srsRegister : PointStep k .srsRegister (.unlock .srsClientData) .srsAccept k
  -- `battery_thread`
  | battery : PointStep k .batterySleep .none .batterySendLock k
  | batterySendLock : PointStep k .batterySendLock (.lock .ipcPacketClient) .batterySend k
  | batterySend : PointStep k .batterySend (.unlock .ipcPacketClient) .batterySleep k
  -- `gprs_tunneling_thread`, whose connection has to be there
  | tunnelLock (c : κ) (n : ℕ) (hc : k c = .live n) :
    PointStep k (.tunnelLock c) (.lock (.gprsConnection c)) (.tunnelSelect c) k
  | tunnelStopped (c : κ) (hc : k c = .live 2) :
    PointStep k (.tunnelSelect c) .none (.tunnelExit c) k
  | tunnelIdle (c : κ) (n : ℕ) (hc : k c = .live n) (hn : n ≠ 2) :
    PointStep k (.tunnelSelect c) .none (.tunnelUnlock c) k
  | tunnelRead (c : κ) (n : ℕ) (hc : k c = .live n) (hn : n ≠ 2) :
    PointStep k (.tunnelSelect c) .none (.rilLock (.gprsTunnelingThread c)) k
  | tunnelUnlock (c : κ) (n : ℕ) (hc : k c = .live n) :
    PointStep k (.tunnelUnlock c) (.unlock (.gprsConnection c)) (.tunnelLock c) k
  | tunnelExit (c : κ) (n : ℕ) (hc : k c = .live n) :
    PointStep k (.tunnelExit c) (.unlock (.gprsConnection c)) .ended k

/-- The threads with the mutexes, and the connections. -/
structure Threads (ι κ : Type*) extends MutexState ι (ThreadPoint κ) (RilMutex κ) where
  connection : κ → ConnectionMemory

/-- A step, with the thread that takes it and where it gets to. In `ipc_proto_start_network_cnf`, the
thread of a tunnel begins as well. -/
inductive ThreadsStep [DecidableEq ι] [DecidableEq κ] : Step (Threads ι κ) (ι × ThreadPoint κ)
  | act {s : Threads ι κ} {t : ι} {call : MutexCall (RilMutex κ)} {q : ThreadPoint κ}
      {k : κ → ConnectionMemory} (hstep : PointStep s.connection (s.point t) call q k)
      (hcall : call.Allowed s.owner t) : ThreadsStep s (t, q) ⟨s.act t call q, k⟩
  | start {s : Threads ι κ} {t u : ι} {c : κ} {n : ℕ}
      (ht : s.point t = .rilSection .ipcReadLoop .running) (hu : s.point u = .notStarted)
      (hc : s.connection c = .live n) :
    ThreadsStep s (t, .rilSection .ipcReadLoop (.threadStarted c))
      ⟨(s.act t .none (.rilSection .ipcReadLoop (.threadStarted c))).act u .none (.tunnelLock c),
        s.connection⟩

/-- Where the threads stand when `RIL_Init` begins; those that begin later have not gone on. -/
def ThreadPoint.IsStart : ThreadPoint κ → Prop
  | .rilSection .rilInit .running | .notStarted | .rild | .readSelect | .srsHead | .srsAccept
  | .batterySleep => True
  | _ => False

structure Threads.Initial (s : Threads ι κ) : Prop where
  owned : s.Owned (rilCode κ)
  start : ∀ t, (s.point t).IsStart
  connection : ∀ c, s.connection c = .absent

section

variable [DecidableEq κ] {k k' : κ → ConnectionMemory} {p q : ThreadPoint κ}
  {call : MutexCall (RilMutex κ)}

/-- The mutexes at the points are those of the calls. -/
theorem PointStep.fits (h : PointStep k p call q k') : call.Fits (rilCode κ) p q := by
  cases h with
  | rilUnlock w => cases w <;> exact ⟨rfl, rfl⟩
  | _ => exact ⟨rfl, rfl⟩

end
end Mocha.Ril
