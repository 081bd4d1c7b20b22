import Mathlib.Data.Finset.Basic
import Mathlib.Data.List.Find
import Mocha.Ril.SrsSend

/-! The inner loop of `srs_client_read_loop`. Every turn searches the clients anew, of which the turn
before may have removed one: whatever happens in a turn, the clients whose descriptors are in the set
are received from once each, in order. -/
namespace Mocha.Ril.ListHead
open Mocha.Lib

/-- `fd_set`; there is no place in it for a negative descriptor. -/
structure FdSet where
  fds : Finset Int32
  nonneg : ∀ fd ∈ fds, 0 ≤ fd

/-- `FD_CLR` -/
def FdSet.clear (fds : FdSet) (fd : Int32) : FdSet :=
  ⟨fds.fds.erase fd, fun fd' h => fds.nonneg fd' (Finset.mem_of_mem_erase h)⟩

/-- What the system says when a message is received: whether there is a buffer for it, whether the
socket can be read from, what `read()` returns, if it does not fail, and what lies behind the buffer. -/
structure RecvOutcome where
  data : Bool
  readable : Bool
  chunk : Option (List UInt8)
  heap : ℕ → UInt8

/-- What the system says in one turn of the loop. -/
structure ReadOutcome where
  recv : RecvOutcome
  reply : SendOutcome

/-- A node without a client is passed over. -/
def clientPasses (test : SrsClientInfo → Bool) (s : ListMemory SrsClientInfo) :
    Option Address → Option Bool
  | none => some false
  | some client => (s.entries client).map test

/-- The first client that passes a test. -/
def clientInfoFind (fuel : ℕ) (test : SrsClientInfo → Bool) (s : ListMemory SrsClientInfo) :
    Option (Option Address) := do
  match ← s.lists.findNode (clientPasses test s) fuel (s.heads .clients) with
  | none => some none
  | some list => (s.lists list).map Node.data

def srsClientInfoFindFd (fuel : ℕ) (fd : Int32) (s : ListMemory SrsClientInfo) :
    Option (Option Address) := clientInfoFind fuel (fun info => info.fd = fd) s

def srsClientInfoGetFdSet (fuel : ℕ) (fds : FdSet) (s : ListMemory SrsClientInfo) :
    Option (Int32 × FdSet) := do
  match ← clientInfoFind fuel (fun info => info.fd ∈ fds.fds) s with
  | none => some (-1, fds)
  | some client => (s.entries client).map fun info => (info.fd, fds.clear info.fd)

/-- `srs_client_recv`; without a message it has failed. -/
def srsClientRecv (o : RecvOutcome) (client : Option Address) (s : ListMemory SrsClientInfo) :
    Option (Option SrsMessage) :=
  match client with
  | none => some none
  | some c =>
    (s.entries c).map fun info =>
      if o.data = false then none
      else if info.fd < 0 then none
      else if o.readable = false then none
      else o.chunk.bind (Ril.srsClientRecv o.heap)

/-- `SRS_CLIENT_TYPE_GPS` -/
def srsClientTypeGps : Int32 := 1

/-- `client->type = SRS_CLIENT_TYPE_GPS` -/
def setGpsClient (client : Option Address) (s : ListMemory SrsClientInfo) :
    Option (ListMemory SrsClientInfo) := do
  let c ← client
  let info ← s.entries c
  some { s with entries := Function.update s.entries c (some { info with type := srsClientTypeGps }) }

/-- The message that `srs_control_ping` answers with. -/
def pingReply (m : SrsMessage) : Option SrsMessage :=
  match srsControlPingHandler m with
  | some [.srsSend command data] => some ⟨command, Int32.ofNat data.length, some data⟩
  | _ => none

/-- `srs_dispatch`, as far as it has to do with the clients: the answer to a ping, and the type. It returns for
every message; where the handler of a message reads data that are not there (`Mocha.Ril.srsDispatch` is
`none`), the process ends, and the loop with it. -/
def srsDispatch (stale : SrsClientInfo) (fuel : ℕ) (client : Option Address) (m : SrsMessage)
    (o : SendOutcome) (s : ListMemory SrsClientInfo) : Option (ListMemory SrsClientInfo × List SrsEvent) :=
  if m.command = srsControlPing then
    match pingReply m with
    | none => some (s, [])
    | some reply => (srsClientSend stale fuel client reply o s).map Prod.snd
  else if m.command = srsGpsHello then (setGpsClient client s).map (·, [])
  else some (s, [])

/-- One turn of the loop, for a descriptor that was in the set. -/
def srsClientReadTurn (stale : SrsClientInfo) (fuel : ℕ) (o : ReadOutcome) (fd : Int32)
    (s : ListMemory SrsClientInfo) : Option (ListMemory SrsClientInfo × List SrsEvent) := do
  let client ← srsClientInfoFindFd fuel fd s
  match ← srsClientRecv o.recv client s with
  | none => do
    let t ← srsClientUnregister fuel client s
    some (t, [.recv client, .close fd])
  | some m => do
    let (t, out) ← srsDispatch stale fuel client m o.reply s
    some (t, .recv client :: out)

/-- The inner loop of `srs_client_read_loop`; `k` turns have been made before. -/
def srsClientReadLoop (stale : SrsClientInfo) (outcomes : ℕ → ReadOutcome) :
    ℕ → ℕ → FdSet → ListMemory SrsClientInfo →
      Option (ListMemory SrsClientInfo × FdSet × List SrsEvent)
  | 0, _, _, _ => none
  | fuel + 1, k, fds, s => do
    let (fd, fds) ← srsClientInfoGetFdSet fuel fds s
    if fd < 0 then some (s, fds, [])
    else do
      let (t, out) ← srsClientReadTurn stale fuel (outcomes k) fd s
      let (u, fds, outs) ← srsClientReadLoop stale outcomes fuel (k + 1) fds t
      some (u, fds, out ++ outs)

/-- The clients that `srs_client_recv` is called for. -/
def recvCalls (out : List SrsEvent) : List (Option Address) :=
  out.filterMap fun
    | .recv client => some client
    | _ => none

/-- The clients whose descriptors are in the set. -/
def ready (clients : List (Address × Int32)) (fds : FdSet) : List (Address × Int32) :=
  clients.filter fun c => c.2 ∈ fds.fds

section Dispatch

variable {m : SrsMessage}

/-- The effects of a dispatch that have to do with the client. -/
def onClient : SrsEffect → Bool
  | .setGpsClient | .srsSend _ _ => true
  | _ => false

/-- What a message asks for, of these. -/
def clientEffect (m : SrsMessage) : List SrsEffect :=
  if m.command = srsControlPing then
    (pingReply m).toList.map fun reply => .srsSend reply.command (reply.data.getD [])
  else if m.command = srsGpsHello then [.setGpsClient]
  else []

theorem filter_onClient_byte {f : ℕ → SrsEffect} (hf : ∀ b, onClient (f b) = false)
    {effects : List SrsEffect} (h : ((m.dataWord 1 0).bind fun b => some [f b]) = some effects) :
    effects.filter onClient = [] := by
  obtain ⟨b, -, ⟨⟩⟩ := Option.bind_eq_some_iff.mp h
  exact List.filter_cons_of_neg (Bool.eq_false_iff.mp (hf b))

/-- Nothing is left out here of a dispatch that has to do with the client. -/
theorem filter_onClient {ril ril' : RilData} {effects : List SrsEffect}
    (h : Ril.srsDispatch ril m = some (ril', effects)) : effects.filter onClient = clientEffect m := by
  unfold Ril.srsDispatch at h
  by_cases hping : m.command = srsControlPing
  · rw [if_pos hping] at h
    obtain ⟨effects, hhandler, ⟨⟩⟩ := Option.map_eq_some_iff.mp h
    rw [clientEffect, if_pos hping, pingReply, hhandler]
    unfold srsControlPingHandler at hhandler
    split at hhandler
    · obtain rfl := Option.some.inj hhandler
      rfl
    · obtain ⟨caffe, -, hcaffe⟩ := Option.bind_eq_some_iff.mp hhandler
      obtain rfl := Option.some.inj hcaffe
      split <;> rfl
  rw [if_neg hping] at h
  by_cases hhello : m.command = srsGpsHello
  · rw [if_pos hhello] at h
    obtain ⟨⟩ := h
    exact ((if_neg hping).trans (if_pos hhello)).symm
  rw [if_neg hhello] at h
  refine Eq.trans ?_ ((if_neg hping).trans (if_neg hhello)).symm
  -- the other handlers do not know the client
  split at h
  · obtain ⟨effects, hhandler, ⟨⟩⟩ := Option.map_eq_some_iff.mp h
    obtain ⟨_, -, hhandler⟩ := Option.bind_eq_some_iff.mp hhandler
    obtain ⟨_, -, hhandler⟩ := Option.bind_eq_some_iff.mp hhandler
    obtain ⟨_, -, ⟨⟩⟩ := Option.bind_eq_some_iff.mp hhandler
    rfl
  split at h
  · obtain ⟨_, -, h⟩ := Option.bind_eq_some_iff.mp h
    obtain ⟨_, -, h⟩ := Option.bind_eq_some_iff.mp h
    obtain ⟨_, -, ⟨⟩⟩ := Option.bind_eq_some_iff.mp h
    rfl
  split at h
  · obtain ⟨effects, hhandler, ⟨⟩⟩ := Option.map_eq_some_iff.mp h
    exact filter_onClient_byte (fun _ => rfl) hhandler
  split at h
  · obtain ⟨effects, hhandler, ⟨⟩⟩ := Option.map_eq_some_iff.mp h
    exact filter_onClient_byte (fun _ => rfl) hhandler
  split at h
  · obtain ⟨effects, hhandler, ⟨⟩⟩ := Option.map_eq_some_iff.mp h
    exact filter_onClient_byte (fun _ => rfl) hhandler
  split at h
  · obtain ⟨effects, hhandler, ⟨⟩⟩ := Option.map_eq_some_iff.mp h
    exact filter_onClient_byte (fun _ => by split <;> rfl) hhandler
  split at h <;> obtain ⟨⟩ := h
  · rfl
  · rfl

end Dispatch

section Search

variable {s : ListMemory SrsClientInfo} {clients xs ys : List (Address × Int32)} {c : Address × Int32}
  {fuel : ℕ} {fds : FdSet}

/-- The search finds what it would find in the list of the clients. -/
theorem Clients.find (h : Clients s clients) (hfuel : clients.length < fuel) (p : Int32 → Bool) :
    clientInfoFind fuel (fun info => p info.fd) s =
      some ((clients.find? fun c => p c.2).map Prod.fst) := by
  obtain ⟨cells, hholds, hcells, hlength⟩ := h.cells
  -- the test of a client by its address
  let test : Address → Bool := fun e => ((s.entries e).map fun info => p info.fd).getD false
  have htest : ∀ c ∈ clients, (s.entries c.1).map (fun info => p info.fd) = some (p c.2) := by
    intro c hc
    obtain ⟨info, hinfo, hfd⟩ := Option.map_eq_some_iff.mp (h.fd c hc)
    rw [hinfo, Option.map_some, hfd]
  have hfind : (cells.find? fun c => test c.2).map Prod.snd =
      (clients.find? fun c => p c.2).map Prod.fst := by
    calc (cells.find? fun c => test c.2).map Prod.snd
      _ = (cells.map Prod.snd).find? test := by
        rw [List.find?_map]
        rfl
      _ = (clients.find? fun c => test c.1).map Prod.fst := by
        rw [hcells, List.find?_map]
        rfl
      _ = (clients.find? fun c => p c.2).map Prod.fst := by
        refine congrArg _ (List.find?_congr fun c hc => ?_)
        exact congrArg (Option.getD · false) (htest c hc)
  have hpasses : ∀ c ∈ cells, clientPasses (fun info => p info.fd) s (some c.2) = some (test c.2) := by
    intro c hc
    obtain ⟨client, hclient, heq⟩ := List.mem_map.mp (hcells ▸ List.mem_map_of_mem hc)
    have hsome := htest client hclient
    rw [heq] at hsome
    exact hsome.trans (congrArg (fun b => some (Option.getD b false)) hsome.symm)
  rw [clientInfoFind, hholds.findNode (hlength ▸ hfuel) hpasses, ← hfind, Option.bind_eq_bind,
    Option.bind_some]
  cases hfound : cells.find? fun c => test c.2 with
  | none => rfl
  | some c =>
    obtain ⟨as, bs, rfl⟩ := List.append_of_mem (List.mem_of_find?_eq_some hfound)
    have hlinked := hholds.linked
    rw [List.map_append, List.map_cons] at hlinked
    exact congrArg (Option.map Node.data) hlinked.node

theorem Clients.findFd (h : Clients s (xs ++ c :: ys)) (hfuel : (xs ++ c :: ys).length < fuel) :
    srsClientInfoFindFd fuel c.2 s = some (some c.1) := by
  have hdistinct := h.distinct
  rw [List.map_append, List.map_cons, List.nodup_append] at hdistinct
  have hfind : ((xs ++ c :: ys).find? fun d => d.2 = c.2) = some c := by
    refine List.find?_eq_some_iff_append.mpr ⟨decide_eq_true rfl, xs, ys, rfl, fun d hd => ?_⟩
    rw [decide_eq_false (hdistinct.2.2 d.2 (List.mem_map_of_mem hd) c.2 List.mem_cons_self)]
    rfl
  rw [srsClientInfoFindFd, h.find hfuel fun fd => fd = c.2, hfind]
  rfl

theorem Clients.getFdSet (h : Clients s clients) (hfuel : clients.length < fuel) (fds : FdSet) :
    srsClientInfoGetFdSet fuel fds s = some
      (match (ready clients fds).head? with
        | none => (-1, fds)
        | some c => (c.2, fds.clear c.2)) := by
  rw [srsClientInfoGetFdSet, h.find hfuel fun fd => fd ∈ fds.fds, ready, List.head?_filter,
    Option.bind_eq_bind, Option.bind_some]
  cases hfind : clients.find? fun c => c.2 ∈ fds.fds with
  | none => rfl
  | some c =>
    obtain ⟨info, hinfo, hfd⟩ :=
      Option.map_eq_some_iff.mp (h.fd c (List.mem_of_find?_eq_some hfind))
    dsimp only [Option.map_some]
    rw [hinfo, Option.map_some, hfd]

end Search

section Turn

variable {s : ListMemory SrsClientInfo} {clients xs ys : List (Address × Int32)} {c : Address × Int32}

theorem recvCalls_srsClientSendMessage (m : SrsMessage) (o : SendOutcome) (fd : Int32) :
    recvCalls (Ril.ListHead.srsClientSendMessage m o fd).2 = [] := by
  unfold ListHead.srsClientSendMessage
  split_ifs <;> rfl

/-- The memory, where the clients keep their places and their descriptors. -/
theorem Clients.congr (h : Clients s clients) {t : ListMemory SrsClientInfo} (hlists : t.lists = s.lists)
    (hheads : t.heads = s.heads) (hfd : ∀ c ∈ clients, (t.entries c.1).map SrsClientInfo.fd = some c.2) :
    Clients t clients where
  holds := by
    obtain ⟨cells, hholds, hcells⟩ := h.holds
    exact ⟨cells, hholds.congr (congrFun hheads _) fun l _ => congrFun hlists l, hcells⟩
  fd := hfd
  distinct := h.distinct

theorem Clients.setGpsClient (h : Clients s clients) (hc : c ∈ clients) : ∃ t,
    setGpsClient (some c.1) s = some t ∧ Clients t clients := by
  obtain ⟨info, hinfo, hfd⟩ := Option.map_eq_some_iff.mp (h.fd c hc)
  refine ⟨_, by rw [ListHead.setGpsClient, Option.bind_eq_bind, Option.bind_some, hinfo]; rfl, ?_⟩
  refine h.congr rfl rfl fun d hd => ?_
  dsimp only
  by_cases heq : d.1 = c.1
  · have hsame := h.fd d hd
    rw [heq, hinfo] at hsame
    rw [heq, Function.update_self]
    exact hsame
  · rw [Function.update_of_ne heq]
    exact h.fd d hd

/-- An answer leaves the clients as they are, or costs the client its registration. -/
theorem Clients.srsClientSend (h : Clients s (xs ++ c :: ys)) (stale : SrsClientInfo) (m : SrsMessage)
    (o : SendOutcome) : ∃ rc t out clients,
      (∀ fuel, (xs ++ c :: ys).length < fuel →
        srsClientSend stale fuel (some c.1) m o s = some (rc, t, out)) ∧
          Clients t clients ∧ (clients = xs ++ c :: ys ∨ clients = xs ++ ys) ∧ recvCalls out = [] := by
  have hc : c ∈ xs ++ c :: ys := List.mem_append_right _ List.mem_cons_self
  by_cases hsent : o.Sent c.2
  · exact ⟨_, s, _, _, fun fuel _ => srsClientSend_sent h hc hsent stale fuel, h, .inl rfl,
      recvCalls_srsClientSendMessage m o c.2⟩
  · obtain ⟨t, hclients, hfailed⟩ := srsClientSend_failed (m := m) h hc hsent
    rw [erase_middle h.nodup] at hclients
    refine ⟨_, t, _, _, hfailed stale, hclients, .inr rfl, ?_⟩
    rw [recvCalls, List.filterMap_append, ← recvCalls, recvCalls_srsClientSendMessage]
    rfl

/-- So does the dispatch of a message. -/
theorem Clients.srsDispatch (h : Clients s (xs ++ c :: ys)) (stale : SrsClientInfo) (m : SrsMessage)
    (o : SendOutcome) : ∃ t out clients,
      (∀ fuel, (xs ++ c :: ys).length < fuel → srsDispatch stale fuel (some c.1) m o s = some (t, out)) ∧
        Clients t clients ∧ (clients = xs ++ c :: ys ∨ clients = xs ++ ys) ∧ recvCalls out = [] := by
  unfold ListHead.srsDispatch
  by_cases hping : m.command = srsControlPing
  · simp only [if_pos hping]
    cases hreply : pingReply m with
    | none => exact ⟨s, [], _, fun _ _ => rfl, h, .inl rfl, rfl⟩
    | some reply =>
      obtain ⟨rc, t, out, clients, hsend, hrest⟩ := h.srsClientSend stale reply o
      exact ⟨t, out, clients, fun fuel hfuel => congrArg (Option.map Prod.snd) (hsend fuel hfuel), hrest⟩
  · simp only [if_neg hping]
    by_cases hhello : m.command = srsGpsHello
    · simp only [if_pos hhello]
      obtain ⟨t, ht, hclients⟩ := h.setGpsClient (List.mem_append_right _ List.mem_cons_self)
      exact ⟨t, [], _, fun _ _ => congrArg (Option.map (·, [])) ht, hclients, .inl rfl, rfl⟩
    · simp only [if_neg hhello]
      exact ⟨s, [], _, fun _ _ => rfl, h, .inl rfl, rfl⟩

/-- So does a turn, which receives from the client once. -/
theorem Clients.readTurn (h : Clients s (xs ++ c :: ys)) (stale : SrsClientInfo) (o : ReadOutcome) :
    ∃ t out clients,
      (∀ fuel, (xs ++ c :: ys).length < fuel → srsClientReadTurn stale fuel o c.2 s = some (t, out)) ∧
        Clients t clients ∧ (clients = xs ++ c :: ys ∨ clients = xs ++ ys) ∧
          recvCalls out = [some c.1] := by
  obtain ⟨info, hinfo⟩ := Option.isSome_iff_exists.mp (h.isSome (List.mem_append_right _ List.mem_cons_self))
  unfold srsClientReadTurn
  cases hrecv : srsClientRecv o.recv (some c.1) s with
  | none =>
    rw [srsClientRecv, hinfo] at hrecv
    exact nomatch hrecv
  | some message =>
    cases message with
    | none =>
      obtain ⟨t, ht, hclients, -⟩ := h.unregister
      refine ⟨t, [.recv (some c.1), .close c.2], _, fun fuel hfuel => ?_, hclients, .inr rfl, rfl⟩
      rw [h.findFd hfuel, Option.bind_eq_bind, Option.bind_some, hrecv, Option.bind_eq_bind,
        Option.bind_some, ht fuel hfuel]
      rfl
    | some m =>
      obtain ⟨t, out, clients, ht, hclients, hleft, hout⟩ := h.srsDispatch stale m o.reply
      refine ⟨t, .recv (some c.1) :: out, clients, fun fuel hfuel => ?_, hclients, hleft, ?_⟩
      · rw [h.findFd hfuel, Option.bind_eq_bind, Option.bind_some, hrecv, Option.bind_eq_bind,
          Option.bind_some]
        dsimp only
        rw [ht fuel hfuel]
        rfl
      · exact congrArg (some c.1 :: ·) hout

end Turn

section Loop

variable {s : ListMemory SrsClientInfo} {clients rest xs ys : List (Address × Int32)}
  {c : Address × Int32} {fds : FdSet}

/-- The turn takes the first of the clients that are ready, whatever it does to it. -/
theorem ready_clear (hdistinct : ((xs ++ c :: ys).map Prod.snd).Nodup)
    (hready : ready (xs ++ c :: ys) fds = c :: rest)
    (hclients : clients = xs ++ c :: ys ∨ clients = xs ++ ys) :
    ready clients (fds.clear c.2) = rest := by
  have hnodup : ((c :: rest).map Prod.snd).Nodup := by
    rw [← hready]
    exact hdistinct.sublist (List.filter_sublist.map _)
  have hne : ∀ d ∈ rest, decide (d.2 ≠ c.2) = true := by
    intro d hd
    refine decide_eq_true fun heq => (List.nodup_cons.mp hnodup).1 ?_
    exact heq ▸ List.mem_map_of_mem hd
  have hfilter : ∀ l, ready l (fds.clear c.2) = (ready l fds).filter fun d => d.2 ≠ c.2 := by
    intro l
    rw [ready, ready, List.filter_filter]
    refine List.filter_congr fun d _ => ?_
    rw [← Bool.decide_and]
    exact decide_eq_decide.mpr Finset.mem_erase
  have hleft : ready clients (fds.clear c.2) = ready (xs ++ c :: ys) (fds.clear c.2) := by
    rcases hclients with rfl | rfl
    · rfl
    · have hgone : ¬ decide (c.2 ∈ (fds.clear c.2).fds) = true :=
        fun h => Finset.notMem_erase _ _ (of_decide_eq_true h)
      rw [ready, ready, List.filter_append, List.filter_append, List.filter_cons, if_neg hgone]
  have hself : ¬ decide (c.2 ≠ c.2) = true := fun h => of_decide_eq_true h rfl
  rw [hleft, hfilter, hready, List.filter_cons, if_neg hself, List.filter_eq_self.mpr hne]

/-- The loop receives once from each client that is ready, in order. -/
theorem Clients.readLoop (h : Clients s clients) (fds : FdSet) (stale : SrsClientInfo)
    (outcomes : ℕ → ReadOutcome) (k : ℕ) : ∃ t fds' out,
      (∀ fuel, clients.length + (ready clients fds).length + 1 < fuel →
        srsClientReadLoop stale outcomes fuel k fds s = some (t, fds', out)) ∧
          recvCalls out = (ready clients fds).map (some ·.1) ∧
            ∀ fd, fd ∈ fds'.fds ↔ fd ∈ fds.fds ∧ fd ∉ (ready clients fds).map Prod.snd := by
  induction hready : ready clients fds generalizing s clients fds k with
  | nil =>
    refine ⟨s, fds, [], fun fuel hfuel => ?_, rfl, fun fd => ?_⟩
    · obtain ⟨fuel, rfl⟩ := Nat.exists_eq_add_one.mpr (Nat.zero_lt_of_lt hfuel)
      rw [srsClientReadLoop, h.getFdSet (by simpa using hfuel), hready]
      rfl
    · exact (and_iff_left List.not_mem_nil).symm
  | cons c rest ih =>
    have hc : c ∈ ready clients fds := hready ▸ List.mem_cons_self
    rw [ready, List.mem_filter, decide_eq_true_iff] at hc
    obtain ⟨xs, ys, rfl⟩ := List.append_of_mem hc.1
    obtain ⟨t, out, clients, hturn, hclients, hleft, hout⟩ := h.readTurn stale (outcomes k)
    obtain ⟨u, fds', outs, hloop, hcalls, hfds⟩ :=
      ih hclients (fds.clear c.2) (k + 1) (ready_clear h.distinct hready hleft)
    refine ⟨u, fds', out ++ outs, fun fuel hfuel => ?_, ?_, fun fd => ?_⟩
    · obtain ⟨fuel, rfl⟩ := Nat.exists_eq_add_one.mpr (Nat.zero_lt_of_lt hfuel)
      rw [List.length_cons] at hfuel
      have hlength : clients.length ≤ (xs ++ c :: ys).length := by
        rcases hleft with rfl | rfl
        · exact le_rfl
        · exact List.Sublist.length_le (List.Sublist.append_left (List.sublist_cons_self c ys) xs)
      rw [srsClientReadLoop, h.getFdSet (by omega), hready, Option.bind_eq_bind, Option.bind_some]
      dsimp only [List.head?_cons]
      rw [if_neg (Int32.not_lt.mpr (fds.nonneg c.2 hc.2)), hturn fuel (by omega), Option.bind_eq_bind,
        Option.bind_some]
      dsimp only
      rw [hloop fuel (by omega)]
      rfl
    · rw [recvCalls, List.filterMap_append, ← recvCalls, ← recvCalls, hout, hcalls]
      rfl
    · rw [hfds, FdSet.clear, Finset.mem_erase, List.map_cons, List.mem_cons, not_or]
      exact ⟨fun h => ⟨h.1.2, h.1.1, h.2⟩, fun h => ⟨⟨h.2.1, h.1⟩, h.2.2⟩⟩

end Loop

/-- **The read loop** ends, has received once from each client whose descriptor is in the set, in order,
and leaves none of these descriptors in it, as long as no message lacks data that its handler reads: at
such a message the process ends. -/
theorem srsClientReadLoop_visits {s : ListMemory SrsClientInfo} {clients : List (Address × Int32)}
    (h : Clients s clients) (fds : FdSet) (stale : SrsClientInfo) (outcomes : ℕ → ReadOutcome) :
    ∃ n t fds' out,
      (∀ fuel, n ≤ fuel → srsClientReadLoop stale outcomes fuel 0 fds s = some (t, fds', out)) ∧
        recvCalls out = (clients.filter fun c => c.2 ∈ fds.fds).map (some ·.1) ∧
          ∀ fd, fd ∈ fds'.fds ↔ fd ∈ fds.fds ∧ fd ∉ clients.map Prod.snd := by
  obtain ⟨t, fds', out, hloop, hcalls, hfds⟩ := h.readLoop fds stale outcomes 0
  refine ⟨_, t, fds', out, hloop, hcalls, fun fd => ?_⟩
  rw [hfds]
  refine and_congr_right fun hfd => not_congr ⟨fun hmem => ?_, fun hmem => ?_⟩
  · exact (List.filter_sublist.map Prod.snd).subset hmem
  · obtain ⟨c, hc, rfl⟩ := List.mem_map.mp hmem
    exact List.mem_map_of_mem (List.mem_filter.mpr ⟨hc, decide_eq_true hfd⟩)

/-- Of two clients the second is ready. -/
theorem srsClientReadLoop_visits_second : ∃ s, Clients s [(1, 5), (2, 6)] ∧
    ∃ fds : FdSet, fds.fds = {6} ∧ ∀ stale outcomes, ∃ n t fds' out,
      (∀ fuel, n ≤ fuel → srsClientReadLoop stale outcomes fuel 0 fds s = some (t, fds', out)) ∧
        recvCalls out = [some 2] ∧ 6 ∉ fds'.fds := by
  obtain ⟨u, hregister, hone⟩ := clients_init.register 5 1 1 rfl rfl List.not_mem_nil
  have hfree : (srsClientRegister 1 (⟨5, 0⟩ : SrsClientInfo) 1 1 .init).map
    (fun t => (t.entries 2, t.lists 2)) = some (none, none) := rfl
  rw [hregister 1 (by decide), Option.map_some, Option.some.injEq, Prod.mk.injEq] at hfree
  obtain ⟨s, -, htwo⟩ := hone.register 6 2 2 hfree.1 hfree.2 (by decide)
  have hnonneg : ∀ fd ∈ ({6} : Finset Int32), 0 ≤ fd := by
    intro fd hfd
    rw [Finset.mem_singleton.mp hfd]
    decide
  refine ⟨s, htwo, ⟨{6}, hnonneg⟩, rfl, fun stale outcomes => ?_⟩
  obtain ⟨n, t, fds', out, hloop, hcalls, hfds⟩ :=
    srsClientReadLoop_visits htwo ⟨{6}, hnonneg⟩ stale outcomes
  exact ⟨n, t, fds', out, hloop, hcalls, fun hmem => ((hfds 6).mp hmem).2 (by decide)⟩

end Mocha.Ril.ListHead
