import Mocha.Ril.ListHead
import Mocha.Ril.SrsDispatch

/-! How a message is sent to a client of the SRS socket, and what is cleaned up when that fails. The
client's record is freed before its descriptor is read from it: what is closed is whatever the memory
holds by then. -/
namespace Mocha.Ril.ListHead
open Mocha.Lib

/-- `struct srs_client_info` -/
structure SrsClientInfo where
  fd : Int32
  type : Int32
deriving DecidableEq

/-- What is done with the clients and their sockets. -/
inductive SrsEvent
  | recv (client : Option Address)
  | write (fd : Int32) (bytes : List UInt8)
  | close (fd : Int32)
deriving DecidableEq

/-- The descriptors that are closed. -/
def closed (out : List SrsEvent) : List Int32 :=
  out.filterMap fun
    | .close fd => some fd
    | _ => none

/-- What the system says when a message is sent: whether there is a buffer for it, whether the socket
can be written to, and what `write()` returns. -/
structure SendOutcome where
  data : Bool
  writable : Bool
  written : Int32

/-- `srs_client_send_message`, for a client with a descriptor. -/
def srsClientSendMessage (m : SrsMessage) (o : SendOutcome) (fd : Int32) : Int32 × List SrsEvent :=
  if o.data = false then (-1, [])
  else if fd < 0 then (0, [])
  else if o.writable = false then (0, [])
  else if o.written < 6 then (0, [.write fd (Ril.srsClientSendMessage m)])
  else (o.written, [.write fd (Ril.srsClientSendMessage m)])

/-- `srs_client_send`. A null pointer has no descriptor to log; `stale` is what is read where a record
was. -/
def srsClientSend (stale : SrsClientInfo) (fuel : ℕ) (client : Option Address) (m : SrsMessage)
    (o : SendOutcome) (s : ListMemory SrsClientInfo) :
    Option (Int32 × ListMemory SrsClientInfo × List SrsEvent) := do
  let c ← client
  let info ← s.entries c
  let (rc, out) := srsClientSendMessage m o info.fd
  if rc ≤ 0 then do
    let t ← srsClientUnregister fuel client s
    let fd := ((t.entries c).getD stale).fd
    some (rc, t, out ++ [.close fd])
  else some (rc, s, out)

/-- The clients, each with the descriptor it is registered with. -/
structure Clients (s : ListMemory SrsClientInfo) (clients : List (Address × Int32)) : Prop where
  holds : ∃ cells, Holds s .clients cells ∧ cells.map Prod.snd = clients.map Prod.fst
  fd : ∀ c ∈ clients, (s.entries c.1).map SrsClientInfo.fd = some c.2
  distinct : (clients.map Prod.snd).Nodup

/-- A failure removes the client, and closes its descriptor; else nothing changes. -/
def SendsCleanly (s : ListMemory SrsClientInfo) (clients : List (Address × Int32))
    (c : Address × Int32) (m : SrsMessage) (o : SendOutcome) : Prop :=
  ∀ stale, ∃ rc t out,
    (∃ n, ∀ fuel, n ≤ fuel → srsClientSend stale fuel (some c.1) m o s = some (rc, t, out)) ∧
      (rc ≤ 0 → Clients t (clients.erase c) ∧ closed out = [c.2]) ∧
        (0 < rc → t = s ∧ closed out = [])

/-- The message can be sent. -/
def SendOutcome.Sent (o : SendOutcome) (fd : Int32) : Prop :=
  o.data = true ∧ 0 ≤ fd ∧ o.writable = true ∧ 6 ≤ o.written

section Clients

variable {s : ListMemory SrsClientInfo} {clients xs ys : List (Address × Int32)} {c : Address × Int32}

theorem Clients.nodup (h : Clients s clients) : clients.Nodup := .of_map _ h.distinct

theorem Clients.cells (h : Clients s clients) : ∃ cells,
    Holds s .clients cells ∧ cells.map Prod.snd = clients.map Prod.fst ∧
      cells.length = clients.length := by
  obtain ⟨cells, hholds, hcells⟩ := h.holds
  refine ⟨cells, hholds, hcells, ?_⟩
  rw [← List.length_map Prod.snd, hcells, List.length_map]

theorem Clients.entries_nodup (h : Clients s clients) : (clients.map Prod.fst).Nodup := by
  obtain ⟨cells, hholds, hcells⟩ := h.holds
  exact hcells ▸ hholds.entries_nodup

theorem Clients.isSome (h : Clients s clients) (hc : c ∈ clients) : (s.entries c.1).isSome := by
  rw [← Option.isSome_map (f := SrsClientInfo.fd), h.fd c hc]
  rfl

theorem clients_init : Clients .init [] where
  holds := ⟨[], ⟨rfl, trivial, .nil, .nil⟩, rfl⟩
  fd _ hc := nomatch hc
  distinct := .nil

/-- A client is registered with a descriptor that no other client has. -/
theorem Clients.register (h : Clients s clients) (fd : Int32) (entry list : Address)
    (hentry : s.entries entry = none) (hlist : s.lists list = none)
    (hfd : fd ∉ clients.map Prod.snd) : ∃ t,
      (∀ fuel, clients.length < fuel → srsClientRegister fuel ⟨fd, 0⟩ entry list s = some t) ∧
        Clients t (clients ++ [(entry, fd)]) := by
  have hnew : entry ∉ clients.map Prod.fst := by
    intro hmem
    obtain ⟨c, hc, rfl⟩ := List.mem_map.mp hmem
    exact Option.not_isSome_iff_eq_none.mpr hentry (h.isSome hc)
  obtain ⟨cells, hholds, hcells, hlength⟩ := h.cells
  obtain ⟨t, ht, hregistered, hentries, -⟩ :=
    hholds.register (⟨fd, 0⟩ : SrsClientInfo) hlist (hcells ▸ hnew)
  refine ⟨t, fun fuel hfuel => ht fuel (hlength ▸ hfuel), ⟨⟨_, hregistered, ?_⟩, ?_, ?_⟩⟩
  · rw [List.map_append, hcells, List.map_append]
    rfl
  · intro c hc
    rw [hentries]
    rcases List.mem_append.mp hc with hc | hc
    · rw [Function.update_of_ne (ne_of_mem_of_not_mem (List.mem_map_of_mem hc) hnew)]
      exact h.fd c hc
    · obtain rfl := List.mem_singleton.mp hc
      rw [Function.update_self]
      rfl
  · rw [List.map_append, List.nodup_append_comm]
    exact List.nodup_cons.mpr ⟨hfd, h.distinct⟩

/-- A client is unregistered, from whatever place it has. -/
theorem Clients.unregister (h : Clients s (xs ++ c :: ys)) : ∃ t,
    (∀ fuel, (xs ++ c :: ys).length < fuel → srsClientUnregister fuel (some c.1) s = some t) ∧
      Clients t (xs ++ ys) ∧ t.entries = Function.update s.entries c.1 none := by
  have hperm : (xs ++ c :: ys).Perm (c :: (xs ++ ys)) := List.perm_middle
  obtain ⟨hnew, -⟩ := List.nodup_cons.mp ((hperm.map Prod.fst).nodup_iff.mp h.entries_nodup)
  obtain ⟨-, hdistinct⟩ := List.nodup_cons.mp ((hperm.map Prod.snd).nodup_iff.mp h.distinct)
  have hlive := h.isSome (hperm.mem_iff.mpr List.mem_cons_self)
  obtain ⟨cells, hholds, hcells, hlength⟩ := h.cells
  rw [List.map_append, List.map_cons] at hcells
  obtain ⟨as, bs', rfl, has, hbs'⟩ := List.map_eq_append_iff.mp hcells
  obtain ⟨⟨list, entry⟩, bs, rfl, rfl, hbs⟩ := List.map_eq_cons_iff.mp hbs'
  obtain ⟨t, ht, hleft, hentries, -⟩ := hholds.unregister hlive
  refine ⟨t, fun fuel hfuel => ht fuel (hlength ▸ hfuel), ⟨⟨as ++ bs, hleft, ?_⟩, ?_, ?_⟩, hentries⟩
  · rw [List.map_append, has, hbs, List.map_append]
  · intro d hd
    have hne : d.1 ≠ c.1 := fun heq => hnew (heq ▸ List.mem_map_of_mem hd)
    rw [hentries, Function.update_of_ne hne]
    exact h.fd d (hperm.mem_iff.mpr (List.mem_cons_of_mem _ hd))
  · exact hdistinct

end Clients

section Send

variable {s : ListMemory SrsClientInfo} {clients : List (Address × Int32)} {c : Address × Int32}
  {m : SrsMessage} {o : SendOutcome}

theorem srsClientSendMessage_pos (fd : Int32) : 0 < (srsClientSendMessage m o fd).1 ↔ o.Sent fd := by
  unfold srsClientSendMessage SendOutcome.Sent
  split_ifs with hdata hfd hwritable hwritten
  · exact iff_of_false (by decide) fun h => Bool.false_ne_true (hdata.symm.trans h.1)
  · exact iff_of_false (by decide) fun h => Int32.not_lt.mpr h.2.1 hfd
  · exact iff_of_false (by decide) fun h => Bool.false_ne_true (hwritable.symm.trans h.2.2.1)
  · exact iff_of_false Int32.lt_irrefl fun h => Int32.not_lt.mpr h.2.2.2 hwritten
  · refine iff_of_true (Int32.lt_of_lt_of_le (by decide) (Int32.not_lt.mp hwritten)) ⟨?_, ?_, ?_, ?_⟩
    · exact eq_true_of_ne_false hdata
    · exact Int32.not_lt.mp hfd
    · exact eq_true_of_ne_false hwritable
    · exact Int32.not_lt.mp hwritten

theorem closed_srsClientSendMessage (fd : Int32) : closed (srsClientSendMessage m o fd).2 = [] := by
  unfold srsClientSendMessage
  split_ifs <;> rfl

theorem closed_close (fd fd' : Int32) :
    closed ((srsClientSendMessage m o fd).2 ++ [.close fd']) = [fd'] := by
  rw [closed, List.filterMap_append, ← closed, closed_srsClientSendMessage]
  rfl

/-- What is sent changes nothing. -/
theorem srsClientSend_sent (h : Clients s clients) (hc : c ∈ clients) (hsent : o.Sent c.2)
    (stale : SrsClientInfo) (fuel : ℕ) : srsClientSend stale fuel (some c.1) m o s =
      some ((srsClientSendMessage m o c.2).1, s, (srsClientSendMessage m o c.2).2) := by
  obtain ⟨info, hinfo, hfd⟩ := Option.map_eq_some_iff.mp (h.fd c hc)
  have hrc := Int32.not_le.mpr ((srsClientSendMessage_pos (m := m) c.2).mpr hsent)
  simp only [srsClientSend, Option.bind_eq_bind, Option.bind_some, hinfo, hfd]
  exact if_neg hrc

/-- What is not sent costs the client its registration, and some descriptor is closed. -/
theorem srsClientSend_failed (h : Clients s clients) (hc : c ∈ clients) (hsent : ¬ o.Sent c.2) :
    ∃ t, Clients t (clients.erase c) ∧ ∀ stale fuel, clients.length < fuel →
      srsClientSend stale fuel (some c.1) m o s =
        some ((srsClientSendMessage m o c.2).1, t,
          (srsClientSendMessage m o c.2).2 ++ [.close stale.fd]) := by
  obtain ⟨xs, ys, rfl⟩ := List.append_of_mem hc
  obtain ⟨info, hinfo, hfd⟩ := Option.map_eq_some_iff.mp (h.fd c hc)
  obtain ⟨t, ht, hclients, hentries⟩ := h.unregister
  have hrc := Int32.not_lt.mp (mt (srsClientSendMessage_pos (m := m) c.2).mp hsent)
  refine ⟨t, erase_middle h.nodup ▸ hclients, fun stale fuel hfuel => ?_⟩
  simp only [srsClientSend, Option.bind_eq_bind, Option.bind_some, hinfo, hfd]
  rw [if_pos hrc, ht fuel hfuel, Option.bind_some, hentries, Function.update_self]
  rfl

/-- Where the message is not sent it is not the client's descriptor that is closed. -/
theorem sent_of_sendsCleanly (h : Clients s clients) (hc : c ∈ clients)
    (hcleanly : SendsCleanly s clients c m o) : o.Sent c.2 := by
  by_contra hsent
  obtain ⟨t, -, hfailed⟩ := srsClientSend_failed (m := m) h hc hsent
  -- the memory may hold another descriptor by then
  obtain ⟨fd, hfd⟩ : ∃ fd, fd ≠ c.2 := by
    by_cases hzero : c.2 = 0
    · exact ⟨1, hzero ▸ by decide⟩
    · exact ⟨0, Ne.symm hzero⟩
  obtain ⟨rc, t', out, ⟨n, hn⟩, hclean, -⟩ := hcleanly ⟨fd, 0⟩
  have hcall := (hfailed ⟨fd, 0⟩ (max n (clients.length + 1))
    (Nat.lt_of_succ_le (le_max_right _ _))).symm.trans (hn _ (le_max_left _ _))
  obtain ⟨rfl, rfl, rfl⟩ : (srsClientSendMessage m o c.2).1 = rc ∧ t = t' ∧
      (srsClientSendMessage m o c.2).2 ++ [.close fd] = out := by
    rwa [Option.some.injEq, Prod.mk.injEq, Prod.mk.injEq] at hcall
  have hrc := Int32.not_lt.mp (mt (srsClientSendMessage_pos (m := m) c.2).mp hsent)
  obtain ⟨-, hclosed⟩ := hclean hrc
  rw [closed_close] at hclosed
  exact hfd (List.singleton_inj.mp hclosed)

end Send

/-- **A client** that cannot be written to is removed, but its descriptor is not what is closed: nothing
goes wrong exactly if the message can be sent. -/
theorem sendsCleanly_iff {s : ListMemory SrsClientInfo} {clients : List (Address × Int32)}
    {c : Address × Int32} (h : Clients s clients) (hc : c ∈ clients) (m : SrsMessage)
    (o : SendOutcome) : SendsCleanly s clients c m o ↔ o.Sent c.2 := by
  refine ⟨sent_of_sendsCleanly h hc, fun hsent stale => ?_⟩
  have hrc := (srsClientSendMessage_pos (m := m) c.2).mpr hsent
  refine ⟨_, s, _, ⟨0, fun fuel _ => srsClientSend_sent h hc hsent stale fuel⟩, ?_, ?_⟩
  · exact fun hle => absurd hrc (Int32.not_lt.mpr hle)
  · exact fun _ => ⟨rfl, closed_srsClientSendMessage c.2⟩

/-- A client that can be written to. -/
theorem sendsCleanly_writable : ∃ s, Clients s [(1, 5)] ∧
    SendsCleanly s [(1, 5)] (1, 5) ⟨srsControlPing, 0, none⟩ ⟨true, true, 6⟩ := by
  obtain ⟨s, -, h⟩ := clients_init.register 5 1 1 rfl rfl List.not_mem_nil
  refine ⟨s, h, (sendsCleanly_iff h (List.mem_singleton_self _) _ _).mpr ?_⟩
  exact ⟨rfl, by decide, rfl, by decide⟩

/-- A client that cannot be written to. -/
theorem not_sendsCleanly_blocked : ∃ s, Clients s [(1, 5)] ∧
    ¬ SendsCleanly s [(1, 5)] (1, 5) ⟨srsControlPing, 0, none⟩ ⟨true, false, 0⟩ := by
  obtain ⟨s, -, h⟩ := clients_init.register 5 1 1 rfl rfl List.not_mem_nil
  refine ⟨s, h, fun hcleanly => ?_⟩
  have hsent := sent_of_sendsCleanly h (List.mem_singleton_self _) hcleanly
  exact absurd hsent.2.2.1 (by decide)

end Mocha.Ril.ListHead
