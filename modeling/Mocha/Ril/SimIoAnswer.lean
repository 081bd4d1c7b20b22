import Mocha.Ril.SimIoQueue

/-! Whether the answer to a SIM I/O request comes back to it. `ril_request_sim_io_complete` decides by
the command what is sent, `sim_parse_event` by the type and the file id of an event where it goes:
they agree except for commands of which nothing is sent, and for reading the file with the service
centre's number. -/
namespace Mocha.Ril
open Mocha.Lib Mocha.Ipc

/-- An event from the modem: `sim_parse_event` and, of the callbacks, those of SIM I/O. -/
def simModemEvent (s : SimIoData) (ev : SimEvent) : SimIoData × List SimIoEffect :=
  match simParseEvent ev with
  | .simSmscNumber => ipcSimSmscNumber s ev
  | .simIoResponse => ipcSimIoResponse s ev
  | .request r => (s, [.request r])
  | _ => (s, [])

/-- The module together with the requests the modem has not answered yet, each with the token it was
sent for. -/
structure SimIoSystem where
  ril : SimIoData
  unanswered : List (RilToken × SimRequest)

def SimIoSystem.init : SimIoSystem := ⟨.init, []⟩

inductive SimIoSystemEvent
  | rilRequestSimIo (t : SimIoToken) (data : Option RilSimIoV6)
  | answer (t : RilToken) (r : SimRequest) (ev : SimEvent)
  | event (ev : SimEvent)

def SimIoSystemEvent.registered : SimIoSystemEvent → Option SimIoCall
  | .rilRequestSimIo t data => (SimIoEvent.rilRequestSimIo t data).registered
  | _ => none

/-- The request that a call sends, with its token. -/
def SimIoCall.sent (c : SimIoCall) : Option (RilToken × SimRequest) := c.request.map (c.t, ·)

/-- What the modem has to answer after a handler has returned. -/
def SimIoSystem.after (r : SimIoData × List SimIoEffect)
    (unanswered : List (RilToken × SimRequest)) : SimIoSystem :=
  ⟨r.1, unanswered ++ (r.2.filterMap SimIoEffect.handed).filterMap SimIoCall.sent⟩

/-- Requests, answers of the modem, and events that answer nothing. -/
inductive SimIoSystemStep : SimIoSystem → SimIoSystemEvent × List SimIoEffect → SimIoSystem → Prop
  | request (s : SimIoSystem) (t : SimIoToken) (data : Option RilSimIoV6) :
      SimIoSystemStep s (.rilRequestSimIo t data, (rilRequestSimIo s.ril t.1 data).2)
        (.after (rilRequestSimIo s.ril t.1 data) s.unanswered)
  | answer (s : SimIoSystem) (t : RilToken) (r : SimRequest) (ev : SimEvent) :
      (t, r) ∈ s.unanswered → r.Answers ev →
      SimIoSystemStep s (.answer t r ev, (simModemEvent s.ril ev).2)
        (.after (simModemEvent s.ril ev) (s.unanswered.erase (t, r)))
  | event (s : SimIoSystem) (ev : SimEvent) :
      SimIoSystemStep s (.event ev, (simModemEvent s.ril ev).2)
        (.after (simModemEvent s.ril ev) s.unanswered)

/-- `r` is what was sent for the entry, whose data has been released since. -/
def SimRequest.SentFor (r : SimRequest) (info : RilRequestSimIoInfo) : Prop :=
  ∃ sent : RilRequestSimIoInfo, sent.handedOver = info.handedOver ∧ sent.call.request = some r

/-- A request for the entry in the slot has been sent and not been answered, and any answer to it
completes the entry and leaves the slot to the next one. -/
def SimIoSystem.Answerable (s : SimIoSystem) : Prop :=
  s.ril.Busy → ∃ info rest r, s.ril.simIo = info :: rest ∧ info.token = s.ril.tokenSimIo ∧
    SimRequest.SentFor r info ∧ (info.token, r) ∈ s.unanswered ∧ ∀ ev, r.Answers ev →
      (simModemEvent s.ril ev).2.filterMap SimIoEffect.completed = [info.token] ∧
      (simModemEvent s.ril ev).1.simIo.map (·.handedOver) = rest.map (·.handedOver) ∧
      (simModemEvent s.ril ev).1.tokenSimIo = (rest.head?.map (·.token)).getD rilTokenNull

/-- The commands that lead to a request whose answer comes back. -/
def SimIoCall.Supported (c : SimIoCall) : Prop :=
  c.command ∈ [simCommandUpdateRecord, simCommandUpdateBinary, simCommandSeek] ∨
    c.command ∈ [simCommandGetResponse, simCommandReadRecord, simCommandReadBinary] ∧
      c.fileid.toUInt32.toUInt16 ≠ 0x6F42

/-- The answers to a request come back to SIM I/O. -/
def Routed (r : SimRequest) : Prop := ∀ ev, r.Answers ev → simParseEvent ev = .simIoResponse

/-- The encoder and the router agree on supported commands. -/
theorem SimIoCall.Supported.routed {c : SimIoCall} (h : c.Supported) :
    ∃ r, c.request = some r ∧ Routed r := by
  rcases h with h | ⟨h, hfile⟩
  · simp only [List.mem_cons, List.not_mem_nil, or_false] at h
    rcases h with h | h | h <;> refine ⟨_, by rw [SimIoCall.request, h]; rfl, fun ev hev => ?_⟩ <;>
      · rw [simParseEvent, hev]
        rfl
  · simp only [List.mem_cons, List.not_mem_nil, or_false] at h
    rcases h with h | h | h <;> refine ⟨_, by rw [SimIoCall.request, h]; rfl, fun ev hev => ?_⟩ <;>
      · rw [simParseEvent, hev.1]
        exact if_neg (hev.2.trans_ne hfile)

/-- The first entry after a handler has returned: it is the one that was first before, with the slot
left alone, or it has just been handed over. -/
def FirstKept (s : SimIoData) (r : SimIoData × List SimIoEffect) : Prop :=
  r.1.tokenSimIo = s.tokenSimIo ∧ r.1.simIo.head? = s.simIo.head?

def FirstHanded (r : SimIoData × List SimIoEffect) : Prop :=
  ∃ info : RilRequestSimIoInfo, r.1.simIo.head? = some info.handedOver ∧
    info.call ∈ r.2.filterMap SimIoEffect.handed

section Slot

variable {s : SimIoData}

theorem rilRequestSimIoNext_first (s : SimIoData) (hb : (rilRequestSimIoNext s).1.Busy) :
    FirstHanded (rilRequestSimIoNext s) := by
  unfold rilRequestSimIoNext at hb ⊢
  cases hlist : s.simIo with
  | nil =>
    rw [hlist] at hb
    exact absurd rfl hb.1
  | cons info rest =>
    refine ⟨info, rfl, ?_⟩
    rw [(handed_rilRequestSimIoComplete info.call).1]
    exact List.mem_singleton_self _

theorem rilRequestSimIo_first (h : s.WellFormed) (t : SimIoToken) (data : Option RilSimIoV6)
    (hb : (rilRequestSimIo s t.1 data).1.Busy) :
    FirstKept s (rilRequestSimIo s t.1 data) ∨ FirstHanded (rilRequestSimIo s t.1 data) := by
  unfold rilRequestSimIo at hb ⊢
  cases hinfo : simIoInfo t.1 data with
  | none => exact .inl ⟨rfl, rfl⟩
  | some info =>
    simp only [hinfo] at hb ⊢
    split_ifs at hb ⊢ with hslot
    · obtain ⟨i, rest, hlist, -⟩ := h.head_of_busy hb
      exact .inl ⟨rfl, by simp [rilRequestSimIoRegister, hlist]⟩
    · exact absurd rfl hb.2
    · refine .inr ⟨info, by simp [h.null_iff.mp (not_not.mp hslot)], ?_⟩
      rw [(handed_rilRequestSimIoComplete info.call).1]
      exact List.mem_singleton_self _

theorem ipcSimIoResponse_first (s : SimIoData) (ev : SimEvent)
    (hb : (ipcSimIoResponse s ev).1.Busy) : FirstHanded (ipcSimIoResponse s ev) := by
  unfold ipcSimIoResponse at hb ⊢
  cases hfind : rilRequestSimIoInfoFindToken s s.tokenSimIo with
  | none =>
    simp only [hfind] at hb ⊢
    exact rilRequestSimIoNext_first s hb
  | some info =>
    simp only [hfind] at hb ⊢
    exact rilRequestSimIoNext_first _ hb

theorem ipcSimSmscNumber_first (s : SimIoData) (ev : SimEvent)
    (hb : (ipcSimSmscNumber s ev).1.Busy) :
    FirstKept s (ipcSimSmscNumber s ev) ∨ FirstHanded (ipcSimSmscNumber s ev) := by
  unfold ipcSimSmscNumber at hb ⊢
  dsimp only at hb ⊢
  split_ifs at hb ⊢
  · exact .inr (rilRequestSimIoNext_first _ hb)
  · exact .inl ⟨rfl, rfl⟩
  · exact .inl ⟨rfl, rfl⟩

theorem simModemEvent_spec (h : s.WellFormed) (ev : SimEvent) :
    (simModemEvent s ev).1.WellFormed ∧
      s.notHanded.map (·.call) = (simModemEvent s ev).2.filterMap SimIoEffect.handed ++
        (simModemEvent s ev).1.notHanded.map (·.call) := by
  unfold simModemEvent
  split
  · exact ipcSimSmscNumber_spec h ev
  · exact ipcSimIoResponse_spec h ev
  · exact ⟨h, rfl⟩
  · exact ⟨h, rfl⟩

theorem simModemEvent_first (s : SimIoData) (ev : SimEvent) (hb : (simModemEvent s ev).1.Busy) :
    FirstKept s (simModemEvent s ev) ∨ FirstHanded (simModemEvent s ev) := by
  unfold simModemEvent at hb ⊢
  split at hb
  · exact ipcSimSmscNumber_first s ev hb
  · exact .inr (ipcSimIoResponse_first s ev hb)
  · exact .inl ⟨rfl, rfl⟩
  · exact .inl ⟨rfl, rfl⟩

end Slot

/-- Supported requests wait, and the one in the slot has been sent. -/
structure SimIoSystem.Inv (s : SimIoSystem) : Prop where
  wellFormed : s.ril.WellFormed
  supported : ∀ c ∈ s.ril.notHanded.map (·.call), c.Supported
  routed : ∀ p ∈ s.unanswered, Routed p.2
  sent : s.ril.Busy → ∃ info r, s.ril.simIo.head? = some info ∧ SimRequest.SentFor r info ∧
    (info.token, r) ∈ s.unanswered

/-- The invariant after a handler has returned: what joins the list is supported, and the first
entry is kept or has just been handed over. -/
theorem SimIoSystem.Inv.after {s : SimIoSystem} (h : s.Inv) {r : SimIoData × List SimIoEffect}
    {joined : List SimIoCall} {unanswered : List (RilToken × SimRequest)}
    (hjoined : ∀ c ∈ joined, c.Supported) (hwf : r.1.WellFormed)
    (hcalls : s.ril.notHanded.map (·.call) ++ joined =
      r.2.filterMap SimIoEffect.handed ++ r.1.notHanded.map (·.call))
    (hun : ∀ p ∈ unanswered, p ∈ s.unanswered)
    (hfirst : r.1.Busy → FirstKept s.ril r ∧ unanswered = s.unanswered ∨ FirstHanded r) :
    (SimIoSystem.after r unanswered).Inv := by
  have hall : ∀ c ∈ r.2.filterMap SimIoEffect.handed ++ r.1.notHanded.map (·.call),
      c.Supported := by
    rw [← hcalls]
    exact List.forall_mem_append.mpr ⟨h.supported, hjoined⟩
  obtain ⟨hhanded, hnot⟩ := List.forall_mem_append.mp hall
  refine ⟨hwf, hnot, List.forall_mem_append.mpr ⟨fun p hp => h.routed p (hun p hp), ?_⟩, ?_⟩
  · intro p hp
    obtain ⟨c, hc, hsent⟩ := List.mem_filterMap.mp hp
    obtain ⟨request, hrequest, hrouted⟩ := (hhanded c hc).routed
    rw [SimIoCall.sent, hrequest, Option.map_some, Option.some.injEq] at hsent
    exact hsent ▸ hrouted
  · intro hb
    rcases hfirst hb with ⟨⟨hslot, hhead⟩, rfl⟩ | ⟨info, hhead, hcall⟩
    · have hb' : s.ril.Busy := by
        unfold SimIoData.Busy
        rw [← hslot]
        exact hb
      obtain ⟨info, request, hinfo, hfor, hmem⟩ := h.sent hb'
      exact ⟨info, request, hhead.trans hinfo, hfor, List.mem_append_left _ hmem⟩
    · obtain ⟨request, hrequest, -⟩ := (hhanded _ hcall).routed
      refine ⟨info.handedOver, request, hhead, ⟨info, rfl, hrequest⟩, List.mem_append_right _ ?_⟩
      refine List.mem_filterMap.mpr ⟨info.call, hcall, ?_⟩
      rw [SimIoCall.sent, hrequest]
      rfl

/-- Only requests with a supported command join the list. -/
def RegistersSupported (_ : SimIoSystem) (a : SimIoSystemEvent × List SimIoEffect) : Prop :=
  ∀ c, a.1.registered = some c → c.Supported

theorem simIoSystemStep_inv {s t : SimIoSystem} {a : SimIoSystemEvent × List SimIoEffect}
    (hs : s.Inv) (ha : RegistersSupported s a) (h : SimIoSystemStep s a t) : t.Inv := by
  cases h with
  | request token data =>
    obtain ⟨hwf, hcalls⟩ := rilRequestSimIo_spec hs.wellFormed token data
    refine hs.after (fun c hc => ha c (Option.mem_toList.mp hc)) hwf hcalls (fun _ hp => hp)
      fun hb => ?_
    exact (rilRequestSimIo_first hs.wellFormed token data hb).imp_left fun h => ⟨h, rfl⟩
  | answer token r ev hmem hev =>
    obtain ⟨hwf, hcalls⟩ := simModemEvent_spec hs.wellFormed ev
    refine hs.after (by simp) hwf ((List.append_nil _).trans hcalls)
      (fun p hp => List.mem_of_mem_erase hp) fun hb => .inr ?_
    have hroute := hs.routed _ hmem ev hev
    simp only [simModemEvent, hroute] at hb ⊢
    exact ipcSimIoResponse_first s.ril ev hb
  | event ev =>
    obtain ⟨hwf, hcalls⟩ := simModemEvent_spec hs.wellFormed ev
    refine hs.after (by simp) hwf ((List.append_nil _).trans hcalls)
      (fun _ hp => hp) fun hb => ?_
    exact (simModemEvent_first s.ril ev hb).imp_left fun h => ⟨h, rfl⟩

theorem SimIoSystem.Inv.answerable {s : SimIoSystem} (h : s.Inv) : s.Answerable := by
  intro hb
  obtain ⟨info, r, hhead, hfor, hmem⟩ := h.sent hb
  obtain ⟨info', rest, hlist, hslot⟩ := h.wellFormed.head_of_busy hb
  obtain rfl : info' = info := by simpa [hlist] using hhead
  refine ⟨info', rest, r, hlist, hslot, hfor, hmem, fun ev hev => ?_⟩
  have hroute : simParseEvent ev = .simIoResponse := h.routed _ hmem ev hev
  have hevent : simModemEvent s.ril ev = ipcSimIoResponse s.ril ev := by
    simp only [simModemEvent, hroute]
  obtain ⟨first, rest', hlist', -, hanswered⟩ := ipcSimIoResponse_answered h.wellFormed hb ev
  obtain ⟨rfl, rfl⟩ := List.cons_eq_cons.mp (hlist.symm.trans hlist')
  rwa [hevent]

/-- **In every state that is reached with supported commands only**, the request in the slot is
answered when the modem's answer comes. -/
theorem simIo_answerable {tr : List (SimIoSystemEvent × List SimIoEffect)} {s : SimIoSystem}
    (h : Run (Step.when SimIoSystemStep RegistersSupported) .init tr s) : s.Answerable := by
  have hinit : SimIoSystem.init.Inv := by
    have hidle : ¬SimIoSystem.init.ril.Busy := fun hb => hb.1 rfl
    refine ⟨SimIoData.init_wellFormed, ?_, by simp [SimIoSystem.init], fun hb => absurd hb hidle⟩
    rw [SimIoData.notHanded_of_not_busy hidle]
    simp [SimIoSystem.init, SimIoData.init]
  exact (h.invariant SimIoSystem.Inv (fun s a t hs h => simIoSystemStep_inv hs h.1 h.2)
    hinit).answerable

/-- The file info of file 0x6F07 is asked for, and read as soon as the modem sends the number. -/
theorem simIo_answerable_fileInfo :
    (SimIoSystem.after
      (simModemEvent (rilRequestSimIo .init 1 simIoFileInfo).1 smscEvent) []).Answerable := by
  have hrequest : Step.when SimIoSystemStep RegistersSupported .init
      (.rilRequestSimIo ⟨1, by decide⟩ simIoFileInfo, (rilRequestSimIo .init 1 simIoFileInfo).2)
      (.after (rilRequestSimIo .init 1 simIoFileInfo) []) := by
    refine ⟨fun c hc => ?_, .request .init ⟨1, by decide⟩ simIoFileInfo⟩
    obtain rfl := Option.some.inj hc
    exact .inr ⟨by decide, by decide⟩
  have hevent : Step.when SimIoSystemStep RegistersSupported
      (.after (rilRequestSimIo .init 1 simIoFileInfo) [])
      (.event smscEvent, (simModemEvent (rilRequestSimIo .init 1 simIoFileInfo).1 smscEvent).2)
      (.after (simModemEvent (rilRequestSimIo .init 1 simIoFileInfo).1 smscEvent) []) := by
    refine ⟨fun c hc => ?_, .event (.after (rilRequestSimIo .init 1 simIoFileInfo) []) smscEvent⟩
    cases hc
  exact simIo_answerable ((Run.one hrequest).snoc hevent)

/-- A STATUS command is accepted and handed over, but nothing is sent. -/
theorem not_answerable_status :
    ¬∀ (tr : List (SimIoSystemEvent × List SimIoEffect)) (s : SimIoSystem),
      Run SimIoSystemStep .init tr s → s.Answerable := by
  intro h
  have hrequest := SimIoSystemStep.request .init ⟨1, by decide⟩
    (some ⟨0xF2, 0x3F00, 0, 0, 0, none, none⟩)
  have hevent := SimIoSystemStep.event
    (.after (rilRequestSimIo .init 1 (some ⟨0xF2, 0x3F00, 0, 0, 0, none, none⟩)) []) smscEvent
  obtain ⟨info, rest, r, -, -, -, hmem, -⟩ := h _ _ ((Run.one hrequest).snoc hevent) (by decide)
  cases hmem

end Mocha.Ril
