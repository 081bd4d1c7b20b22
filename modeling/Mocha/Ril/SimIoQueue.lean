import Mocha.Ril.SimIo

/-! The SIM I/O list under any order of requests, responses and reads of the service centre's number:
the slot tells which entry is with the modem, and entries are handed over in order. -/
namespace Mocha.Ril
open Mocha.Lib Mocha.Ipc

/-- The slot holds the token of a request. -/
def SimIoData.Busy (s : SimIoData) : Prop :=
  s.tokenSimIo ≠ rilTokenNull ∧ s.tokenSimIo ≠ rilTokenDataWaiting

instance (s : SimIoData) : Decidable s.Busy := inferInstanceAs (Decidable (_ ∧ _))

/-- The three modes of the slot: nothing to do, waiting for the service centre's number, and the
first entry with the modem. -/
inductive SimIoData.Mode (s : SimIoData) : Prop
  | idle : s.tokenSimIo = rilTokenNull → s.simIo = [] → s.Mode
  | dataWaiting : s.tokenSimIo = rilTokenDataWaiting → s.simIo ≠ [] → s.Mode
  | inFlight (info : RilRequestSimIoInfo) (rest : List RilRequestSimIoInfo) :
      s.simIo = info :: rest → s.tokenSimIo = info.token → s.Mode

def ProperToken (t : RilToken) : Prop := t ≠ rilTokenNull ∧ t ≠ rilTokenDataWaiting

structure SimIoData.WellFormed (s : SimIoData) : Prop where
  proper : ∀ info ∈ s.simIo, ProperToken info.token
  mode : s.Mode

/-- The entries that have not been handed over yet. -/
def SimIoData.notHanded (s : SimIoData) : List RilRequestSimIoInfo :=
  if s.Busy then s.simIo.tail else s.simIo

theorem SimIoData.notHanded_of_busy {s : SimIoData} (hb : s.Busy) : s.notHanded = s.simIo.tail :=
  if_pos hb

theorem SimIoData.notHanded_of_not_busy {s : SimIoData} (hb : ¬s.Busy) : s.notHanded = s.simIo :=
  if_neg hb

/-- The call that an accepted request leads to. -/
def SimIoEvent.registered : SimIoEvent → Option SimIoCall
  | .rilRequestSimIo t data => (simIoInfo t.1 data).map (·.call)
  | _ => none

def SimIoEffect.handed : SimIoEffect → Option SimIoCall
  | .simIoComplete c => some c
  | _ => none

def SimIoEffect.completed : SimIoEffect → Option RilToken
  | .complete c => some c.token
  | _ => none

namespace SimIoData.WellFormed

variable {s : SimIoData}

theorem null_iff (h : s.WellFormed) : s.tokenSimIo = rilTokenNull ↔ s.simIo = [] := by
  cases h.mode with
  | idle hslot hlist => exact iff_of_true hslot hlist
  | dataWaiting hslot hlist => exact iff_of_false (by rw [hslot]; decide) hlist
  | inFlight info rest hlist hslot =>
    refine iff_of_false ?_ (by simp [hlist])
    rw [hslot]
    exact (h.proper info (by simp [hlist])).1

theorem head_of_busy (h : s.WellFormed) (hb : s.Busy) :
    ∃ info rest, s.simIo = info :: rest ∧ info.token = s.tokenSimIo := by
  cases h.mode with
  | idle hslot _ => exact absurd hslot hb.1
  | dataWaiting hslot _ => exact absurd hslot hb.2
  | inFlight info rest hlist hslot => exact ⟨info, rest, hlist, hslot.symm⟩

theorem proper_tail (h : s.WellFormed) {info : RilRequestSimIoInfo}
    {rest : List RilRequestSimIoInfo} (hlist : s.simIo = info :: rest) :
    ∀ i ∈ rest, ProperToken i.token := by
  intro i hi
  have hmem : i ∈ s.simIo := by
    rw [hlist]
    exact List.mem_cons_of_mem info hi
  exact h.proper i hmem

theorem findToken_of_busy (h : s.WellFormed) (hb : s.Busy) : ∃ info rest,
    s.simIo = info :: rest ∧ info.token = s.tokenSimIo ∧
      rilRequestSimIoInfoFindToken s s.tokenSimIo = some info := by
  obtain ⟨info, rest, hlist, hslot⟩ := h.head_of_busy hb
  refine ⟨info, rest, hlist, hslot, ?_⟩
  simp [rilRequestSimIoInfoFindToken, hlist, hslot]

theorem findToken_of_not_busy (h : s.WellFormed) (hb : ¬s.Busy) :
    rilRequestSimIoInfoFindToken s s.tokenSimIo = none := by
  rw [rilRequestSimIoInfoFindToken, List.find?_eq_none]
  intro info hinfo htoken
  rw [decide_eq_true_eq] at htoken
  refine hb ?_
  unfold SimIoData.Busy
  rw [← htoken]
  exact h.proper info hinfo

theorem setSmscNumber (h : s.WellFormed) (number : CString) :
    SimIoData.WellFormed { s with smscNumber := number } := by
  refine ⟨h.proper, ?_⟩
  cases h.mode with
  | idle hslot hlist => exact .idle hslot hlist
  | dataWaiting hslot hlist => exact .dataWaiting hslot hlist
  | inFlight info rest hlist hslot => exact .inFlight info rest hlist hslot

end SimIoData.WellFormed

theorem simIoInfo_token {t : RilToken} {data : Option RilSimIoV6} {info : RilRequestSimIoInfo}
    (h : simIoInfo t data = some info) : info.token = t := by
  obtain ⟨simIo, -, h⟩ := Option.bind_eq_some_iff.mp h
  obtain ⟨buffer, -, h⟩ := Option.bind_eq_some_iff.mp h
  split_ifs at h
  obtain rfl := Option.some.inj h
  rfl

theorem handed_rilRequestSimIoComplete (c : SimIoCall) :
    (rilRequestSimIoComplete c).filterMap SimIoEffect.handed = [c] ∧
      (rilRequestSimIoComplete c).filterMap SimIoEffect.completed = [] := by
  unfold rilRequestSimIoComplete
  cases c.request <;> exact ⟨rfl, rfl⟩

section Next

variable {s : SimIoData}

/-- The next entry is handed over, whatever the slot held. -/
theorem rilRequestSimIoNext_spec (h : ∀ info ∈ s.simIo, ProperToken info.token) :
    (rilRequestSimIoNext s).1.WellFormed ∧
      (rilRequestSimIoNext s).1.simIo.map (·.handedOver) = s.simIo.map (·.handedOver) ∧
      s.simIo.map (·.call) = (rilRequestSimIoNext s).2.filterMap SimIoEffect.handed ++
        (rilRequestSimIoNext s).1.notHanded.map (·.call) ∧
      (rilRequestSimIoNext s).2.filterMap SimIoEffect.completed = [] := by
  unfold rilRequestSimIoNext
  cases hlist : s.simIo with
  | nil =>
    exact ⟨⟨by simp, .idle rfl rfl⟩, rfl, by simp [SimIoData.notHanded], rfl⟩
  | cons info rest =>
    rw [hlist] at h
    obtain ⟨hinfo, hrest⟩ := List.forall_mem_cons.mp h
    obtain ⟨hhanded, hcompleted⟩ := handed_rilRequestSimIoComplete info.call
    refine ⟨⟨?_, .inFlight info.handedOver rest rfl rfl⟩, rfl, ?_, hcompleted⟩
    · exact List.forall_mem_cons.mpr ⟨hinfo, hrest⟩
    · have hb : SimIoData.Busy ⟨info.token, info.handedOver :: rest, s.smscNumber⟩ := hinfo
      rw [hhanded, SimIoData.notHanded_of_busy hb]
      rfl

/-- A request joins the list at its end, and is handed over at once if there is nothing to wait for. -/
theorem rilRequestSimIo_spec (h : s.WellFormed) (t : SimIoToken) (data : Option RilSimIoV6) :
    (rilRequestSimIo s t.1 data).1.WellFormed ∧
      s.notHanded.map (·.call) ++ (SimIoEvent.rilRequestSimIo t data).registered.toList =
        (rilRequestSimIo s t.1 data).2.filterMap SimIoEffect.handed ++
          (rilRequestSimIo s t.1 data).1.notHanded.map (·.call) := by
  cases hinfo : simIoInfo t.1 data with
  | none =>
    have hreg : (SimIoEvent.rilRequestSimIo t data).registered = none := by
      simp only [SimIoEvent.registered, hinfo, Option.map_none]
    have hcall : rilRequestSimIo s t.1 data = (s, [.complete ⟨t, .genericFailure, none⟩]) := by
      simp only [rilRequestSimIo, hinfo]
    rw [hreg, hcall]
    exact ⟨h, List.append_nil _⟩
  | some info =>
    have htoken : info.token = t.1 := simIoInfo_token hinfo
    have hinfos : ∀ i ∈ s.simIo ++ [info], ProperToken i.token := by
      intro i hi
      rcases List.mem_append.mp hi with hi | hi
      · exact h.proper i hi
      · rw [List.mem_singleton.mp hi, htoken]
        exact t.2
    have hreg : (SimIoEvent.rilRequestSimIo t data).registered = some info.call := by
      simp only [SimIoEvent.registered, hinfo, Option.map_some]
    rw [hreg]
    simp only [rilRequestSimIo, hinfo]
    split_ifs with hslot hsmsc
    · refine ⟨⟨hinfos, ?_⟩, ?_⟩
      · cases h.mode with
        | idle hslot' _ => exact absurd hslot' hslot
        | dataWaiting hslot' _ => exact .dataWaiting hslot' (by simp [rilRequestSimIoRegister])
        | inFlight i rest hlist hslot' =>
          exact .inFlight i (rest ++ [info]) (by simp [rilRequestSimIoRegister, hlist]) hslot'
      · by_cases hb : s.Busy
        · obtain ⟨i, rest, hlist, -⟩ := h.head_of_busy hb
          rw [SimIoData.notHanded_of_busy hb,
            SimIoData.notHanded_of_busy (s := rilRequestSimIoRegister s info) hb]
          simp [rilRequestSimIoRegister, hlist]
        · rw [SimIoData.notHanded_of_not_busy hb,
            SimIoData.notHanded_of_not_busy (s := rilRequestSimIoRegister s info) hb]
          simp [rilRequestSimIoRegister]
    · have hlist := h.null_iff.mp (not_not.mp hslot)
      refine ⟨⟨hinfos, .dataWaiting rfl (by simp [rilRequestSimIoRegister])⟩, ?_⟩
      rw [SimIoData.notHanded_of_not_busy fun hb => hslot hb.1,
        SimIoData.notHanded_of_not_busy fun hb => hb.2 rfl]
      simp [rilRequestSimIoRegister, hlist]
    · have hlist := h.null_iff.mp (not_not.mp hslot)
      refine ⟨⟨?_, .inFlight info.handedOver [] (by simp [hlist]) htoken.symm⟩, ?_⟩
      · intro i hi
        rw [hlist, List.nil_append, List.mem_singleton] at hi
        rw [hi, info.handedOver_token, htoken]
        exact t.2
      · have hb : SimIoData.Busy ⟨t.1, s.simIo ++ [info.handedOver], s.smscNumber⟩ := t.2
        rw [SimIoData.notHanded_of_not_busy fun hb => hslot hb.1, SimIoData.notHanded_of_busy hb,
          (handed_rilRequestSimIoComplete info.call).1, hlist]
        rfl

/-- A response that finds an entry with the modem completes it and goes on to the next one. -/
theorem ipcSimIoResponse_busy (h : s.WellFormed) (hb : s.Busy) (ev : SimEvent) :
    ∃ info rest, s.simIo = info :: rest ∧ info.token = s.tokenSimIo ∧
      ipcSimIoResponse s ev = ((rilRequestSimIoNext { s with simIo := rest }).1,
        .complete ⟨s.tokenSimIo, .success, some (simIoResponse info ev)⟩ ::
          (rilRequestSimIoNext { s with simIo := rest }).2) := by
  obtain ⟨info, rest, hlist, hslot, hfind⟩ := h.findToken_of_busy hb
  refine ⟨info, rest, hlist, hslot, ?_⟩
  have herase : rilRequestSimIoUnregister s info = { s with simIo := rest } := by
    rw [rilRequestSimIoUnregister, hlist, List.erase_cons_head]
  simp only [ipcSimIoResponse, hfind, herase]

/-- The entry is completed, once, and leaves the list; the slot goes to the next one. -/
theorem ipcSimIoResponse_answered (h : s.WellFormed) (hb : s.Busy) (ev : SimEvent) :
    ∃ info rest, s.simIo = info :: rest ∧ info.token = s.tokenSimIo ∧
      (ipcSimIoResponse s ev).2.filterMap SimIoEffect.completed = [info.token] ∧
      (ipcSimIoResponse s ev).1.simIo.map (·.handedOver) = rest.map (·.handedOver) ∧
      (ipcSimIoResponse s ev).1.tokenSimIo = (rest.head?.map (·.token)).getD rilTokenNull := by
  obtain ⟨info, rest, hlist, hslot, hresponse⟩ := ipcSimIoResponse_busy h hb ev
  obtain ⟨-, hentries, -, hcompleted⟩ :=
    rilRequestSimIoNext_spec (s := { s with simIo := rest }) (h.proper_tail hlist)
  refine ⟨info, rest, hlist, hslot, ?_⟩
  rw [hresponse, hslot]
  refine ⟨congrArg (s.tokenSimIo :: ·) hcompleted, hentries, ?_⟩
  cases rest with
  | nil => rfl
  | cons next rest => rfl

theorem ipcSimIoResponse_stray (h : s.WellFormed) (hb : ¬s.Busy) (ev : SimEvent) :
    ipcSimIoResponse s ev = rilRequestSimIoNext s := by
  simp only [ipcSimIoResponse, h.findToken_of_not_busy hb]

theorem ipcSimIoResponse_spec (h : s.WellFormed) (ev : SimEvent) :
    (ipcSimIoResponse s ev).1.WellFormed ∧
      s.notHanded.map (·.call) = (ipcSimIoResponse s ev).2.filterMap SimIoEffect.handed ++
        (ipcSimIoResponse s ev).1.notHanded.map (·.call) := by
  by_cases hb : s.Busy
  · obtain ⟨info, rest, hlist, -, hresponse⟩ := ipcSimIoResponse_busy h hb ev
    obtain ⟨hwf, -, hcalls, -⟩ :=
      rilRequestSimIoNext_spec (s := { s with simIo := rest }) (h.proper_tail hlist)
    rw [hresponse, SimIoData.notHanded_of_busy hb, hlist]
    exact ⟨hwf, hcalls⟩
  · obtain ⟨hwf, -, hcalls, -⟩ := rilRequestSimIoNext_spec h.proper
    rw [ipcSimIoResponse_stray h hb, SimIoData.notHanded_of_not_busy hb]
    exact ⟨hwf, hcalls⟩

theorem ipcSimSmscNumber_spec (h : s.WellFormed) (ev : SimEvent) :
    (ipcSimSmscNumber s ev).1.WellFormed ∧
      s.notHanded.map (·.call) = (ipcSimSmscNumber s ev).2.filterMap SimIoEffect.handed ++
        (ipcSimSmscNumber s ev).1.notHanded.map (·.call) := by
  unfold ipcSimSmscNumber
  dsimp only
  split_ifs with hsmsc hslot
  · have hb : ¬s.Busy := fun hb => hb.2 hslot
    obtain ⟨hwf, -, hcalls, -⟩ := rilRequestSimIoNext_spec (h.setSmscNumber _).proper
    rw [SimIoData.notHanded_of_not_busy hb]
    exact ⟨hwf, hcalls⟩
  · exact ⟨h.setSmscNumber _, rfl⟩
  · exact ⟨h, rfl⟩

end Next

theorem simIoStep_spec {s t : SimIoData} {a : SimIoEvent × List SimIoEffect} (hs : s.WellFormed)
    (h : SimIoStep s a t) : t.WellFormed ∧ s.notHanded.map (·.call) ++ a.1.registered.toList =
      a.2.filterMap SimIoEffect.handed ++ t.notHanded.map (·.call) := by
  obtain ⟨ev, out⟩ := a
  obtain ⟨rfl, rfl⟩ := Prod.mk.inj (show simIoHandler s ev = (t, out) from h)
  cases ev with
  | rilRequestSimIo token data => exact rilRequestSimIo_spec hs token data
  | ipcSimIoResponse ev =>
    obtain ⟨hwf, hcalls⟩ := ipcSimIoResponse_spec hs ev
    exact ⟨hwf, (List.append_nil _).trans hcalls⟩
  | ipcSimSmscNumber ev =>
    obtain ⟨hwf, hcalls⟩ := ipcSimSmscNumber_spec hs ev
    exact ⟨hwf, (List.append_nil _).trans hcalls⟩

theorem SimIoData.init_wellFormed : SimIoData.init.WellFormed :=
  ⟨by simp [SimIoData.init], .idle rfl rfl⟩

/-- **One entry at a time, in order.** In every state that is reached: the slot is null exactly when
the list is empty; a token in it is that of the first entry; the calls handed over and the entries
still to be handed over are together the accepted requests in order; and a response that finds an
entry with the modem completes it, once, and removes it. -/
theorem simIo_queue {tr : List (SimIoEvent × List SimIoEffect)} {s : SimIoData}
    (h : Run SimIoStep .init tr s) :
    (s.tokenSimIo = rilTokenNull ↔ s.simIo = []) ∧
      (s.Busy → ∃ info rest, s.simIo = info :: rest ∧ info.token = s.tokenSimIo) ∧
      (inputs tr).filterMap SimIoEvent.registered =
        (outputs tr).filterMap SimIoEffect.handed ++ s.notHanded.map (·.call) ∧
      ∀ ev, s.Busy →
        (ipcSimIoResponse s ev).2.filterMap SimIoEffect.completed = [s.tokenSimIo] ∧
        (ipcSimIoResponse s ev).1.simIo.map (·.handedOver) = s.simIo.tail.map (·.handedOver) := by
  have hstep : ∀ s a t, SimIoData.WellFormed s → SimIoStep s a t → SimIoData.WellFormed t :=
    fun s a t hs h => (simIoStep_spec hs h).1
  have hwf : s.WellFormed := h.invariant _ hstep SimIoData.init_wellFormed
  have hruns : Run (SimIoStep.when fun s _ => s.WellFormed) .init tr s :=
    h.strengthen _ hstep SimIoData.init_wellFormed
  have horder : (inputs tr).filterMap SimIoEvent.registered =
      (outputs tr).filterMap SimIoEffect.handed ++ s.notHanded.map (·.call) := by
    obtain ⟨gone, hin, hout⟩ := hruns.fifo
      (fun s => s.notHanded.map (·.call)) (fun a => a.1.registered.toList)
      (fun a => a.2.filterMap SimIoEffect.handed) id
      fun s a t hs => ⟨_, (simIoStep_spec hs.1 hs.2).2, (List.map_id _).symm⟩
    rw [List.map_id] at hout
    rw [filterMap_inputs, filterMap_outputs, hout, ← hin]
    rfl
  refine ⟨hwf.null_iff, hwf.head_of_busy, horder, fun ev hb => ?_⟩
  obtain ⟨info, rest, hlist, hslot, hcompleted, hentries, -⟩ := ipcSimIoResponse_answered hwf hb ev
  rw [hcompleted, hentries, hslot, hlist, List.tail_cons]
  exact ⟨rfl, rfl⟩

/-- A request for the file info of file 0x6F07. -/
def simIoFileInfo : Option RilSimIoV6 :=
  some ⟨simCommandGetResponse, 0x6F07, 0, 0, 15, none, none⟩

/-- The answer that brings the number of the service centre. -/
def smscEvent : SimEvent := .ofBytes ([0, 0, 0, 0, simEventReadFile, simOk, 0, 0, 0, 0, 0] ++
  [0x42, 0x6F, 28, 0, 0, 0] ++ List.replicate 13 0xFF ++
  [0x07, 0x91, 0x94, 0x71, 0x01, 0x67, 0x00, 0x00] ++ List.replicate 7 0xFF)

theorem simIo_queue_fileInfo :
    let s := (exec simIoHandler .init
      [.rilRequestSimIo ⟨1, by decide⟩ simIoFileInfo, .ipcSimSmscNumber smscEvent]).2
    (ipcSimIoResponse s smscEvent).2.filterMap SimIoEffect.completed = [1] :=
  ((simIo_queue (.exec simIoHandler .init _)).2.2.2 smscEvent (by decide)).1

end Mocha.Ril
