import Mocha.Ril.Daemon

/-! What the daemon as a whole does to `ril_data` is a run of the telephony layer, so that it answers
nothing that was not requested, whatever the frames of the modem are. -/
namespace Mocha.Ril
open Mocha.Lib Mocha.Ipc

/-- The telephony layer goes from one state to another, with the requests for these tokens and with these
effects. -/
def RilRun (s : RilData) (issued : List RilToken) (out : List SystemEffect) (t : RilData) : Prop :=
  ∃ es, Responds RilStep s es out t ∧ es.filterMap RilEvent.token = issued

section Refinement

variable {s t u : DaemonData} {ctx : PacketContext} {packet : ModemIo} {out outs : List DaemonEffect}
  {a : DaemonEvent × List DaemonEffect}

theorem RilRun.refl (s : RilData) : RilRun s [] [] s := ⟨[], .refl .., rfl⟩

theorem RilRun.trans {s t u : RilData} {issued issued' : List RilToken} {out out' : List SystemEffect}
    (h : RilRun s issued out t) (h' : RilRun t issued' out' u) :
    RilRun s (issued ++ issued') (out ++ out') u := by
  obtain ⟨es, hes, rfl⟩ := h
  obtain ⟨es', hes', rfl⟩ := h'
  exact ⟨es ++ es', hes.append hes', List.filterMap_append⟩

/-- One event that is handled. -/
theorem RilRun.one {s t : RilData} {e : RilEvent} {out : List SystemEffect} (h : RilStep s (e, out) t) :
    RilRun s e.token.toList out t := by
  refine ⟨[e], responds_one_iff.mpr h, ?_⟩
  cases htoken : e.token <;> simp [htoken]

@[simp] theorem rilEffects_append (out outs : List DaemonEffect) :
    rilEffects (out ++ outs) = rilEffects out ++ rilEffects outs := List.filterMap_append

theorem issuedTokens_cons (e : DaemonEvent) (es : List DaemonEvent) :
    issuedTokens (e :: es) = issuedTokens [e] ++ issuedTokens es := by
  unfold issuedTokens
  rw [← List.singleton_append, List.filterMap_append]

theorem issuedTokens_append (es es' : List DaemonEvent) :
    issuedTokens (es ++ es') = issuedTokens es ++ issuedTokens es' := List.filterMap_append

@[simp] theorem rilEffects_map_ril (out : List SystemEffect) : rilEffects (out.map .ril) = out := by
  unfold rilEffects
  rw [List.filterMap_map]
  exact List.filterMap_some

theorem invokeCallback_run {c : Option RilCallback} (h : invokeCallback s c = some (t, out)) :
    RilRun s.ril [] (rilEffects out) t.ril := by
  cases c with
  | none =>
    obtain ⟨rfl, rfl⟩ := Prod.mk.inj (Option.some.inj h)
    exact .refl _
  | some c =>
    obtain ⟨r, hr, hout⟩ := Option.map_eq_some_iff.mp h
    obtain ⟨rfl, rfl⟩ := Prod.mk.inj hout
    have hstep : RilStep s.ril (.callback c, r.2) r.1 := hr
    rw [rilEffects_map_ril]
    exact .one hstep

theorem syssecSendImei_run (nvm : List.Vector UInt8 150) (s : DaemonData) :
    RilRun s.ril [] (rilEffects (syssecSendImei nvm s).2) (syssecSendImei nvm s).1.ril := by
  unfold syssecSendImei
  split_ifs
  · have hstep : RilStep s.ril (.loadSecData nvm.toList, []) (loadSecData s.ril nvm.toList) := rfl
    exact .one hstep
  · exact .refl _

theorem ipcEffect_run {e : IpcEffect} (h : ipcEffect ctx packet s e = some (t, out)) :
    RilRun s.ril [] (rilEffects out) t.ril := by
  cases e with
  | ipcInvokeRilCb type data =>
    obtain ⟨c, -, hc⟩ := Option.bind_eq_some_iff.mp h
    exact invokeCallback_run hc
  | ipcInvokeRilCbNumber type data =>
    obtain ⟨c, -, hc⟩ := Option.bind_eq_some_iff.mp h
    exact invokeCallback_run hc
  | syssecSendImei =>
    have hrun := syssecSendImei_run ctx.nvm s
    rwa [Option.some.inj h] at hrun
  | ipcSend packet =>
    obtain ⟨rfl, rfl⟩ := Prod.mk.inj (Option.some.inj h)
    exact .refl _
  | parsed d =>
    obtain ⟨rfl, rfl⟩ := Prod.mk.inj (Option.some.inj h)
    exact .refl _

theorem ipcEffects_run {es : List IpcEffect} (h : ipcEffects ctx packet s es = some (t, out)) :
    RilRun s.ril [] (rilEffects out) t.ril := by
  induction es generalizing s out with
  | nil =>
    obtain ⟨rfl, rfl⟩ := Prod.mk.inj (Option.some.inj h)
    exact .refl _
  | cons e es ih =>
    obtain ⟨⟨v, first⟩, hfirst, h⟩ := Option.bind_eq_some_iff.mp h
    obtain ⟨⟨w, rest⟩, hrest, h⟩ := Option.bind_eq_some_iff.mp h
    obtain ⟨rfl, rfl⟩ := Prod.mk.inj (Option.some.inj h)
    rw [rilEffects_append]
    exact (ipcEffect_run hfirst).trans (ih hrest)

/-- What happens to a whole packet or a request is a run of the telephony layer. -/
theorem PacketStep.run (h : PacketStep s a t) :
    RilRun s.ril (issuedTokens [a.1]) (rilEffects a.2) t.ril := by
  cases h with
  | packet ctx h =>
    obtain ⟨es, -, h⟩ := Option.bind_eq_some_iff.mp h
    exact ipcEffects_run h
  | request h | clientState h =>
    rw [rilEffects_map_ril]
    exact .one h

theorem packets_run {es : List DaemonEvent} (h : Responds PacketStep s es out t) :
    RilRun s.ril (issuedTokens es) (rilEffects out) t.ril := by
  induction es generalizing s out with
  | nil =>
    obtain ⟨rfl, rfl⟩ := responds_nil_iff.mp h
    exact .refl _
  | cons e es ih =>
    obtain ⟨u, first, rest, rfl, hstep, hrest⟩ := responds_cons_iff.mp h
    rw [issuedTokens_cons, rilEffects_append]
    exact hstep.run.trans (ih hrest)

/-- The packets of a frame bring no request. -/
theorem issuedTokens_delivered (ds : List Delivery) : issuedTokens (deliveredEvents ds) = [] := by
  rw [issuedTokens, deliveredEvents, List.filterMap_map, List.filterMap_eq_nil_iff]
  exact fun _ _ => rfl

/-- The reassembly passes the requests on. -/
theorem reassembly_issued {fresh : ℕ → UInt8} {s t : Reassembly} {is es : List DaemonEvent}
    (h : Responds (ReassemblyStep fresh) s is es t) : issuedTokens es = issuedTokens is := by
  induction is generalizing s es with
  | nil =>
    obtain ⟨rfl, -⟩ := responds_nil_iff.mp h
    rfl
  | cons i is ih =>
    obtain ⟨u, first, rest, rfl, hstep, hrest⟩ := responds_cons_iff.mp h
    have hfirst : issuedTokens first = issuedTokens [i] := by
      cases hstep with
      | frame _ => exact issuedTokens_delivered _
      | request _ _ _ | clientState _ _ => rfl
    rw [issuedTokens_append, issuedTokens_cons i, hfirst, ih hrest]

end Refinement

/-- **The daemon refines its telephony layer.** Whatever frames the modem sends to a daemon that started with a
client, and however the requests come between them, `ril_data` goes through a run of the telephony layer with
the same requests and the same effects, and each token that is completed is null or that of a request. -/
theorem daemon_refines {fresh : ℕ → UInt8} {bAutoAttach : UInt32} {state : RilClientState}
    {is : List DaemonEvent} {out : List DaemonEffect} {t : Reassembly × DaemonData}
    (h : Responds (DaemonStep fresh) (daemonInit bAutoAttach state) is out t) :
    (∃ es, Responds RilStep (rilInit bAutoAttach (some ⟨state, true⟩)) es (rilEffects out) t.2.ril ∧
      es.filterMap RilEvent.token = issuedTokens is) ∧
    ∀ token ∈ (rilEffects out).filterMap SystemEffect.answered,
      token = rilTokenNull ∨ token ∈ issuedTokens is := by
  obtain ⟨es, hfront, hback⟩ := responds_cascade_iff.mp h
  have hrun := packets_run hback
  rw [reassembly_issued hfront] at hrun
  refine ⟨hrun, ?_⟩
  obtain ⟨events, ⟨tr, hril, rfl, hout⟩, hissued⟩ := hrun
  obtain ⟨w, -, hauthentic⟩ := run_authentic hril
  rw [← hout, ← hissued]
  exact fun token ht => hauthentic token (.inr (.inl ht))

/-- Memory of zeros around the packets. -/
def PacketContext.zero : PacketContext :=
  ⟨⟨0, [], fun _ => 0, 0, false, false⟩, fun _ => 0, .replicate 150 0⟩

/-- The level of debugging is asked for, and then the version. -/
theorem daemon_refines_version :
    let s := daemonInit 1 .created
    let level : ModemIo := ⟨frameMagic, fifoPktDvbHDebugLevel, 0, [], rfl⟩
    let request : DaemonEvent := .request .basebandVersion ⟨5, by decide⟩
    ∃ u out, ipcReceive .zero s.2 level = some (u, out) ∧
      let r := ofRil (rilOnRequest u.ril .basebandVersion 5)
      let outs := out ++ r.2.map .ril
      (∃ es, Responds RilStep (rilInit 1 (some ⟨.created, true⟩)) es (rilEffects outs) r.1 ∧
        es.filterMap RilEvent.token = issuedTokens [.frame level, request]) ∧
      ∀ token ∈ (rilEffects outs).filterMap SystemEffect.answered,
        token = rilTokenNull ∨ token ∈ issuedTokens [.frame level, request] := by
  intro s level request
  let u := (syssecSendImei (.replicate 150 0) s.2).1
  obtain ⟨out, hreceive⟩ : ∃ out, ipcReceive .zero s.2 level = some (u, out) := ⟨_, rfl⟩
  refine ⟨u, out, hreceive, ?_⟩
  intro r outs
  have hlevel : DaemonStep (fun _ => 0) s (.frame level, out) (s.1, u) :=
    ⟨[.frame level], .frame (dispatch_whole .init (by decide)),
      responds_one_iff.mpr (.packet .zero hreceive)⟩
  have hril : RilStep u.ril (.request .basebandVersion ⟨5, by decide⟩, r.2) r.1 := rfl
  have hrequest : DaemonStep (fun _ => 0) (s.1, u) (request, r.2.map .ril) (s.1, { u with ril := r.1 }) :=
    ⟨[request], .request .., responds_one_iff.mpr (.request hril)⟩
  exact daemon_refines
    (responds_cons_iff.mpr ⟨_, out, r.2.map .ril, rfl, hlevel, responds_one_iff.mpr hrequest⟩)

end Mocha.Ril
