import Mocha.Ril.CallIdentity
import Mocha.Ril.CallLedger
import Mocha.Ril.CallOperation

/-! The ids of calls. A call that is dialed has the placeholder id 0xFF until SETUP_IND names it, and
as long as the modem names calls afresh no two contexts have one id. -/
namespace Mocha.Ril
open Mocha.Lib

def CallData.idAt (s : CallData) (i : Fin maxCalls) : Option UInt32 :=
  (s.identityAt i).map (·.callId)

/-- An id that no call in the table has, and not the placeholder. -/
def CallData.FreshId (s : CallData) (callId : UInt32) : Prop :=
  callId ≠ 0xFF ∧ ∀ i, s.idAt i ≠ some callId

/-- The modem announces calls under fresh ids. -/
def FreshIds (s : CallData) (a : CallEvent × List CallEffect) : Prop :=
  match a.1 with
  | .indication (.incoming callInfo) => s.FreshId callInfo.callId
  | .indication (.setupInd callId) => s.FreshId callId
  | _ => True

/-- The modem confirms nothing of a call that it has not named. -/
def SparesPlaceholder (_ : CallData) (a : CallEvent × List CallEffect) : Prop :=
  match a.1 with
  | .indication (.connected callId) | .indication (.hold callId _)
  | .indication (.activate callId _) | .indication (.swap _ callId _) => callId ≠ 0xFF
  | _ => True

/-- Calls are told apart by their ids. -/
structure CallData.Unambiguous (s : CallData) : Prop where
  distinct : ∀ i j callId, s.idAt i = some callId → s.idAt j = some callId → i = j
  lookup : ∀ i c, s.calls i = some c → findRilCallContext s c.callId = some i

/-- A DIAL request has brought the placeholder into the slot, and it has been there since. -/
inductive DialedBy (t : RequestToken) (i : Fin maxCalls) :
    List (CallEvent × List CallEffect) → CallData → Prop
  | dialed {tr : List (CallEvent × List CallEffect)} {s u : CallData} {dial : RilDial}
      {now : UInt32} {out : List CallEffect} : Run CallStep .init tr s → s.calls i = none →
      CallStep s (.request t (.dial (some dial) now), out) u → u.idAt i = some 0xFF →
      DialedBy t i (tr ++ [(.request t (.dial (some dial) now), out)]) u
  | kept {tr : List (CallEvent × List CallEffect)} {s u : CallData}
      {a : CallEvent × List CallEffect} : DialedBy t i tr s → CallStep s a u →
      u.idAt i = some 0xFF → DialedBy t i (tr ++ [a]) u

/-- What is asked of a step: fresh ids, no confirmation for the placeholder, and numbers that fit. -/
structure NamesCalls (s : CallData) (a : CallEvent × List CallEffect) : Prop where
  fresh : FreshIds s a
  spares : SparesPlaceholder s a
  inBounds : a.1.InBounds s

/-- What a run should keep to: calls are told apart by their ids, the handler of every further event
(of those in `E`) returns, and SETUP_IND completes the DIAL request that has made the placeholder, and no
other request. -/
structure ToldApart (E : CallData → CallEvent → Prop) (tr : List (CallEvent × List CallEffect))
    (s : CallData) : Prop where
  unambiguous : s.Unambiguous
  returns : ∀ e, E s e → ∃ r, callHandlerInBounds s e = some r
  dialed : ∀ i, s.idAt i = some 0xFF → ∃ t : RequestToken, DialedBy t i tr s ∧
    ∀ callId, s.FreshId callId → (callHandler s (.indication (.setupInd callId))).2 =
      [.complete ⟨t.1, .success, none⟩]

section Ids

variable {s u : CallData} {i j : Fin maxCalls} {e : CallEvent}

theorem idAt_eq_some_iff {callId : UInt32} :
    s.idAt i = some callId ↔ ∃ x, s.identityAt i = some x ∧ x.callId = callId :=
  Option.map_eq_some_iff

theorem idAt_update {x : Option CallIdentity}
    (h : u.identityAt = Function.update s.identityAt i x) :
    u.idAt i = x.map (·.callId) ∧ ∀ j, j ≠ i → u.idAt j = s.idAt j := by
  constructor
  · rw [CallData.idAt, h, Function.update_self]
  · intro j hj
    rw [CallData.idAt, h, Function.update_of_ne hj, CallData.idAt]

theorem findRilCallContext_id {callId : UInt32} (h : findRilCallContext s callId = some i) :
    s.idAt i = some callId := idAt_eq_some_iff.mpr (findRilCallContext_identity h)

theorem findRilCallContext_isSome {callId : UInt32} (h : s.idAt i = some callId) :
    ∃ j, findRilCallContext s callId = some j := by
  obtain ⟨x, hx, hid⟩ := idAt_eq_some_iff.mp h
  refine Option.ne_none_iff_exists'.mp fun hnone => ?_
  exact findRilCallContext_eq_none_iff.mp hnone i x hx hid

/-- A new id, or none, comes into one slot. -/
theorem distinct_update {x : Option CallIdentity}
    (h : u.identityAt = Function.update s.identityAt i x)
    (hs : ∀ i j callId, s.idAt i = some callId → s.idAt j = some callId → i = j)
    (hx : ∀ y, x = some y → ∀ j, j ≠ i → s.idAt j ≠ some y.callId) :
    ∀ k l callId, u.idAt k = some callId → u.idAt l = some callId → k = l := by
  obtain ⟨hself, hoff⟩ := idAt_update h
  have hother : ∀ k callId, k ≠ i → u.idAt k = some callId → u.idAt i ≠ some callId := by
    intro k callId hk hkid hiid
    rw [hself, Option.map_eq_some_iff] at hiid
    obtain ⟨y, hy, rfl⟩ := hiid
    exact hx y hy k hk ((hoff k hk).symm.trans hkid)
  intro k l callId hk hl
  by_cases hki : k = i
  · by_cases hli : l = i
    · rw [hki, hli]
    · exact absurd (hki ▸ hk) (hother l callId hli hl)
  · by_cases hli : l = i
    · exact absurd (hli ▸ hl) (hother k callId hki hk)
    · exact hs k l callId ((hoff k hki).symm.trans hk) ((hoff l hli).symm.trans hl)

theorem callStep_distinct {a : CallEvent × List CallEffect}
    (hs : ∀ i j callId, s.idAt i = some callId → s.idAt j = some callId → i = j)
    (hfresh : FreshIds s a) (h : CallStep s a u) :
    ∀ i j callId, u.idAt i = some callId → u.idAt j = some callId → i = j := by
  have hu : (callHandler s a.1).1 = u := congrArg Prod.fst h
  have hchange := callHandler_identityChange (s := s) a.1
  rw [hu] at hchange
  unfold FreshIds at hfresh
  cases hchange with
  | same h =>
    have hid : u.idAt = s.idAt := by
      funext i
      rw [CallData.idAt, h, CallData.idAt]
    rwa [hid]
  | dialed t dial now i _ _ hno h =>
    refine distinct_update h hs ?_
    rintro y ⟨⟩ j - hj
    obtain ⟨x, hx, hid⟩ := idAt_eq_some_iff.mp hj
    exact findRilCallContext_eq_none_iff.mp hno j x hx hid
  | arrived callInfo i he _ h =>
    rw [he] at hfresh
    refine distinct_update h hs ?_
    rintro y ⟨⟩ j -
    exact hfresh.2 j
  | renamed callId i x he _ _ h =>
    rw [he] at hfresh
    refine distinct_update h hs ?_
    rintro y ⟨⟩ j -
    exact hfresh.2 j
  | released callId cause i x _ _ _ h => exact distinct_update h hs nofun

theorem unambiguous_of_distinct
    (hs : ∀ i j callId, s.idAt i = some callId → s.idAt j = some callId → i = j) :
    s.Unambiguous := by
  refine ⟨hs, fun i c hc => ?_⟩
  have hi : s.idAt i = some c.callId :=
    idAt_eq_some_iff.mpr ⟨c.identity, identityAt_eq_some_iff.mpr ⟨c, hc, rfl⟩, rfl⟩
  obtain ⟨j, hj⟩ := findRilCallContext_isSome hi
  rw [hj, hs i j _ hi (findRilCallContext_id hj)]

end Ids

section Placeholder

variable {s u : CallData} {i : Fin maxCalls} {t : RequestToken}

/-- SETUP_IND finds the call that it names under its new id, and completes its request. -/
theorem ipcCallSetupInd_eq {callId : UInt32} (hs : s.Unambiguous) (hi : s.idAt i = some 0xFF)
    (hfresh : s.FreshId callId) (ht : s.pendingAt i = some t.1) :
    (ipcCallSetupInd s callId).2 = [.complete ⟨t.1, .success, none⟩] := by
  obtain ⟨j, hj⟩ := findRilCallContext_isSome hi
  obtain rfl : i = j := hs.distinct i j _ hi (findRilCallContext_id hj)
  obtain ⟨x, hx, -⟩ := idAt_eq_some_iff.mp hi
  have hrenamed : (s.modify i ({ · with callId := callId })).identityAt =
      Function.update s.identityAt i (some { x with callId := callId }) := by
    rw [identityAt_modify (fun x => { x with callId := callId }) fun _ => rfl, hx, Option.map_some]
  obtain ⟨hself, hoff⟩ := idAt_update hrenamed
  obtain ⟨k, hk⟩ := findRilCallContext_isSome hself
  have hki : k = i := by
    by_contra hne
    exact hfresh.2 k ((hoff k hne).symm.trans (findRilCallContext_id hk))
  have htoken : (s.modify i ({ · with callId := callId })).tokenAt i = t.1 := by
    have hsame : (s.modify i ({ · with callId := callId })).pendingAt = s.pendingAt :=
      pendingAt_modify fun _ => rfl
    have hpending : (s.modify i ({ · with callId := callId })).pendingAt i = some t.1 := by
      rw [hsame, ht]
    exact (pendingAt_eq_some_iff.mp hpending).1
  change findRilCallContext (s.modify i ({ · with callId := callId })) callId = some k at hk
  unfold ipcCallSetupInd
  simp only [hj, hk, hki]
  rw [settle, if_pos (by rw [htoken]; exact t.2), htoken]

/-- Off the slot whose request it settles, an indication keeps what is pending. -/
theorem callIndication_pendingAt {ind : CallIndication} (hs : s.NoTones)
    (hne : ∀ j e, ind.settles s = some (j, e) → i ≠ j) :
    (callIndicationHandler s ind).1.pendingAt i = s.pendingAt i := by
  have hsettled := callIndication_settledAt hs ind
  cases htarget : ind.settles s with
  | none =>
    rw [htarget] at hsettled
    cases hsettled with
    | kept hkeeps _ => exact congrFun hkeeps.pending i
  | some p =>
    obtain ⟨j, e⟩ := p
    rw [htarget] at hsettled
    cases hsettled with
    | settled _ _ _ hoff _ _ => exact hoff i (hne j e htarget)

/-- An indication that settles the request of the placeholder takes the placeholder away. -/
theorem settles_placeholder {ind : CallIndication} {e : RilErrno} {out : List CallEffect}
    (hspares : SparesPlaceholder s (.indication ind, out)) (hfresh : FreshIds s (.indication ind, out))
    (hi : s.idAt i = some 0xFF) (h : ind.settles s = some (i, e)) :
    (callIndicationHandler s ind).1.idAt i ≠ some 0xFF := by
  have hnamed : ∀ callId e', callId ≠ 0xFF →
      (findRilCallContext s callId).map (fun j => (j, e')) ≠ some (i, e) := by
    intro callId e' hne h
    obtain ⟨j, hfind, hj⟩ := Option.map_eq_some_iff.mp h
    obtain ⟨rfl, -⟩ := Prod.mk.inj hj
    have hid := findRilCallContext_id hfind
    rw [hi, Option.some.injEq] at hid
    exact hne hid.symm
  have hreleased : ∀ u : CallData, u.calls i = none → u.idAt i ≠ some 0xFF := by
    intro u hu
    rw [CallData.idAt, identityAt_eq_none_iff.mpr hu]
    exact nofun
  cases ind with
  | incoming callInfo => cases h
  | callEnd callId cause =>
    obtain ⟨j, hfind, hj⟩ := Option.map_eq_some_iff.mp h
    obtain ⟨rfl, -⟩ := Prod.mk.inj hj
    change (ipcCallEnd s callId cause).1.idAt j ≠ _
    unfold ipcCallEnd
    simp only [hfind]
    split_ifs
    · exact hreleased _ (CallData.put_calls_self ..)
    · exact hreleased _ (CallData.put_calls_self ..)
  | setupInd callId =>
    obtain ⟨k, hk, h⟩ := Option.bind_eq_some_iff.mp h
    obtain ⟨j, hfind, hj⟩ := Option.map_eq_some_iff.mp h
    obtain ⟨rfl, -⟩ := Prod.mk.inj hj
    have hid := findRilCallContext_id hfind
    change (ipcCallSetupInd s callId).1.idAt j ≠ _
    unfold ipcCallSetupInd
    simp only [hk, hfind]
    rw [CallData.idAt, identityAt_settle, ← CallData.idAt, hid, Ne, Option.some.injEq]
    exact hfresh.1
  | alert callId => cases h
  | connected callId => exact absurd h (hnamed callId _ hspares)
  | dtmfStart reason => cases h
  | dtmfStop reason => cases h
  | hold callId cause => exact absurd h (hnamed callId _ hspares)
  | swap activatedCallId heldCallId cause =>
    obtain ⟨-, -, h⟩ := Option.bind_eq_some_iff.mp h
    exact absurd h (hnamed heldCallId _ hspares)
  | activate callId cause => exact absurd h (hnamed callId _ hspares)
  | error callId error =>
    obtain ⟨j, hfind, hj⟩ := Option.map_eq_some_iff.mp h
    obtain ⟨rfl, -⟩ := Prod.mk.inj hj
    change (ipcCallError s callId error).1.idAt j ≠ _
    unfold ipcCallError
    simp only [hfind]
    exact hreleased _ (CallData.put_calls_self ..)

/-- As long as the placeholder is there, so is the request that waits at it. -/
theorem callStep_placeholder {a : CallEvent × List CallEffect} (hs : s.NoTones)
    (hspares : SparesPlaceholder s a) (hfresh : FreshIds s a) (hi : s.idAt i = some 0xFF)
    (hui : u.idAt i = some 0xFF) (h : CallStep s a u) {x : RilToken}
    (hx : s.pendingAt i = some x) : u.pendingAt i = some x := by
  obtain ⟨e, out⟩ := a
  have hu : (callHandler s e).1 = u := congrArg Prod.fst h
  rw [← hu] at hui ⊢
  cases e with
  | request t c => exact (callRequest_joined (s := s) t.2 c).stays hx
  | indication ind =>
    refine (callIndication_pendingAt hs fun j e htarget => ?_).trans hx
    rintro rfl
    exact settles_placeholder hspares hfresh hi htarget hui

/-- A DIAL request that makes the placeholder waits at it. -/
theorem rilRequestDialFitting_pendingAt {dial : RilDial} {now : UInt32}
    (hi : s.identityAt i = none) (hui : (rilRequestDialFitting s t.1 (some dial) now).1.idAt i = some 0xFF) :
    (rilRequestDialFitting s t.1 (some dial) now).1.pendingAt i = some t.1 := by
  have hfree : s.idAt i = none := by rw [CallData.idAt, hi, Option.map_none]
  rcases rilRequestDialFitting_cases s t.1 (some dial) now with hrefused | ⟨d, k, _, -, -, -, hdial⟩
  · rw [hrefused, hfree] at hui
    cases hui
  · rw [hdial] at hui ⊢
    by_cases hik : i = k
    · subst hik
      have hcalls : (s.put i (some d.context)).calls i ≠ none := pendingAt_put_context.1
      exact pendingAt_eq_some_iff.mpr ⟨tokenAt_setToken hcalls, t.2⟩
    · have hid := (idAt_update (identityAt_put (s := s) (i := k) (some d.context))).2 i hik
      rw [CallData.idAt, identityAt_setToken, ← CallData.idAt, hid, hfree] at hui
      cases hui

end Placeholder

section Runs

variable {tr : List (CallEvent × List CallEffect)} {s : CallData}

theorem run_unambiguous (h : Run (CallStep.when FreshIds) .init tr s) : s.Unambiguous := by
  refine unambiguous_of_distinct ?_
  refine h.invariant (fun s => ∀ i j callId, s.idAt i = some callId → s.idAt j = some callId → i = j)
    (fun s a u hs hstep => callStep_distinct hs hstep.1 hstep.2) ?_
  intro i j callId hi
  cases hi

/-- The request that waits at the placeholder is the DIAL request that has made it. -/
theorem run_dialedBy (h : Run (CallStep.when fun s a => FreshIds s a ∧ SparesPlaceholder s a) .init tr s)
    {i : Fin maxCalls} (hi : s.idAt i = some 0xFF) :
    ∃ t : RequestToken, DialedBy t i tr s ∧ s.pendingAt i = some t.1 := by
  induction h with
  | nil => cases hi
  | @snoc tr s u a hrun hstep ih =>
    obtain ⟨⟨hfresh, hspares⟩, hstep⟩ := hstep
    have hplain : Run CallStep .init tr s := hrun.of_when
    have hkept : s.idAt i = some 0xFF →
        ∃ t : RequestToken, DialedBy t i (tr ++ [a]) u ∧ u.pendingAt i = some t.1 := by
      intro hsi
      obtain ⟨t, hdialed, ht⟩ := ih hsi
      exact ⟨t, .kept hdialed hstep hi,
        callStep_placeholder (run_noTones hplain) hspares hfresh hsi hi hstep ht⟩
    -- a slot that gets another id than the placeholder's is not the one in question
    have helsewhere : ∀ {j : Fin maxCalls} {x : Option CallIdentity},
        u.identityAt = Function.update s.identityAt j x → x.map (·.callId) ≠ some 0xFF →
        ∃ t : RequestToken, DialedBy t i (tr ++ [a]) u ∧ u.pendingAt i = some t.1 := by
      intro j x h hx
      by_cases hij : i = j
      · subst hij
        exact absurd ((idAt_update h).1.symm.trans hi) hx
      · exact hkept (((idAt_update h).2 i hij).symm.trans hi)
    have hu : (callHandler s a.1).1 = u := congrArg Prod.fst hstep
    have hchange := callHandler_identityChange (s := s) a.1
    rw [hu] at hchange
    unfold FreshIds at hfresh
    cases hchange with
    | same h =>
      refine hkept ?_
      rw [CallData.idAt, ← h]
      exact hi
    | dialed t dial now j he hfree _ h =>
      by_cases hij : i = j
      · subst hij
        obtain ⟨e, out⟩ := a
        dsimp only at he
        subst he
        have hpending : u.pendingAt i = some t.1 := by
          rw [← hu] at hi ⊢
          exact rilRequestDialFitting_pendingAt hfree hi
        exact ⟨t, .dialed hplain (identityAt_eq_none_iff.mp hfree) hstep hi, hpending⟩
      · exact hkept (((idAt_update h).2 i hij).symm.trans hi)
    | arrived callInfo j he _ h =>
      rw [he] at hfresh
      exact helsewhere h fun heq => hfresh.1 (Option.some.inj heq)
    | renamed callId j x he _ _ h =>
      rw [he] at hfresh
      exact helsewhere h fun heq => hfresh.1 (Option.some.inj heq)
    | released callId cause j x _ _ _ h => exact helsewhere h (Option.some_ne_none _).symm

/-- **Calls are told apart by their ids**, and SETUP_IND completes the DIAL request that has made the
placeholder, in every run in which the modem announces calls under fresh ids and confirms nothing of a
call that it has not named, and the numbers fit. -/
theorem call_unambiguous (h : Run (CallStep.when NamesCalls) .init tr s) :
    ToldApart (fun s e => ∀ out, NamesCalls s (e, out)) tr s := by
  have hfresh : Run (CallStep.when FreshIds) .init tr s := h.mono fun _ _ _ hs => ⟨hs.1.fresh, hs.2⟩
  have hspares : Run (CallStep.when fun s a => FreshIds s a ∧ SparesPlaceholder s a) .init tr s :=
    h.mono fun _ _ _ hs => ⟨⟨hs.1.fresh, hs.1.spares⟩, hs.2⟩
  have hs : s.Unambiguous := run_unambiguous hfresh
  refine ⟨hs, fun e he => ?_, fun i hi => ?_⟩
  · exact ⟨_, callHandlerInBounds_eq_some.mpr ⟨rfl, (he []).inBounds⟩⟩
  · obtain ⟨t, hdialed, ht⟩ := run_dialedBy hspares hi
    exact ⟨t, hdialed, fun callId hfresh => ipcCallSetupInd_eq hs hi hfresh ht⟩

/-- A call is dialed while another one rings, and SETUP_IND completes the request. -/
theorem call_unambiguous_dialing :
    let r := exec callHandler .init [.request ⟨1, by decide⟩ (.dial (some ⟨[0x31]⟩) 0),
      .indication (.incoming ⟨7, 0, []⟩)]
    ∃ t : RequestToken, DialedBy t ⟨0, by decide⟩ r.1 r.2 ∧
      (callHandler r.2 (.indication (.setupInd 8))).2 = [.complete ⟨t.1, .success, none⟩] := by
  intro r
  have hfits : ∀ s : CallData, s.NumberFits [0x31] ∧ s.NumberFits [] :=
    fun s => ⟨fun _ => by decide, fun _ => by decide⟩
  have hfresh : (exec callHandler .init
      [.request ⟨1, by decide⟩ (.dial (some ⟨[0x31]⟩) 0)]).2.FreshId 7 := ⟨by decide, by decide⟩
  have hrun : Run (CallStep.when NamesCalls) .init r.1 r.2 :=
    .cons ⟨⟨trivial, trivial, fun _ => (hfits _).1⟩, rfl⟩
      (.cons ⟨⟨hfresh, trivial, (hfits _).2⟩, rfl⟩ .nil)
  obtain ⟨t, hdialed, hsetup⟩ := (call_unambiguous hrun).dialed ⟨0, by decide⟩ (by decide)
  exact ⟨t, hdialed, hsetup 8 ⟨by decide, by decide⟩⟩

/-- An address of 72 digits runs over the token of the context that DIAL has made. -/
theorem not_toldApart_longAddress :
    ¬∀ (tr : List (CallEvent × List CallEffect)) (s : CallData),
      Run (CallStep.when fun s a => FreshIds s a ∧ a.1.InBounds s) .init tr s →
        ToldApart (fun s e => ∀ out, FreshIds s (e, out)) tr s := by
  intro h
  obtain ⟨r, hr⟩ := (h [] .init .nil).returns
    (.request ⟨1, by decide⟩ (.dial (some ⟨List.replicate 72 0x31⟩) 0)) fun _ => trivial
  obtain ⟨-, hin⟩ := callHandlerInBounds_eq_some.mp hr
  exact absurd (hin (by decide) (by decide)) (by decide)

/-- Apart from the bounds, CONNECTED_IND for the placeholder completes the DIAL request, and SETUP_IND
completes none. -/
theorem not_dialed_connectedPlaceholder :
    ¬∀ (tr : List (CallEvent × List CallEffect)) (s : CallData),
      Run (CallStep.when fun s a => FreshIds s a ∧ a.1.InBounds s) .init tr s →
        ∀ i, s.idAt i = some 0xFF → ∃ t : RequestToken, DialedBy t i tr s ∧
          ∀ callId, s.FreshId callId → (callHandler s (.indication (.setupInd callId))).2 =
            [.complete ⟨t.1, .success, none⟩] := by
  intro h
  have hrun : Run (CallStep.when fun s a => FreshIds s a ∧ a.1.InBounds s) .init
      (exec callHandler .init [.request ⟨1, by decide⟩ (.dial (some ⟨[0x31]⟩) 0),
        .indication (.connected 0xFF)]).1
      (exec callHandler .init [.request ⟨1, by decide⟩ (.dial (some ⟨[0x31]⟩) 0),
        .indication (.connected 0xFF)]).2 :=
    .cons ⟨⟨trivial, fun _ _ => by decide⟩, rfl⟩ (.cons ⟨⟨trivial, trivial⟩, rfl⟩ .nil)
  obtain ⟨t, -, hsetup⟩ := h _ _ hrun ⟨0, by decide⟩ (by decide)
  have hnothing := hsetup 1 ⟨by decide, by decide⟩
  revert hnothing
  exact nofun

end Runs

end Mocha.Ril
