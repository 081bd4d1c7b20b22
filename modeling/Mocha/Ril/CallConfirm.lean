import Mocha.Ril.CallIdentity
import Mocha.Ril.CallLedger
import Mocha.Ril.CallOperation

/-! Which indication reports a pending request as successful. A context has one token for requests of
all kinds, and so an indication that was on its way already when a request came takes the request's
token for its own. -/
namespace Mocha.Ril
open Mocha.Lib

/-- What a pending request waits for, and the slot of the call that it hangs up, as long as that
call is in the table. -/
structure PendingOperation where
  operation : CallOperation
  hangsUp : Option (Fin maxCalls)
deriving DecidableEq

/-- The call table, and a record of the pending requests that the handlers do not keep. -/
structure TrackedCalls where
  data : CallData
  operations : Fin maxCalls → Option PendingOperation

def TrackedCalls.init : TrackedCalls := ⟨.init, fun _ => none⟩

/-- The call that a request hangs up when its token goes to the slot `i`. -/
def hangsUp (s : CallData) (i : Fin maxCalls) : CallRequest → Option (Fin maxCalls)
  | .hangup _ | .hangupWaitingOrBackground => some i
  | .hangupForegroundResumeBackground =>
    -- with an active and a held call the token goes to the held one
    some (((findCalls [.active, .holding] s).bind (· .active)).elim i Prod.fst)
  | .dial .. | .answer | .switchWaitingOrHoldingAndActive => none

def track (s u : CallData) (a : CallEvent × List CallEffect)
    (operations : Fin maxCalls → Option PendingOperation) (i : Fin maxCalls) :
    Option PendingOperation :=
  if u.pendingAt i = none then none
  else if s.pendingAt i ≠ none then
    (operations i).map fun p => { p with hangsUp := p.hangsUp.filter fun j => (u.calls j).isSome }
  else match a.1 with
    | .request _ c => (lastOperation a.2).map (⟨·, hangsUp s i c⟩)
    | .indication _ => none

def trackedHandler (s : TrackedCalls) (e : CallEvent) : TrackedCalls × List CallEffect :=
  let r := callHandler s.data e
  (⟨r.1, track s.data r.1 (e, r.2) s.operations⟩, r.2)

abbrev TrackedStep : Step TrackedCalls (CallEvent × List CallEffect) := Step.ofFun trackedHandler

/-- The operations that an indication confirms. -/
def CallIndication.confirms : CallIndication → CallOperation → Bool
  | .setupInd _, .dial | .connected _, .answer | .hold .., .hold | .swap .., .swap
  | .activate .., .activate => true
  | .callEnd .., .hangup | .callEnd .., .hold | .callEnd .., .swap | .callEnd .., .activate => true
  | _, _ => false

/-- A pending request is reported as successful only by an indication that confirms its operation,
and a hang-up only if its call has left the table. -/
def Confirmed (s : TrackedCalls) (a : CallEvent × List CallEffect) (u : TrackedCalls) : Prop :=
  ∀ ind i t, a.1 = .indication ind → s.data.pendingAt i = some t → u.data.pendingAt i = none →
    (t, RilErrno.success) ∈ results a.2 → ∃ p, s.operations i = some p ∧
      ind.confirms p.operation ∧ ∀ j, p.hangsUp = some j → u.data.calls j = none

/-- No indication of success meets a request that waits for something else, or a hang-up of a call
that it does not end. -/
def NoCrossing (s : TrackedCalls) (a : CallEvent × List CallEffect) : Prop :=
  match a.1 with
  | .request .. => True
  | .indication ind => ∀ i p, ind.settles s.data = some (i, .success) → s.operations i = some p →
      ind.confirms p.operation ∧
        ∀ j, p.hangsUp = some j → j = i ∧ ∃ callId cause, ind = .callEnd callId cause

/-- What the record has to do with the table. -/
structure Tracks (s : TrackedCalls) : Prop where
  noTones : s.data.NoTones
  pending : ∀ i, s.operations i = none ↔ s.data.pendingAt i = none
  present : ∀ i p j, s.operations i = some p → p.hangsUp = some j → s.data.calls j ≠ none

section Step

variable {s u : TrackedCalls} {a : CallEvent × List CallEffect} {i : Fin maxCalls}

theorem calls_ne_none_of_pending {s : CallData} (h : s.pendingAt i ≠ none) : s.calls i ≠ none := by
  intro hnone
  refine h (pendingAt_eq_none_iff.mpr ?_)
  rw [CallData.tokenAt, hnone]
  rfl

theorem trackedStep_iff : TrackedStep s a u ↔
    CallStep s.data a u.data ∧ u.operations = track s.data u.data a s.operations := by
  obtain ⟨e, out⟩ := a
  obtain ⟨v, ops⟩ := u
  change trackedHandler s e = (⟨v, ops⟩, out) ↔ callHandler s.data e = (v, out) ∧ _
  constructor
  · intro h
    obtain ⟨hu, rfl⟩ := Prod.mk.inj h
    obtain ⟨rfl, rfl⟩ := TrackedCalls.mk.inj hu
    exact ⟨rfl, rfl⟩
  · rintro ⟨h, hops⟩
    dsimp only at hops
    rw [trackedHandler, h]
    dsimp only
    rw [← hops]

/-- What a request hangs up is in the table. -/
theorem hangsUp_present {s : CallData} {t : RequestToken} {c : CallRequest} {j : Fin maxCalls}
    (hi : (callRequestHandler s t.1 c).1.calls i ≠ none) (h : hangsUp s i c = some j) :
    (callRequestHandler s t.1 c).1.calls j ≠ none := by
  cases c with
  | dial data now => cases h
  | hangup data =>
    obtain rfl := Option.some.inj h
    exact hi
  | hangupWaitingOrBackground =>
    obtain rfl := Option.some.inj h
    exact hi
  | hangupForegroundResumeBackground =>
    obtain rfl := Option.some.inj h
    cases hactive : (findCalls [.active, .holding] s).bind (· .active) with
    | none => exact hi
    | some p =>
      obtain ⟨found, hfind, hp⟩ := Option.bind_eq_some_iff.mp hactive
      obtain ⟨⟨hslot, -⟩, -⟩ := found_eq_some hfind hp
      have hsame := callRequest_identityAt (s := s) (t := t.1)
        .hangupForegroundResumeBackground nofun
      rw [Ne, ← identityAt_eq_none_iff, hsame, identityAt_eq_none_iff, Option.elim_some, hslot]
      exact nofun
  | answer => cases h
  | switchWaitingOrHoldingAndActive => cases h

/-- No indication brings a request to a slot. -/
theorem callIndication_stays {s : CallData} {ind : CallIndication} (hs : s.NoTones)
    (h : s.pendingAt i = none) : (callIndicationHandler s ind).1.pendingAt i = none := by
  have hsettled := callIndication_settled hs ind
  cases hsettled with
  | kept hkeeps _ => rw [hkeeps.pending, h]
  | settled j _ hoff hj _ =>
    by_cases hij : i = j
    · rw [hij, hj]
    · rw [hoff i hij, h]

theorem trackedStep_tracks (hs : Tracks s) (h : TrackedStep s a u) : Tracks u := by
  obtain ⟨hstep, hops⟩ := trackedStep_iff.mp h
  have hu : (callHandler s.data a.1).1 = u.data := congrArg Prod.fst hstep
  have hout : (callHandler s.data a.1).2 = a.2 := congrArg Prod.snd hstep
  have hi : ∀ i, u.operations i = track s.data u.data a s.operations i := congrFun hops
  refine ⟨callStep_noTones hs.noTones hstep, fun i => ?_, fun i p j hp hj => ?_⟩
  · rw [hi, track]
    split_ifs with hnone hpending
    · exact iff_of_true rfl hnone
    · rw [Option.map_eq_none_iff, hs.pending]
      exact iff_of_false hpending hnone
    · cases he : a.1 with
      | request t c =>
        rw [he] at hu hout
        have hjoined := callRequest_joined (s := s.data) t.2 c i
        rcases hjoined with hsame | ⟨-, -, hsent⟩
        · rw [← hu] at hnone
          exact absurd (hsame.trans (not_not.mp hpending)) hnone
        · have hlast : lastOperation a.2 ≠ none := by
            rw [← hout]
            exact hsent
          simpa [hnone] using hlast
      | indication ind =>
        rw [he] at hu
        have hsame : (callIndicationHandler s.data ind).1.pendingAt i = none :=
          callIndication_stays hs.noTones (not_not.mp hpending)
        rw [← hu] at hnone
        exact absurd hsame hnone
  · rw [hi, track] at hp
    split_ifs at hp with hnone hpending
    · obtain ⟨q, -, rfl⟩ := Option.map_eq_some_iff.mp hp
      obtain ⟨-, hpresent⟩ := Option.filter_eq_some_iff.mp hj
      simpa [Option.isSome_iff_ne_none] using hpresent
    · cases he : a.1 with
      | request t c =>
        rw [he] at hp hu
        obtain ⟨o, -, rfl⟩ := Option.map_eq_some_iff.mp hp
        rw [← hu] at hnone ⊢
        exact hangsUp_present (calls_ne_none_of_pending hnone) hj
      | indication ind =>
        rw [he] at hp
        cases hp

/-- Only END_IND reports a request as successful and takes a call away: the one that it names. -/
theorem settles_released {s : CallData} {ind : CallIndication} {j : Fin maxCalls}
    (h : ind.settles s = some (i, .success)) (hj : s.calls j ≠ none) :
    (callIndicationHandler s ind).1.calls j = none ↔
      j = i ∧ ∃ callId cause, ind = .callEnd callId cause := by
  have hsame : (callIndicationHandler s ind).1.identityAt = s.identityAt →
      (callIndicationHandler s ind).1.calls j ≠ none := by
    intro hsame
    rw [Ne, ← identityAt_eq_none_iff, hsame, identityAt_eq_none_iff]
    exact hj
  by_cases hend : ∃ callId cause, ind = .callEnd callId cause
  · obtain ⟨callId, cause, rfl⟩ := hend
    obtain ⟨k, hfind, hk⟩ := Option.map_eq_some_iff.mp h
    obtain ⟨rfl, -⟩ := Prod.mk.inj hk
    have hput : (callIndicationHandler s (.callEnd callId cause)).1.calls =
        Function.update s.calls k none := by
      change (ipcCallEnd s callId cause).1.calls = _
      unfold ipcCallEnd
      simp only [hfind]
      split_ifs
      · rfl
      · rfl
    rw [hput]
    by_cases hjk : j = k
    · rw [hjk, Function.update_self]
      exact iff_of_true rfl ⟨rfl, callId, cause, rfl⟩
    · rw [Function.update_of_ne hjk]
      exact iff_of_false hj fun h => hjk h.1
  · refine iff_of_false ?_ fun h => hend h.2
    cases ind with
    | incoming callInfo => cases h
    | callEnd callId cause => exact absurd ⟨callId, cause, rfl⟩ hend
    | setupInd callId =>
      cases ipcCallSetupInd_identityChange (s := s) callId with
      | same h => exact hsame h
      | dialed t dial now k he => cases he
      | arrived callInfo k he => cases he
      | renamed id k x _ _ _ h =>
        change ¬(ipcCallSetupInd s callId).1.calls j = none
        rw [← identityAt_eq_none_iff, h]
        by_cases hjk : j = k
        · rw [hjk, Function.update_self]
          exact nofun
        · rw [Function.update_of_ne hjk, identityAt_eq_none_iff]
          exact hj
      | released id cause k x he => exact he.elim nofun nofun
    | error callId error =>
      obtain ⟨k, -, hk⟩ := Option.map_eq_some_iff.mp h
      cases hk
    | _ => exact hsame (callIndication_identityAt _ nofun nofun nofun nofun)

theorem confirmed_iff (hs : Tracks s) (h : TrackedStep s a u) : Confirmed s a u ↔ NoCrossing s a := by
  obtain ⟨hstep, -⟩ := trackedStep_iff.mp h
  have hu : (callHandler s.data a.1).1 = u.data := congrArg Prod.fst hstep
  have hout : (callHandler s.data a.1).2 = a.2 := congrArg Prod.snd hstep
  unfold Confirmed NoCrossing
  cases he : a.1 with
  | request t c => exact iff_of_true nofun trivial
  | indication ind =>
    rw [he] at hu hout
    have hsettled := callIndication_settledAt hs.noTones ind
    change (callIndicationHandler s.data ind).1 = _ at hu
    change (callIndicationHandler s.data ind).2 = _ at hout
    constructor
    · intro hconfirmed i p htarget hp
      have hpending : s.data.pendingAt i ≠ none := by
        rw [Ne, ← hs.pending, hp]
        exact nofun
      obtain ⟨t, ht⟩ := Option.ne_none_iff_exists'.mp hpending
      rw [htarget] at hsettled
      cases hsettled with
      | settled _ _ _ _ hi hresults =>
        rw [hu] at hi
        rw [hout, ht] at hresults
        obtain ⟨q, hq, hconfirms, hgone⟩ := hconfirmed ind i t rfl ht hi (by simp [hresults])
        obtain rfl := Option.some.inj (hp.symm.trans hq)
        refine ⟨hconfirms, fun j hj => ?_⟩
        have hgone' := hgone j hj
        rw [← hu] at hgone'
        exact (settles_released htarget (hs.present i p j hp hj)).mp hgone'
    · rintro hno _ i t ⟨⟩ ht hi hmem
      rw [← hu] at hi
      rw [← hout] at hmem
      cases htarget : ind.settles s.data with
      | none =>
        rw [htarget] at hsettled
        cases hsettled with
        | kept hkeeps _ =>
          rw [hkeeps.pending, ht] at hi
          cases hi
      | some q =>
        obtain ⟨j, e⟩ := q
        rw [htarget] at hsettled
        cases hsettled with
        | settled _ _ _ hoff _ hresults =>
          have hij : i = j := by
            by_contra hne
            rw [hoff i hne, ht] at hi
            cases hi
          subst hij
          have hsuccess : e = .success := by
            rw [hresults, ht] at hmem
            simpa using (Prod.mk.inj (List.mem_singleton.mp hmem)).2.symm
          subst hsuccess
          have hrecord : s.operations i ≠ none := by
            rw [Ne, hs.pending, ht]
            exact nofun
          obtain ⟨p, hp⟩ := Option.ne_none_iff_exists'.mp hrecord
          obtain ⟨hconfirms, hends⟩ := hno i p htarget hp
          refine ⟨p, hp, hconfirms, fun j hj => ?_⟩
          rw [← hu]
          exact (settles_released htarget (hs.present i p j hp hj)).mpr (hends j hj)

end Step

section Runs

variable {tr : List (CallEvent × List CallEffect)} {s : TrackedCalls}

theorem init_tracks : Tracks .init := ⟨init_noTones, fun _ => iff_of_true rfl rfl, nofun⟩

/-- **The runs that report a pending request as successful only by its own confirmation** are the
runs without crossings. -/
theorem call_confirmed_iff :
    Run (fun s a u => TrackedStep s a u ∧ Confirmed s a u) .init tr s ↔
      Run (TrackedStep.when NoCrossing) .init tr s := by
  refine Run.congr Tracks (fun s a u hs h => trackedStep_tracks hs h.1) (fun s a u hs => ?_) init_tracks
  rw [Step.when, and_comm]
  exact and_congr_left fun h => confirmed_iff hs h

/-- A call is dialed and named, and the other side answers while the user hangs up: CONNECTED_IND
completes the hang-up, and the call stays in the table. -/
theorem not_confirmed_hangup :
    ¬∀ (tr : List (CallEvent × List CallEffect)) (s : TrackedCalls), Run TrackedStep .init tr s →
      Run (fun s a u => TrackedStep s a u ∧ Confirmed s a u) .init tr s := by
  intro h
  have hconfirmed := (h _ _ (Run.exec trackedHandler .init
    ([.request ⟨1, by decide⟩ (.dial (some ⟨[0x31]⟩) 0), .indication (.setupInd 1),
      .request ⟨2, by decide⟩ (.hangup (some ⟨1, by decide⟩))] ++
        [.indication (.connected 1)]))).exec_last
  obtain ⟨p, hp, hconfirms, -⟩ :=
    hconfirmed (.connected 1) ⟨0, by decide⟩ 2 rfl (by decide) (by decide) (by decide)
  obtain rfl : (⟨.hangup, some ⟨0, by decide⟩⟩ : PendingOperation) = p := Option.some.inj hp
  exact absurd hconfirms (by decide)

end Runs

end Mocha.Ril
