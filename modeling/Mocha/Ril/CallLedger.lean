import Mathlib.Algebra.Order.Monoid.Unbundled.Pow
import Mocha.Ril.CallTokens

/-! The tokens of call requests along runs. No token is lost as long as ANSWER finds a ringing call
and SWITCH something other than waiting calls, and none is used twice as long as ANSWER finds one
ringing call. -/
namespace Mocha.Ril
open Mocha.Lib

def CallEvent.token : CallEvent → Option RilToken
  | .request t _ => some t.1
  | .indication _ => none

/-- The tokens of the requests of a run, in order. -/
def issued (tr : List (CallEvent × List CallEffect)) : List RilToken :=
  (inputs tr).filterMap CallEvent.token

/-- A token has been completed, or is stored in a context. -/
def Kept (t : RilToken) (r : CallData × List CallEffect) : Prop :=
  t ∈ completions r.2 ∨ r.1.Stores t

instance (t : RilToken) (r : CallData × List CallEffect) : Decidable (Kept t r) :=
  inferInstanceAs (Decidable (t ∈ completions r.2 ∨ r.1.Stores t))

/-- No request drops its token. -/
def RequestsKept (s : CallData) (a : CallEvent × List CallEffect) : Prop :=
  ∀ t c, a.1 = .request t c → KeepsToken s c

/-- No request uses its token twice. -/
def AnsweredOnce (s : CallData) (a : CallEvent × List CallEffect) : Prop :=
  ∀ t c, a.1 = .request t c → AnswersOnce s c

theorem stores_iff {s : CallData} {t : RilToken} : s.Stores t ↔ t ∈ held s.pendingAt :=
  mem_held.symm

theorem completions_outputs (tr : List (CallEvent × List CallEffect)) :
    completions (outputs tr) = tr.flatMap fun a => completions a.2 :=
  filterMap_outputs CallEffect.completed tr

theorem held_init : held CallData.init.pendingAt = 0 := by
  refine Multiset.eq_zero_of_forall_notMem fun t ht => ?_
  obtain ⟨i, hi⟩ := mem_held.mp ht
  cases hi

section Step

variable {s u : CallData} {a : CallEvent × List CallEffect}

theorem callStep_noTones (hs : s.NoTones) (h : CallStep s a u) : u.NoTones := by
  have hsame : SameTones s (callHandler s a.1).1 := by
    cases a.1 with
    | request t c =>
      obtain ⟨n, hledger, -⟩ := callRequest_ledger (s := s) t.2 c
      exact hledger.tones
    | indication ind => exact (callIndication_settled hs ind).sameTones
  have hu : (callHandler s a.1).1 = u := congrArg Prod.fst h
  rw [hu] at hsame
  exact ⟨hsame.1.trans hs.1, hsame.2.trans hs.2⟩

/-- The balance of one step, whose request uses its token `n` times. -/
theorem callStep_ledger (hs : s.NoTones) (h : CallStep s a u) :
    ∃ n, held u.pendingAt + (completions a.2 : Multiset RilToken) =
        held s.pendingAt + n • (a.1.token.toList : Multiset RilToken) ∧
      (RequestsKept s a → 1 ≤ n) ∧ (AnsweredOnce s a → n ≤ 1) := by
  obtain ⟨e, out⟩ := a
  change callHandler s e = (u, out) at h
  cases e with
  | request t c =>
    obtain ⟨n, hledger, hkept, hone⟩ := callRequest_ledger (s := s) t.2 c
    change callRequestHandler s t.1 c = (u, out) at h
    rw [h] at hledger
    refine ⟨n, ?_, fun hc => hkept.mpr (hc t c rfl), fun hc => hone (hc t c rfl)⟩
    rw [hledger.balance, CallEvent.token, Option.toList_some, Multiset.coe_singleton,
      Multiset.nsmul_singleton]
  | indication ind =>
    have hledger := (callIndication_settled hs ind).ledger
    change callIndicationHandler s ind = (u, out) at h
    rw [h] at hledger
    refine ⟨1, ?_, fun _ => le_rfl, fun _ => le_rfl⟩
    rw [hledger, CallEvent.token, Option.toList_none, Multiset.coe_nil, nsmul_zero, add_zero]

/-- A step whose request keeps its token loses none. -/
theorem callStep_kept (hs : s.NoTones) (hkept : RequestsKept s a) (h : CallStep s a u) :
    held s.pendingAt + (a.1.token.toList : Multiset RilToken) ≤
      held u.pendingAt + (completions a.2 : Multiset RilToken) := by
  obtain ⟨n, hbalance, hn, -⟩ := callStep_ledger hs h
  have hpos : n ≠ 0 := Nat.one_le_iff_ne_zero.mp (hn hkept)
  have hle : (a.1.token.toList : Multiset RilToken) ≤ n • (a.1.token.toList : Multiset RilToken) :=
    le_self_nsmul bot_le hpos
  rw [hbalance]
  exact add_le_add_right hle _

/-- A step whose request uses its token at most once adds none. -/
theorem callStep_once (hs : s.NoTones) (honce : AnsweredOnce s a) (h : CallStep s a u) :
    held u.pendingAt + (completions a.2 : Multiset RilToken) ≤
      held s.pendingAt + (a.1.token.toList : Multiset RilToken) := by
  obtain ⟨n, hbalance, -, hn⟩ := callStep_ledger hs h
  have hle : n • (a.1.token.toList : Multiset RilToken) ≤ a.1.token.toList := by
    calc n • (a.1.token.toList : Multiset RilToken) ≤ 1 • (a.1.token.toList : Multiset RilToken) :=
          nsmul_le_nsmul_left bot_le (hn honce)
      _ = _ := one_nsmul _
  rw [hbalance]
  exact add_le_add_right hle _

end Step

section Runs

variable {tr : List (CallEvent × List CallEffect)} {s : CallData}

theorem init_noTones : CallData.init.NoTones := ⟨rfl, rfl⟩

theorem run_noTones (h : Run CallStep .init tr s) : s.NoTones :=
  h.invariant CallData.NoTones (fun _ _ _ hs => callStep_noTones hs) init_noTones

/-- The states of a run have no tone requests pending. -/
theorem run_withoutTones {C : CallData → CallEvent × List CallEffect → Prop}
    (h : Run (CallStep.when C) .init tr s) :
    Run ((CallStep.when C).when fun s _ => s.NoTones) .init tr s :=
  h.strengthen CallData.NoTones (fun _ _ _ hs h => callStep_noTones hs h.2) init_noTones

/-- Along a run without dropped requests every token has been completed or is held. -/
theorem issued_le (h : Run (CallStep.when RequestsKept) .init tr s) :
    (issued tr : Multiset RilToken) ≤
      held s.pendingAt + (completions (outputs tr) : Multiset RilToken) := by
  have hledger := (run_withoutTones h).conservation_ge (fun s => held s.pendingAt)
    (fun a => (a.1.token.toList : Multiset RilToken))
    (fun a => (completions a.2 : Multiset RilToken)) fun s a u hstep => by
      obtain ⟨hs, hkept, h⟩ := hstep
      exact callStep_kept hs hkept h
  rwa [held_init, zero_add, sum_map_coe, sum_map_coe, ← filterMap_inputs,
    ← completions_outputs] at hledger

/-- Along a run without double answers no token is held or completed more often than it came. -/
theorem le_issued (h : Run (CallStep.when AnsweredOnce) .init tr s) :
    held s.pendingAt + (completions (outputs tr) : Multiset RilToken) ≤
      (issued tr : Multiset RilToken) := by
  have hledger := (run_withoutTones h).conservation_le (fun s => held s.pendingAt)
    (fun a => (a.1.token.toList : Multiset RilToken))
    (fun a => (completions a.2 : Multiset RilToken)) fun s a u hstep => by
      obtain ⟨hs, honce, h⟩ := hstep
      exact callStep_once hs honce h
  rwa [held_init, zero_add, sum_map_coe, sum_map_coe, ← filterMap_inputs,
    ← completions_outputs] at hledger

/-- What a run should keep to: a token is completed at most once, stored in at most one context,
and no longer stored once it is completed. -/
structure UsedOnce (tr : List (CallEvent × List CallEffect)) (s : CallData) : Prop where
  completed : (completions (outputs tr)).Nodup
  stored : ∀ i j t, s.pendingAt i = some t → s.pendingAt j = some t → i = j
  not_completed : ∀ i t, s.pendingAt i = some t → t ∉ completions (outputs tr)

/-- **A request is dropped** exactly when ANSWER has no ringing call or SWITCH has only waiting calls
without a request; no indication drops a token, and so no token of a run is lost without such a
request. -/
theorem call_kept (h : Run CallStep .init tr s) :
    (∀ (t : RequestToken) (c : CallRequest), ¬s.Stores t.1 →
      (Kept t.1 (callHandler s (.request t c)) ↔ KeepsToken s c)) ∧
    (∀ (ind : CallIndication) (i : Fin maxCalls) (t : RilToken), s.pendingAt i = some t →
      (callHandler s (.indication ind)).1.pendingAt i = some t ∨
        t ∈ completions (callHandler s (.indication ind)).2) ∧
    (Run (CallStep.when RequestsKept) .init tr s → ∀ t ∈ issued tr, Kept t (s, outputs tr)) := by
  refine ⟨fun t c hfresh => ?_, fun ind i t ht => ?_, fun hkept t ht => ?_⟩
  · obtain ⟨n, hledger, hn, -⟩ := callRequest_ledger (s := s) t.2 c
    rw [stores_iff] at hfresh
    have hmem := congrArg (t.1 ∈ ·) hledger.balance
    simp only [Multiset.mem_add, Multiset.mem_coe, hfresh, false_or, Multiset.mem_replicate,
      and_true, eq_iff_iff] at hmem
    -- the token is held or completed afterwards exactly if it was used at all
    rw [← hn, Nat.one_le_iff_ne_zero, ← hmem, Kept, stores_iff, or_comm]
    rfl
  · have hsettled : Settled s (callIndicationHandler s ind) :=
      callIndication_settled (run_noTones h) ind
    exact hsettled.stored ht
  · have hmem := held_or_paid (issued_le hkept) ht
    exact hmem.symm.imp_right stores_iff.mpr

/-- One call rings and is answered. -/
theorem call_kept_ringing :
    Kept 1 (callHandler (exec callHandler .init [.indication (.incoming ⟨1, 0, []⟩)]).2
      (.request ⟨1, by decide⟩ .answer)) := by
  refine ((call_kept (Run.exec callHandler .init _)).1 ⟨1, by decide⟩ .answer (by decide)).mpr ?_
  exact ⟨⟨0, by decide⟩, ⟨1, 0, 1, [], .incoming, rilTokenNull⟩, ⟨by decide, by decide⟩, rfl⟩

/-- The caller hangs up before the user answers: the request is dropped. -/
theorem not_kept_answer :
    ¬∀ (tr : List (CallEvent × List CallEffect)) (s : CallData), Run CallStep .init tr s →
      ∀ (t : RequestToken) (c : CallRequest), ¬s.Stores t.1 →
        Kept t.1 (callHandler s (.request t c)) := by
  intro h
  have hkept := h _ _ (Run.exec callHandler .init
    [.indication (.incoming ⟨1, 0, []⟩), .indication (.callEnd 1 0)]) ⟨1, by decide⟩ .answer
  exact absurd (hkept (by decide)) (by decide)

/-- **Along every run in which ANSWER finds one ringing call**, or has its request refused at the
first, every token is used at most once. -/
theorem call_usedOnce (h : Run (CallStep.when AnsweredOnce) .init tr s) (hn : (issued tr).Nodup) :
    UsedOnce tr s := by
  obtain ⟨hheld, hcompleted, hdisjoint⟩ := nodup_of_owed (le_issued h) hn
  constructor
  · exact hcompleted
  · intro i j t hi hj
    exact slot_unique hheld hi hj
  · intro i t ht hmem
    have hstored : t ∈ held s.pendingAt := mem_held.mpr ⟨i, ht⟩
    exact hdisjoint t hstored hmem

/-- One call rings, is answered and connected. -/
theorem call_usedOnce_ringing :
    UsedOnce (exec callHandler .init [.indication (.incoming ⟨1, 0, []⟩),
        .request ⟨1, by decide⟩ .answer, .indication (.connected 1)]).1
      (exec callHandler .init [.indication (.incoming ⟨1, 0, []⟩),
        .request ⟨1, by decide⟩ .answer, .indication (.connected 1)]).2 := by
  refine call_usedOnce ?_ (by decide)
  refine .cons ⟨?_, rfl⟩ (.cons ⟨?_, rfl⟩ (.cons ⟨?_, rfl⟩ .nil))
  · rintro _ _ ⟨⟩
  · rintro _ _ ⟨⟩
    exact .inl (by decide)
  · rintro _ _ ⟨⟩

/-- Two calls ring at once: ANSWER answers both, and its request is completed twice. -/
theorem not_usedOnce_twoRinging :
    ¬∀ (tr : List (CallEvent × List CallEffect)) (s : CallData), Run CallStep .init tr s →
      (issued tr).Nodup → UsedOnce tr s := by
  intro h
  have honce := h _ _ (Run.exec callHandler .init [.indication (.incoming ⟨1, 0, []⟩),
    .indication (.incoming ⟨2, 0, []⟩), .request ⟨1, by decide⟩ .answer,
    .indication (.connected 1), .indication (.connected 2)]) (by decide)
  exact absurd honce.completed (by decide)

end Runs

end Mocha.Ril
