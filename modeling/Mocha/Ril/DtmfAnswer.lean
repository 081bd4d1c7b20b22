import Mocha.Ril.CallModule
import Mocha.Ril.CallTokens

/-! Requests for tones and the confirmations of the modem. There is one variable for the token of a
start and one for that of a stop, which a confirmation of the kind completes; a start that finds a tone
on sends a stop of its own, which is confirmed as well. -/
namespace Mocha.Ril
open Mocha.Lib

inductive DtmfKind
  | start
  | stop
deriving DecidableEq, Repr

/-- A packet that the modem has not confirmed yet, with the token of the request that it carries out.
The stop in front of a start carries out none. -/
structure DtmfPacket where
  kind : DtmfKind
  token : Option RilToken
deriving DecidableEq

/-- The call module, and the packets to be confirmed, in the order in which they were sent. -/
structure DtmfExchange where
  calls : CallModule
  packets : List DtmfPacket
deriving DecidableEq

/-- A confirmation comes with the packet that it confirms. -/
inductive DtmfEvent
  | start (t : RequestToken) (data : Option UInt8)
  | stop (t : RequestToken)
  | confirmation (p : DtmfPacket) (reason : UInt32)
deriving DecidableEq

/-- What the call module gets. -/
def DtmfEvent.callEvent : DtmfEvent → CallModuleEvent
  | .start t data => .request t (.dtmfStart data)
  | .stop t => .request t .dtmfStop
  | .confirmation ⟨.start, _⟩ reason => .indication (.dtmfStart reason)
  | .confirmation ⟨.stop, _⟩ reason => .indication (.dtmfStop reason)

/-- The packets that a request sends. -/
def dtmfPackets (kind : DtmfKind) (t : RilToken) (out : List CallModuleEffect) : List DtmfPacket :=
  out.filterMap fun
    | .tapiStartDtmf .. => some ⟨.start, if kind = .start then some t else none⟩
    | .tapiStopDtmf _ => some ⟨.stop, if kind = .stop then some t else none⟩
    | _ => none

def DtmfEvent.packets (before : List DtmfPacket) (out : List CallModuleEffect) :
    DtmfEvent → List DtmfPacket
  | .start t _ => before ++ dtmfPackets .start t.1 out
  | .stop t => before ++ dtmfPackets .stop t.1 out
  | .confirmation .. => before.tail

def dtmfHandler (s : DtmfExchange) (e : DtmfEvent) : DtmfExchange × List CallModuleEffect :=
  let r := callModuleHandler s.calls e.callEvent
  (⟨r.1, e.packets s.packets r.2⟩, r.2)

/-- The modem confirms the packets in the order in which they were sent. -/
def DtmfEvent.Expected (s : DtmfExchange) : DtmfEvent → Prop
  | .confirmation p _ => s.packets.head? = some p
  | _ => True

abbrev DtmfStep : Step DtmfExchange (DtmfEvent × List CallModuleEffect) :=
  (Step.ofFun dtmfHandler).when fun s a => a.1.Expected s

def CallModuleEffect.completed : CallModuleEffect → Option RilToken
  | .control (.complete c) => some c.token
  | .currentCalls c => some c.token
  | .lastCallFailCause c => some c.token
  | _ => none

/-- The tokens that `ril_request_complete` is called with, in order; null is one of them. -/
def dtmfCompleted (tr : List (DtmfEvent × List CallModuleEffect)) : List RilToken :=
  (outputs tr).filterMap CallModuleEffect.completed

def DtmfEvent.requestToken : DtmfEvent → Option RilToken
  | .start t _ => some t.1
  | .stop t => some t.1
  | .confirmation .. => none

/-- The tokens of the requests, in order. -/
def dtmfRequested (tr : List (DtmfEvent × List CallModuleEffect)) : List RilToken :=
  (inputs tr).filterMap DtmfEvent.requestToken

/-- The requests whose packets are to be confirmed. -/
def DtmfExchange.awaited (s : DtmfExchange) : List RilToken := s.packets.filterMap (·.token)

/-- The variable that holds the token of a kind. -/
def DtmfExchange.slot (s : DtmfExchange) : DtmfKind → RilToken
  | .start => s.calls.table.tokenDtmfStart
  | .stop => s.calls.table.tokenDtmfStop

/-- A confirmation that answers a request completes its token. Each token is completed once, when its
request is answered, and no other one is. -/
structure DtmfAnswered (tr : List (DtmfEvent × List CallModuleEffect)) (s : DtmfExchange) : Prop where
  own : ∀ p reason out t, (.confirmation p reason, out) ∈ tr → p.token = some t →
    out.filterMap CallModuleEffect.completed = [t]
  once : ∀ t ∈ dtmfRequested tr, (dtmfCompleted tr).count t = if t ∈ s.awaited then 0 else 1
  notNull : rilTokenNull ∉ dtmfCompleted tr
  notAgain : (dtmfCompleted tr).Nodup

/-- A confirmation answers a request, and no other request of its kind was made after that. -/
def FindsOwnTone (s : DtmfExchange) (a : DtmfEvent × List CallModuleEffect) : Prop :=
  match a.1 with
  | .confirmation p _ => p.token = some (s.slot p.kind)
  | _ => True

section Step

variable {s u : DtmfExchange} {t : RequestToken} {tr : List (DtmfEvent × List CallModuleEffect)}

@[simp] theorem dtmfCompleted_snoc (a : DtmfEvent × List CallModuleEffect) :
    dtmfCompleted (tr ++ [a]) = dtmfCompleted tr ++ a.2.filterMap CallModuleEffect.completed := by
  simp [dtmfCompleted, outputs]

@[simp] theorem dtmfRequested_snoc (a : DtmfEvent × List CallModuleEffect) :
    dtmfRequested (tr ++ [a]) = dtmfRequested tr ++ a.1.requestToken.toList := by
  cases h : a.1.requestToken <;> simp [dtmfRequested, inputs, h]

/-- What a request does while a call is active: it waits for a confirmation, or is answered. -/
structure DtmfTaken (s u : DtmfExchange) (t : RilToken) (out : List CallModuleEffect) : Prop where
  active : findActiveCall u.calls.table = findActiveCall s.calls.table
  slots : ∀ kind, u.slot kind = s.slot kind ∨ u.slot kind = t
  answer : (u.awaited = s.awaited ++ [t] ∧ out.filterMap CallModuleEffect.completed = []) ∨
    (u.awaited = s.awaited ∧ out.filterMap CallModuleEffect.completed = [t])

theorem dtmfStart_taken (hactive : findActiveCall s.calls.table ≠ none) (data : Option UInt8) :
    DtmfTaken s (dtmfHandler s (.start t data)).1 t.1 (dtmfHandler s (.start t data)).2 := by
  obtain ⟨activeCall, hcall⟩ := Option.ne_none_iff_exists'.mp hactive
  have hrequest : callModuleHandler s.calls (.request t (.dtmfStart data)) =
      rilRequestDtmfStart s.calls t.1 data := rfl
  unfold dtmfHandler
  rw [DtmfEvent.callEvent, hrequest]
  unfold rilRequestDtmfStart
  rw [hcall]
  cases data with
  | none =>
    refine ⟨rfl, fun kind => .inl (by cases kind <;> rfl), .inr ⟨?_, rfl⟩⟩
    simp [DtmfExchange.awaited, DtmfEvent.packets, dtmfPackets]
  | some tone =>
    refine ⟨rfl, fun kind => ?_, .inl ?_⟩
    · cases kind with
      | start => exact .inr rfl
      | stop => exact .inl rfl
    · dsimp only
      split_ifs <;>
        exact ⟨by simp [DtmfExchange.awaited, DtmfEvent.packets, dtmfPackets], rfl⟩

theorem dtmfStop_taken (hactive : findActiveCall s.calls.table ≠ none) :
    DtmfTaken s (dtmfHandler s (.stop t)).1 t.1 (dtmfHandler s (.stop t)).2 := by
  obtain ⟨activeCall, hcall⟩ := Option.ne_none_iff_exists'.mp hactive
  have hrequest : callModuleHandler s.calls (.request t .dtmfStop) =
      rilRequestDtmfStop s.calls t.1 := rfl
  unfold dtmfHandler
  rw [DtmfEvent.callEvent, hrequest, rilRequestDtmfStop, hcall]
  refine ⟨rfl, fun kind => ?_, .inl ⟨?_, rfl⟩⟩
  · cases kind with
    | start => exact .inl rfl
    | stop => exact .inr rfl
  · simp [DtmfExchange.awaited, DtmfEvent.packets, dtmfPackets]

/-- A confirmation completes what the variable of its kind holds, and leaves it there. -/
theorem dtmfConfirmation_eq (p : DtmfPacket) (reason : UInt32) :
    dtmfHandler s (.confirmation p reason) = (⟨s.calls, s.packets.tail⟩,
      [.control (.complete ⟨s.slot p.kind, causeErrno reason, none⟩)]) := by
  obtain ⟨kind, token⟩ := p
  cases kind <;> rfl

/-- The tokens of the requests wait, or have been completed by their own confirmations. -/
structure DtmfInv (tr : List (DtmfEvent × List CallModuleEffect)) (s : DtmfExchange) : Prop where
  active : findActiveCall s.calls.table ≠ none
  own : ∀ p reason out t, (.confirmation p reason, out) ∈ tr → p.token = some t →
    out.filterMap CallModuleEffect.completed = [t]
  balance : (s.awaited : Multiset RilToken) + dtmfCompleted tr = dtmfRequested tr
  slots : ∀ kind, s.slot kind = rilTokenNull ∨ s.slot kind ∈ dtmfRequested tr

theorem dtmfRequested_ne_null {t : RilToken} (h : t ∈ dtmfRequested tr) : t ≠ rilTokenNull := by
  obtain ⟨e, -, he⟩ := List.mem_filterMap.mp h
  cases e with
  | start t data =>
    obtain rfl := Option.some.inj he
    exact t.2
  | stop t =>
    obtain rfl := Option.some.inj he
    exact t.2
  | confirmation p reason => cases he

theorem DtmfInv.answered (h : DtmfInv tr s) (hnodup : (dtmfRequested tr).Nodup) :
    DtmfAnswered tr s := by
  obtain ⟨-, hdone, hdisjoint⟩ := nodup_of_owed h.balance.le hnodup
  refine ⟨h.own, fun t ht => ?_, fun hnull => ?_, hdone⟩
  · by_cases hawaited : t ∈ s.awaited
    · rw [if_pos hawaited, List.count_eq_zero]
      exact hdisjoint t hawaited
    · rw [if_neg hawaited]
      have hpaid := (held_or_paid h.balance.ge ht).resolve_left hawaited
      exact List.count_eq_one_of_mem hdone hpaid
  · exact dtmfRequested_ne_null (owed_of_paid h.balance.le hnull) rfl

/-- A request adds its token to those that wait or have been completed. -/
theorem DtmfInv.request (h : DtmfInv tr s) {e : DtmfEvent} {out : List CallModuleEffect} {t : RilToken}
    (htoken : e.requestToken = some t) (htaken : DtmfTaken s u t out) :
    DtmfInv (tr ++ [(e, out)]) u where
  active := htaken.active ▸ h.active
  own p reason out' t' hmem hp := by
    rcases List.mem_append.mp hmem with hmem | hmem
    · exact h.own p reason out' t' hmem hp
    · obtain ⟨rfl, rfl⟩ := Prod.mk.inj (List.mem_singleton.mp hmem)
      cases htoken
  balance := by
    rw [dtmfCompleted_snoc, dtmfRequested_snoc, htoken, Option.toList_some, ← Multiset.coe_add,
      ← Multiset.coe_add, ← h.balance]
    rcases htaken.answer with ⟨hawaited, hdone⟩ | ⟨hawaited, hdone⟩
    · rw [hawaited, hdone, ← Multiset.coe_add, Multiset.coe_nil, add_zero]
      abel
    · rw [hawaited, hdone]
      abel
  slots kind := by
    rw [dtmfRequested_snoc, htoken, Option.toList_some]
    rcases htaken.slots kind with hslot | hslot
    · rw [hslot]
      exact (h.slots kind).imp_right (List.mem_append_left _)
    · rw [hslot]
      exact .inr (List.mem_append_right _ List.mem_cons_self)

/-- The confirmation of a packet, whose token it completes. -/
theorem DtmfInv.confirmation (h : DtmfInv tr s) {p : DtmfPacket} {rest : List DtmfPacket}
    {reason : UInt32} (hpackets : s.packets = p :: rest) (hown : p.token = some (s.slot p.kind)) :
    DtmfInv (tr ++ [(.confirmation p reason,
      [.control (.complete ⟨s.slot p.kind, causeErrno reason, none⟩)])]) ⟨s.calls, rest⟩ where
  active := h.active
  own q reason' out' t' hmem hq := by
    rcases List.mem_append.mp hmem with hmem | hmem
    · exact h.own q reason' out' t' hmem hq
    · obtain ⟨hevent, rfl⟩ := Prod.mk.inj (List.mem_singleton.mp hmem)
      cases hevent
      obtain rfl := Option.some.inj (hown.symm.trans hq)
      rfl
  balance := by
    have hawaited : s.awaited = s.slot p.kind :: DtmfExchange.awaited ⟨s.calls, rest⟩ := by
      rw [DtmfExchange.awaited, hpackets, List.filterMap_cons, hown]
      rfl
    have hbalance := h.balance
    rw [hawaited, ← Multiset.cons_coe, ← Multiset.singleton_add] at hbalance
    rw [dtmfCompleted_snoc, dtmfRequested_snoc]
    change ((_ : List RilToken) : Multiset RilToken) + ((dtmfCompleted tr ++ [s.slot p.kind] : List RilToken) :
      Multiset RilToken) = ((dtmfRequested tr ++ [] : List RilToken) : Multiset RilToken)
    rw [List.append_nil, ← hbalance, ← Multiset.coe_add, Multiset.coe_singleton]
    abel
  slots kind := by
    rw [dtmfRequested_snoc]
    exact (h.slots kind).imp_right (List.mem_append_left _)

theorem DtmfStep.inv {a : DtmfEvent × List CallModuleEffect} (h : DtmfInv tr s)
    (hfinds : FindsOwnTone s a) (hstep : DtmfStep s a u) : DtmfInv (tr ++ [a]) u := by
  obtain ⟨e, out⟩ := a
  obtain ⟨hexpected, heq⟩ := hstep
  obtain rfl : (dtmfHandler s e).1 = u := congrArg Prod.fst heq
  obtain rfl : (dtmfHandler s e).2 = out := congrArg Prod.snd heq
  cases e with
  | start t data => exact h.request rfl (dtmfStart_taken h.active data)
  | stop t => exact h.request rfl (dtmfStop_taken h.active)
  | confirmation p reason =>
    obtain ⟨rest, hpackets⟩ := List.head?_eq_some_iff.mp hexpected
    rw [dtmfConfirmation_eq, hpackets]
    exact h.confirmation hpackets hfinds

/-- Nothing but its own token can be completed by a confirmation: null is none, a token that waits is
to be completed by its own confirmation, and the others have been completed. -/
theorem DtmfInv.finds (h : DtmfInv tr s) {p : DtmfPacket} {rest : List DtmfPacket} {reason : UInt32}
    (hpackets : s.packets = p :: rest) (hafter : DtmfAnswered (tr ++ [(.confirmation p reason,
      [.control (.complete ⟨s.slot p.kind, causeErrno reason, none⟩)])]) ⟨s.calls, rest⟩) :
    p.token = some (s.slot p.kind) := by
  cases htoken : p.token with
  | some t =>
    have hown := hafter.own p reason _ t (List.mem_append_right _ List.mem_cons_self) htoken
    exact congrArg some (List.singleton_inj.mp hown).symm
  | none =>
    exfalso
    have hawaited : DtmfExchange.awaited ⟨s.calls, rest⟩ = s.awaited := by
      rw [DtmfExchange.awaited, DtmfExchange.awaited, hpackets, List.filterMap_cons, htoken]
    have hdone : s.slot p.kind ∈ dtmfCompleted (tr ++ [(.confirmation p reason,
        [.control (.complete ⟨s.slot p.kind, causeErrno reason, none⟩)])]) := by
      rw [dtmfCompleted_snoc]
      exact List.mem_append_right _ List.mem_cons_self
    have hrequested : s.slot p.kind ∈ dtmfRequested tr := by
      refine (h.slots p.kind).resolve_left fun hnull => ?_
      exact hafter.notNull (hnull ▸ hdone)
    have hwaits : s.slot p.kind ∉ s.awaited := by
      intro hwaits
      have honce := hafter.once (s.slot p.kind) (by
        rw [dtmfRequested_snoc]
        exact List.mem_append_left _ hrequested)
      rw [hawaited, if_pos hwaits] at honce
      exact List.count_eq_zero.mp honce hdone
    have hbefore := (held_or_paid h.balance.ge hrequested).resolve_left hwaits
    have hagain := hafter.notAgain
    rw [dtmfCompleted_snoc] at hagain
    exact (List.nodup_append.mp hagain).2.2 _ hbefore _ List.mem_cons_self rfl

end Step

section Runs

variable {s₀ : CallModule} {s : DtmfExchange} {tr : List (DtmfEvent × List CallModuleEffect)}

/-- **Each tone request is answered by its own confirmation** in all of a run exactly if, in that run,
each confirmation is one of a request and no other request of its kind came after that. -/
theorem dtmfAnswered_iff (hactive : findActiveCall s₀.table ≠ none) (htones : s₀.table.NoTones)
    (hnodup : (dtmfRequested tr).Nodup) :
    (Run DtmfStep ⟨s₀, []⟩ tr s ∧
        ∀ tr₁ u, tr₁ <+: tr → Run DtmfStep ⟨s₀, []⟩ tr₁ u → DtmfAnswered tr₁ u) ↔
      Run (DtmfStep.when FindsOwnTone) ⟨s₀, []⟩ tr s := by
  refine Run.prefixes_iff (N := fun tr => (dtmfRequested tr).Nodup) (I := DtmfInv)
    (P := DtmfAnswered) ?_ ?_ ?_ ?_ ?_ ?_ hnodup
  · intro s a t t' h h'
    exact Step.ofFun_deterministic h.2 h'.2
  · intro tr tr' hpre hnodup
    exact hnodup.sublist ((hpre.map Prod.fst).filterMap _).sublist
  · refine ⟨hactive, fun p reason out t hmem _ => absurd hmem List.not_mem_nil, rfl, fun kind => ?_⟩
    cases kind with
    | start => exact .inl htones.1
    | stop => exact .inl htones.2
  · intro tr u a v _ hinv hfinds hstep
    exact hstep.inv hinv hfinds
  · intro tr u hnodup hinv
    exact hinv.answered hnodup
  · rintro tr u ⟨e, out⟩ v - hinv hstep hafter
    cases e with
    | confirmation p reason =>
      obtain ⟨hexpected, hstep⟩ := hstep
      have heq : dtmfHandler u (.confirmation p reason) = (v, out) := hstep
      obtain ⟨rest, hpackets⟩ := List.head?_eq_some_iff.mp hexpected
      rw [dtmfConfirmation_eq, hpackets] at heq
      obtain ⟨rfl, rfl⟩ := Prod.mk.inj heq
      exact hinv.finds hpackets hafter
    | start t data => trivial
    | stop t => trivial

/-- A call comes in, is answered and connected. -/
def connectedCall : CallModule := (exec callModuleHandler .init
  [.indication (.incoming ⟨1, 0, []⟩), .request ⟨1, by decide⟩ (.control .answer),
    .indication (.connected 1)]).2

/-- A tone is started and stopped. -/
theorem dtmfAnswered_startStop :
    let r := exec dtmfHandler ⟨connectedCall, []⟩ [.start ⟨2, by decide⟩ (some 0x31),
      .confirmation ⟨.start, some 2⟩ 0, .stop ⟨3, by decide⟩, .confirmation ⟨.stop, some 3⟩ 0]
    Run DtmfStep ⟨connectedCall, []⟩ r.1 r.2 ∧
      ∀ tr₁ u, tr₁ <+: r.1 → Run DtmfStep ⟨connectedCall, []⟩ tr₁ u → DtmfAnswered tr₁ u := by
  intro r
  apply (dtmfAnswered_iff (by decide) ⟨rfl, rfl⟩ (by decide)).mpr
  exact .cons ⟨trivial, trivial, rfl⟩ (.cons ⟨rfl, rfl, rfl⟩ (.cons ⟨trivial, trivial, rfl⟩
    (.cons ⟨rfl, rfl, rfl⟩ .nil)))

/-- A second tone is started while the first one is on. The confirmation of the stop in front of it
completes null. -/
theorem not_dtmfAnswered_secondTone :
    ¬∀ (s₀ : CallModule) (tr : List (DtmfEvent × List CallModuleEffect)) (s : DtmfExchange),
      findActiveCall s₀.table ≠ none → s₀.table.NoTones → (dtmfRequested tr).Nodup →
      Run DtmfStep ⟨s₀, []⟩ tr s → DtmfAnswered tr s := by
  intro h
  obtain ⟨r, hr⟩ : ∃ r, r = exec dtmfHandler ⟨connectedCall, []⟩ [.start ⟨2, by decide⟩ (some 0x31),
    .confirmation ⟨.start, some 2⟩ 0, .start ⟨3, by decide⟩ (some 0x32),
    .confirmation ⟨.stop, none⟩ 0] := ⟨_, rfl⟩
  have hrun : Run DtmfStep ⟨connectedCall, []⟩ r.1 r.2 := by
    subst hr
    exact .cons ⟨trivial, rfl⟩ (.cons ⟨rfl, rfl⟩ (.cons ⟨trivial, rfl⟩ (.cons ⟨rfl, rfl⟩ .nil)))
  have hanswered := h connectedCall r.1 r.2 (by decide) ⟨rfl, rfl⟩ (by subst hr; decide) hrun
  subst hr
  exact absurd hanswered.notNull (by decide)

end Runs

end Mocha.Ril
