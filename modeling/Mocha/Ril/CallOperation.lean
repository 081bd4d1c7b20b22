import Mocha.Ril.CallTokens

/-! The operation that a request has asked of the modem and waits for. A request keeps its token in
a context only after it has sent a packet, and only where no other request is pending. -/
namespace Mocha.Ril
open Mocha.Lib

inductive CallOperation
  | dial
  | answer
  | hangup
  | hold
  | swap
  | activate
deriving DecidableEq, Repr

/-- The operation that a packet asks for. -/
def CallEffect.operation : CallEffect → Option CallOperation
  | .tapiCallSetup _ => some .dial
  | .tapiCallRelease .. => some .hangup
  | .tapiCallAnswer .. => some .answer
  | .tapiCallHold _ => some .hold
  | .tapiCallActivate _ => some .activate
  | .tapiCallsSwap .. => some .swap
  | .complete _ | .rilUnsolCallRing | .rilUnsolResponseCallStateChanged => none

/-- The operation of the packet that was sent last: the one that the token waits for. -/
def lastOperation (out : List CallEffect) : Option CallOperation :=
  out.reverse.findSome? CallEffect.operation

/-- The pending requests stay, and a new one joins them where none was pending, after a packet. -/
def Joined (s : CallData) (t : RilToken) (r : CallData × List CallEffect) : Prop :=
  ∀ i, r.1.pendingAt i = s.pendingAt i ∨
    s.pendingAt i = none ∧ r.1.pendingAt i = some t ∧ lastOperation r.2 ≠ none

variable {s u : CallData} {t : RilToken} {r : CallData × List CallEffect} {out : List CallEffect}

theorem Joined.stays (h : Joined s t r) {i : Fin maxCalls} {x : RilToken}
    (hx : s.pendingAt i = some x) : r.1.pendingAt i = some x := by
  rcases h i with hsame | ⟨hnone, -⟩
  · rw [hsame, hx]
  · rw [hx] at hnone
    cases hnone

theorem joined_of_keeps (h : Keeps s u) : Joined s t (u, out) := fun i => .inl (congrFun h.pending i)

theorem operation_packet {e : CallEffect} (h : e.isPacket) : e.operation ≠ none := by
  cases e with
  | complete c => cases h
  | rilUnsolCallRing | rilUnsolResponseCallStateChanged => cases h
  | _ => exact Option.some_ne_none _

theorem lastOperation_cons_ne_none {e : CallEffect}
    (h : e.operation ≠ none ∨ lastOperation out ≠ none) : lastOperation (e :: out) ≠ none := by
  rw [lastOperation, List.reverse_cons, List.findSome?_append, Ne, Option.or_eq_none_iff, not_and_or]
  rcases h with he | hout
  · right
    simpa using he
  · exact .inl hout

section Requests

variable (ht : t ≠ rilTokenNull)
include ht

theorem joined_store {i : Fin maxCalls} (hu : Keeps s u) (hi : u.calls i ≠ none)
    (hnone : u.pendingAt i = none) (hout : lastOperation out ≠ none) :
    Joined s t (u.setToken i t, out) := by
  intro j
  by_cases hj : j = i
  · subst hj
    refine .inr ⟨by rw [← hu.pending, hnone], ?_, hout⟩
    exact pendingAt_eq_some_iff.mpr ⟨tokenAt_setToken hi, ht⟩
  · left
    rw [← hu.pending]
    exact pendingAt_put_of_ne hj _

theorem rilRequestDialFitting_joined (data : Option RilDial) (now : UInt32) :
    Joined s t (rilRequestDialFitting s t data now) := by
  rcases rilRequestDialFitting_cases s t data now with hrefused | ⟨dial, i, _, -, -, hfree, hdial⟩
  · rw [hrefused]
    exact joined_of_keeps .refl
  · rw [hdial]
    obtain ⟨hcalls, hnone⟩ := pendingAt_put_context
    exact joined_store ht (keeps_put_context hfree) hcalls hnone
      (by simp [lastOperation, CallEffect.operation])

theorem answerCalls_joined (is : List (Fin maxCalls)) : Joined s t (answerCalls t is s) := by
  induction is generalizing s with
  | nil => exact joined_of_keeps .refl
  | cons i is ih =>
    rw [answerCalls]
    cases hc : s.calls i with
    | none => exact ih
    | some c =>
      dsimp only
      split_ifs with hlive htoken
      · exact joined_of_keeps .refl
      · have hcalls : s.calls i ≠ none := by simp [hc]
        have hnone : s.pendingAt i = none := by
          rw [pendingAt_eq_none_iff, tokenAt_eq hc, not_not.mp htoken]
        have hout : lastOperation (.tapiCallAnswer c.callType.toUInt8 c.callId ::
            (answerCalls t is (s.setToken i t)).2) ≠ none := lastOperation_cons_ne_none (.inl (by simp [CallEffect.operation]))
        have hfirst : Joined s t (s.setToken i t, [.tapiCallAnswer c.callType.toUInt8 c.callId]) :=
          joined_store ht .refl hcalls hnone (by simp [lastOperation, CallEffect.operation])
        intro j
        have hlast := hfirst j
        cases ih (s := s.setToken i t) j with
        | inl hsame =>
          rw [hsame]
          cases hlast with
          | inl hkept => exact .inl hkept
          | inr h => exact .inr (And.intro h.1 (And.intro h.2.1 hout))
        | inr h =>
          cases hlast with
          | inl hkept => exact .inr (And.intro (hkept.symm.trans h.1) (And.intro h.2.1 hout))
          | inr hset =>
            rw [hset.2.1] at h
            simp at h
      · exact ih

/-- What a request does to the pending requests. -/
theorem callRequest_joined (c : CallRequest) : Joined s t (callRequestHandler s t c) := by
  by_cases hdial : ∃ data now, c = .dial data now
  · obtain ⟨data, now, rfl⟩ := hdial
    exact rilRequestDialFitting_joined ht data now
  by_cases hanswer : c = .answer
  · subst hanswer
    exact answerCalls_joined ht _
  push Not at hdial
  have huse := callRequest_use (s := s) (t := t) hdial hanswer
  generalize callRequestHandler s t c = r at huse ⊢
  cases huse with
  | completed => exact joined_of_keeps .refl
  | stored i e out hcalls hnone hpackets =>
    have hsent : lastOperation (e :: out) ≠ none :=
      lastOperation_cons_ne_none (.inl (operation_packet (hpackets e List.mem_cons_self)))
    exact joined_store ht .refl hcalls hnone hsent
  | dropped => exact joined_of_keeps .refl

end Requests

end Mocha.Ril
