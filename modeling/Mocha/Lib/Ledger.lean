import Mathlib.Algebra.BigOperators.Group.Finset.Basic
import Mathlib.Algebra.Order.Group.Multiset
import Mathlib.Algebra.Order.Group.Nat
import Mathlib.Data.Fintype.Basic
import Mathlib.Data.Multiset.Count
import Mocha.Lib.Run

/-! Ledgers: what a step of a system does to the tokens that it keeps, token by token. A step may lose
tokens, and it may use tokens once more than it got them; a run does neither to a token that none of
its steps does it to. -/
namespace Mocha.Lib

section Entry

variable {β : Type*}

/-- An entry in a ledger. What is held and paid afterwards is what was held before and brought in,
but for tokens that are lost, which `D` knows, and tokens that are made, which `E` knows. -/
def Entry (D E : β → Prop) (held held' brought paid : Multiset β) : Prop :=
  ∃ lost made : Multiset β, held' + paid + lost = held + brought + made ∧
    (∀ b ∈ lost, D b) ∧ ∀ b ∈ made, E b

variable {D E D' E' : β → Prop} {h h' h'' i i' o o' : Multiset β}

theorem Entry.exact (heq : h' + o = h + i) : Entry D E h h' i o :=
  ⟨0, 0, by rw [heq], by simp, by simp⟩

theorem Entry.loses (lost : Multiset β) (heq : h' + o + lost = h + i) (hlost : ∀ b ∈ lost, D b) :
    Entry D E h h' i o :=
  ⟨lost, 0, by rw [heq, add_zero], hlost, by simp⟩

theorem Entry.makes (made : Multiset β) (heq : h' + o = h + i + made) (hmade : ∀ b ∈ made, E b) :
    Entry D E h h' i o :=
  ⟨0, made, by rw [heq, add_zero], by simp, hmade⟩

theorem Entry.losesOne (b : β) (heq : h' + o + {b} = h + i) (hD : D b) : Entry D E h h' i o :=
  .loses {b} heq fun _ hb => Multiset.mem_singleton.mp hb ▸ hD

theorem Entry.makesOne (b : β) (heq : h' + o = h + i + {b}) (hE : E b) : Entry D E h h' i o :=
  .makes {b} heq fun _ hb => Multiset.mem_singleton.mp hb ▸ hE

theorem Entry.same : Entry D E h h 0 0 := .exact rfl

theorem Entry.mono (hD : ∀ b, D b → D' b) (hE : ∀ b, E b → E' b) (he : Entry D E h h' i o) :
    Entry D' E' h h' i o := by
  obtain ⟨lost, made, heq, hlost, hmade⟩ := he
  exact ⟨lost, made, heq, fun b hb => hD b (hlost b hb), fun b hb => hE b (hmade b hb)⟩

/-- Tokens that are paid besides. -/
theorem Entry.pay {p : Multiset β} (he : Entry D E h h' i o) (hp : ∀ b ∈ p, E b) :
    Entry D E h h' i (p + o) := by
  obtain ⟨lost, made, heq, hlost, hmade⟩ := he
  refine ⟨lost, p + made, ?_, hlost, ?_⟩
  · calc h' + (p + o) + lost = p + (h' + o + lost) := by abel
      _ = p + (h + i + made) := by rw [heq]
      _ = h + i + (p + made) := by abel
  · intro b hb
    rcases Multiset.mem_add.mp hb with hb | hb
    · exact hp b hb
    · exact hmade b hb

theorem Entry.trans (he : Entry D E h h' i o) (he' : Entry D E h' h'' i' o') :
    Entry D E h h'' (i + i') (o + o') := by
  obtain ⟨lost, made, heq, hlost, hmade⟩ := he
  obtain ⟨lost', made', heq', hlost', hmade'⟩ := he'
  refine ⟨lost + lost', made + made', ?_, ?_, ?_⟩
  · calc h'' + (o + o') + (lost + lost') = (h'' + o' + lost') + (o + lost) := by abel
      _ = (h' + o + lost) + (i' + made') := by
        rw [heq']
        abel
      _ = h + (i + i') + (made + made') := by
        rw [heq]
        abel
  · exact fun b hb => (Multiset.mem_add.mp hb).elim (hlost b) (hlost' b)
  · exact fun b hb => (Multiset.mem_add.mp hb).elim (hmade b) (hmade' b)

/-! Entries of single tokens. -/

/-- A token is paid as soon as it is brought in. -/
theorem Entry.answer (b : β) : Entry D E h h {b} ([b] : List β) :=
  .exact (by rw [Multiset.coe_singleton])

/-- A token is brought in, and joins a list. -/
theorem Entry.push (l : List β) (b : β) : Entry D E l (l ++ [b] : List β) {b} ([] : List β) := by
  refine .exact ?_
  rw [← Multiset.coe_add, Multiset.coe_singleton]
  exact add_zero _

/-- A token leaves a list, and is paid. -/
theorem Entry.pop (b : β) (l : List β) : Entry D E (b :: l : List β) l 0 ([b] : List β) := by
  refine .exact ?_
  rw [add_zero, Multiset.coe_singleton, add_comm, Multiset.singleton_add, Multiset.cons_coe]

/-- A variable is taken by the token that is brought in. -/
theorem Entry.store {old new : β} (hD : D old) : Entry D E {old} {new} {new} ([] : List β) := by
  refine .losesOne old ?_ hD
  rw [Multiset.coe_nil, add_zero, add_comm]

/-- A token is dropped, while another one is paid as soon as it is brought in. -/
theorem Entry.drop {old new : β} (hD : D old) (l : Multiset β) :
    Entry D E ({old} + l) l {new} ([new] : List β) := by
  refine .losesOne old ?_ hD
  rw [Multiset.coe_singleton]
  abel

/-- A token that may be lost, if it is not paid, is taken away. -/
theorem Entry.release (b : β) (l : Multiset β) {p : Prop} [Decidable p] (hD : ¬p → D b) :
    Entry D E ({b} + l) l 0 (if p then [b] else [] : List β) := by
  split_ifs with hp
  · refine .exact ?_
    rw [Multiset.coe_singleton]
    abel
  · refine .losesOne b ?_ (hD hp)
    rw [Multiset.coe_nil]
    abel

/-- The token in a variable is paid, and the variable gets another one. -/
theorem Entry.clear {null : β} (hE : E null) (b : β) :
    Entry D E {b} {null} 0 ([b] : List β) := by
  refine .makesOne null ?_ hE
  rw [Multiset.coe_singleton, add_zero, add_comm]

/-- Tokens that may be made need not be looked at where they are paid. -/
theorem Entry.of_filter {p : β → Prop} [DecidablePred p] (hE : ∀ b, ¬p b → E b) {l : List β}
    (he : Entry D E h h' i (l.filter p : List β)) : Entry D E h h' i l := by
  have hperm : (l : Multiset β) =
      (l.filter fun b => !decide (p b) : List β) + (l.filter p : List β) := by
    rw [Multiset.coe_add, Multiset.coe_eq_coe]
    exact ((List.filter_append_perm (fun b => decide (p b)) l).symm).trans List.perm_append_comm
  rw [hperm]
  refine he.pay fun b hb => hE b ?_
  obtain ⟨-, hnot⟩ := List.mem_filter.mp (Multiset.mem_coe.mp hb)
  simpa using hnot

theorem Entry.frame (he : Entry D E h h' i o) (r : Multiset β) : Entry D E (h + r) (h' + r) i o := by
  obtain ⟨lost, made, heq, hlost, hmade⟩ := he
  refine ⟨lost, made, ?_, hlost, hmade⟩
  calc h' + r + o + lost = h' + o + lost + r := by abel
    _ = h + i + made + r := by rw [heq]
    _ = h + r + i + made := by abel

/-- One part of what is held changes, and the rest is left alone. -/
theorem Entry.part {ι : Type*} [Fintype ι] [DecidableEq ι] {f g : ι → Multiset β} (p : ι)
    (hothers : ∀ q, q ≠ p → g q = f q) (he : Entry D E (f p) (g p) i o) :
    Entry D E (∑ q, f q) (∑ q, g q) i o := by
  have hsame : ∑ q ∈ Finset.univ.erase p, g q = ∑ q ∈ Finset.univ.erase p, f q :=
    Finset.sum_congr rfl fun q hq => hothers q (Finset.ne_of_mem_erase hq)
  rw [← Finset.add_sum_erase _ f (Finset.mem_univ p), ← Finset.add_sum_erase _ g (Finset.mem_univ p),
    hsame]
  exact he.frame _

section Count

variable [DecidableEq β] {b : β}

theorem Entry.count_le (he : Entry D E h h' i o) (hb : ¬E b) :
    h'.count b + o.count b ≤ h.count b + i.count b := by
  obtain ⟨lost, made, heq, -, hmade⟩ := he
  have hcount := congrArg (Multiset.count b) heq
  have hnone : made.count b = 0 := Multiset.count_eq_zero.mpr fun hb' => hb (hmade b hb')
  simp only [Multiset.count_add, hnone] at hcount
  omega

theorem Entry.le_count (he : Entry D E h h' i o) (hb : ¬D b) :
    h.count b + i.count b ≤ h'.count b + o.count b := by
  obtain ⟨lost, made, heq, hlost, -⟩ := he
  have hcount := congrArg (Multiset.count b) heq
  have hnone : lost.count b = 0 := Multiset.count_eq_zero.mpr fun hb' => hb (hlost b hb')
  simp only [Multiset.count_add, hnone] at hcount
  omega

end Count

/-- What is held or paid after an entry was there before it, was brought in, or is made. -/
theorem Entry.source {b : β} (he : Entry D E h h' i o) (hb : b ∈ h' ∨ b ∈ o) :
    b ∈ h ∨ b ∈ i ∨ E b := by
  obtain ⟨lost, made, heq, -, hmade⟩ := he
  have hmem : b ∈ h + i + made := by
    rw [← heq, Multiset.mem_add, Multiset.mem_add]
    exact .inl hb
  rw [Multiset.mem_add, Multiset.mem_add] at hmem
  rcases hmem with (hb | hb) | hb
  · exact .inl hb
  · exact .inr (.inl hb)
  · exact .inr (.inr (hmade b hb))

end Entry

/-- The ledger of a system: what its states hold, what its labels bring in and pay, and which tokens a
step may lose or use once more. The entries need an invariant. -/
structure Ledger {σ α : Type*} (step : Step σ α) (β : Type*) where
  inv : σ → Prop
  held : σ → Multiset β
  brought : α → List β
  paid : α → List β
  loses : σ → α → β → Prop
  makes : σ → α → β → Prop
  inv_step : ∀ {s a t}, inv s → step s a t → inv t
  entry : ∀ {s a t}, inv s → step s a t →
    Entry (loses s a) (makes s a) (held s) (held t) (brought a) (paid a)

section Runs

variable {σ α β : Type*} [DecidableEq β] {step : Step σ α} {s t : σ} {tr : List α} {b : β}

theorem count_flatMap_map (f : α → List β) (b : β) :
    (tr.map fun a => (f a : Multiset β).count b).sum = (tr.flatMap f).count b := by
  induction tr with
  | nil => rfl
  | cons a tr ih =>
    rw [List.map_cons, List.sum_cons, ih, List.flatMap_cons, List.count_append, Multiset.coe_count]

/-- **No token is used twice**: what no step of a run makes is held and paid, taken together, no more
often than it was there and has been brought in. -/
theorem Ledger.count_le (L : Ledger step β) (hs : L.inv s)
    (h : Run (step.when fun s a => ¬L.makes s a b) s tr t) :
    (L.held t).count b + (tr.flatMap L.paid).count b ≤
      (L.held s).count b + (tr.flatMap L.brought).count b := by
  have hrun := h.strengthen L.inv (fun s a t hs h => L.inv_step hs h.2) hs
  have hbalance := hrun.conservation_le (fun s => (L.held s).count b)
    (fun a => (L.brought a : Multiset β).count b) (fun a => (L.paid a : Multiset β).count b)
    fun s a t h => (L.entry h.1 h.2.2).count_le h.2.1
  rwa [count_flatMap_map, count_flatMap_map] at hbalance

/-- **No token gets lost**: what no step of a run loses is held or paid as often as it was there and
has been brought in. -/
theorem Ledger.le_count (L : Ledger step β) (hs : L.inv s)
    (h : Run (step.when fun s a => ¬L.loses s a b) s tr t) :
    (L.held s).count b + (tr.flatMap L.brought).count b ≤
      (L.held t).count b + (tr.flatMap L.paid).count b := by
  have hrun := h.strengthen L.inv (fun s a t hs h => L.inv_step hs h.2) hs
  have hbalance := hrun.conservation_ge (fun s => (L.held s).count b)
    (fun a => (L.brought a : Multiset β).count b) (fun a => (L.paid a : Multiset β).count b)
    fun s a t h => (L.entry h.1 h.2.2).le_count h.2.1
  rwa [count_flatMap_map, count_flatMap_map] at hbalance

end Runs

end Mocha.Lib
