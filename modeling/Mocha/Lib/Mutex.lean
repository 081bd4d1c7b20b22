import Mathlib.Data.Fintype.Card
import Mathlib.Logic.Function.Basic
import Mathlib.Logic.Relation
import Mathlib.Order.Basic

/-! Threads and mutexes: who waits for whom, circles of waiting, and the order of locks that keeps them
out. Where a thread stands says which mutexes it has and which one it waits for. -/
namespace Mocha.Lib
open Relation

variable {ι π L α : Type*}

/-- The code of threads that stand at points of type `π`: the mutexes that are held there, the one that
was taken last in front, and the one that is waited for. -/
structure MutexCode (π L : Type*) where
  held : π → List L
  wants : π → Option L

/-- What a thread does with the mutexes on its way from one point to another. -/
inductive MutexCall (L : Type*)
  | none
  | lock (l : L)
  | unlock (l : L)
deriving DecidableEq

/-- The thread that has each mutex, and the point where each thread stands. -/
structure MutexState (ι π L : Type*) where
  owner : L → Option ι
  point : ι → π

namespace MutexCall

/-- The points before and after agree with the call. -/
def Fits (C : MutexCode π L) : MutexCall L → π → π → Prop
  | .none, p, q => C.wants p = Option.none ∧ C.held q = C.held p
  | .lock l, p, q => C.wants p = some l ∧ C.held q = l :: C.held p
  | .unlock l, p, q => C.wants p = Option.none ∧ C.held p = l :: C.held q

/-- A mutex is locked when nobody has it, and unlocked by the thread that has it. -/
def Allowed (owner : L → Option ι) (t : ι) : MutexCall L → Prop
  | .none => True
  | .lock l => owner l = Option.none
  | .unlock l => owner l = some t

variable [DecidableEq L]

def apply (owner : L → Option ι) (t : ι) : MutexCall L → L → Option ι
  | .none => owner
  | .lock l => Function.update owner l (some t)
  | .unlock l => Function.update owner l Option.none

end MutexCall

namespace MutexState

/-- One thread waits for the mutex that the other one has. -/
def WaitsFor (C : MutexCode π L) (s : MutexState ι π L) (t u : ι) : Prop :=
  ∃ l, C.wants (s.point t) = some l ∧ s.owner l = some u

def Blocked (C : MutexCode π L) (s : MutexState ι π L) (t : ι) : Prop := ∃ u, s.WaitsFor C t u

/-- Threads wait for each other in a circle. -/
def Deadlock (C : MutexCode π L) (s : MutexState ι π L) : Prop := ∃ t, TransGen (s.WaitsFor C) t t

/-- Each mutex belongs to the thread that stands where it is held, and nothing is locked twice. -/
structure Owned (C : MutexCode π L) (s : MutexState ι π L) : Prop where
  owner : ∀ l t, s.owner l = some t ↔ l ∈ C.held (s.point t)
  nodup : ∀ t, (C.held (s.point t)).Nodup

variable {C : MutexCode π L} {s s' : MutexState ι π L} {t u v : ι} {l : L}

theorem waitsFor_unique : Relator.RightUnique (s.WaitsFor C) := by
  rintro t u v ⟨l, hl, hu⟩ ⟨l', hl', hv⟩
  obtain rfl := Option.some.inj (hl.symm.trans hl')
  exact Option.some.inj (hu.symm.trans hv)

/-- Whoever is waited for from a circle is on it. -/
theorem circle_of_reflTransGen (ht : TransGen (s.WaitsFor C) t t)
    (h : ReflTransGen (s.WaitsFor C) t u) : TransGen (s.WaitsFor C) u u := by
  induction h with
  | refl => exact ht
  | @tail u v _ huv ih =>
    obtain ⟨w, huw, hwu⟩ := TransGen.head'_iff.mp ih
    obtain rfl := waitsFor_unique huw huv
    exact TransGen.tail' hwu huv

theorem blocked_of_circle (ht : TransGen (s.WaitsFor C) t t) : s.Blocked C t := by
  obtain ⟨u, hu, -⟩ := TransGen.head'_iff.mp ht
  exact ⟨u, hu⟩

/-- The order of locks: where threads wait only for mutexes above those that they have, apart from some
threads, each circle goes through one of these. -/
theorem exists_of_deadlock [Preorder α] (rank : L → α) (exempt : ι → Prop)
    (hrank : ∀ u, ¬exempt u → ∀ l l', C.wants (s.point u) = some l → s.owner l' = some u →
      rank l' < rank l) (h : s.Deadlock C) : ∃ u, exempt u ∧ TransGen (s.WaitsFor C) u u := by
  obtain ⟨t, ht⟩ := h
  by_contra hnone
  have hregular : ∀ u, TransGen (s.WaitsFor C) u u → ¬exempt u := fun u hu he => hnone ⟨u, he, hu⟩
  have hrise : ∀ u, TransGen (s.WaitsFor C) t u → ∀ l l', C.wants (s.point t) = some l →
      C.wants (s.point u) = some l' → rank l < rank l' := by
    intro u hu
    have hcircle := hregular u (circle_of_reflTransGen ht hu.to_reflTransGen)
    induction hu with
    | single htu =>
      intro l l' hl hl'
      obtain ⟨m, hm, hu⟩ := htu
      obtain rfl := Option.some.inj (hl.symm.trans hm)
      exact hrank _ hcircle l' l hl' hu
    | tail htu huv ih =>
      intro l l' hl hl'
      obtain ⟨m, hm, hv⟩ := huv
      have hmiddle := hregular _ (circle_of_reflTransGen ht htu.to_reflTransGen)
      exact (ih hmiddle l m hl hm).trans (hrank _ hcircle l' m hl' hv)
  obtain ⟨u, l, hl, -⟩ := blocked_of_circle ht
  exact lt_irrefl _ (hrise t ht l l hl hl)

/-- Without a circle, whoever waits does so for a thread that does not. -/
theorem exists_not_blocked [Finite ι] (h : ¬s.Deadlock C) (t : ι) :
    ∃ u, ReflTransGen (s.WaitsFor C) t u ∧ ¬s.Blocked C u := by
  let waited (u t : ι) : Prop := TransGen (s.WaitsFor C) t u
  have htrans : IsTrans ι waited := ⟨fun _ _ _ hvu hut => TransGen.trans hut hvu⟩
  have hirrefl : Std.Irrefl waited := ⟨fun t ht => h ⟨t, ht⟩⟩
  induction t using (Finite.wellFounded_of_trans_of_irrefl waited).induction with
  | _ t ih =>
    by_cases hblocked : s.Blocked C t
    · obtain ⟨u, hu⟩ := hblocked
      obtain ⟨v, hv, hfree⟩ := ih u (TransGen.single hu)
      exact ⟨v, .head hu hv, hfree⟩
    · exact ⟨t, .refl, hblocked⟩

/-- What blocked threads wait for and what they have is not touched. -/
structure KeepsBlocked (C : MutexCode π L) (s s' : MutexState ι π L) : Prop where
  point : ∀ t, s.Blocked C t → s'.point t = s.point t
  owner : ∀ l t, s.Blocked C t → s.owner l = some t → s'.owner l = some t

/-- A circle stays. -/
theorem KeepsBlocked.circle (h : KeepsBlocked C s s') (ht : TransGen (s.WaitsFor C) t t) :
    TransGen (s'.WaitsFor C) t t := by
  have hedge : ∀ {u v}, TransGen (s.WaitsFor C) u u → s.WaitsFor C u v → s'.WaitsFor C u v := by
    intro u v hu huv
    have hv := circle_of_reflTransGen hu (.single huv)
    obtain ⟨l, hl, howner⟩ := huv
    refine ⟨l, ?_, h.owner l v (blocked_of_circle hv) howner⟩
    rw [h.point u (blocked_of_circle hu)]
    exact hl
  have hall : ∀ u, TransGen (s.WaitsFor C) t u → TransGen (s'.WaitsFor C) t u := by
    intro u hu
    induction hu with
    | single htu => exact .single (hedge ht htu)
    | tail htu huv ih => exact ih.tail (hedge (circle_of_reflTransGen ht htu.to_reflTransGen) huv)
  exact hall t ht

theorem Owned.unique (h : s.Owned C) (ht : l ∈ C.held (s.point t)) (hu : l ∈ C.held (s.point u)) :
    t = u :=
  Option.some.inj (((h.owner l t).mpr ht).symm.trans ((h.owner l u).mpr hu))

theorem Owned.free (h : s.Owned C) (hl : s.owner l = none) (t : ι) : l ∉ C.held (s.point t) := by
  intro ht
  have howner := (h.owner l t).mpr ht
  rw [hl] at howner
  cases howner

/-- Whoever moves was not blocked. -/
theorem not_blocked_of_fits {call : MutexCall L} {q : π} (hfits : call.Fits C (s.point t) q)
    (hcall : call.Allowed s.owner t) : ¬s.Blocked C t := by
  rintro ⟨u, l, hl, hu⟩
  cases call with
  | none =>
    rw [hfits.1] at hl
    cases hl
  | lock m =>
    obtain rfl := Option.some.inj (hl.symm.trans hfits.1)
    rw [show s.owner l = none from hcall] at hu
    cases hu
  | unlock m =>
    rw [hfits.1] at hl
    cases hl

section Act

variable [DecidableEq ι] [DecidableEq L] {call : MutexCall L} {q : π}

/-- A thread goes from its point to another one. -/
def act (s : MutexState ι π L) (t : ι) (call : MutexCall L) (q : π) : MutexState ι π L :=
  ⟨call.apply s.owner t, Function.update s.point t q⟩

theorem act_point_self : (s.act t call q).point t = q := Function.update_self ..

theorem act_point_of_ne (h : u ≠ t) : (s.act t call q).point u = s.point u :=
  Function.update_of_ne h ..

/-- The mutexes are held as before by the other threads; those of the one that moves, with their owners,
are left to show. -/
theorem Owned.act_of (h : s.Owned C) (hself : ∀ l, (s.act t call q).owner l = some t ↔ l ∈ C.held q)
    (hothers : ∀ l u, u ≠ t → ((s.act t call q).owner l = some u ↔ s.owner l = some u))
    (hnodup : (C.held q).Nodup) : (s.act t call q).Owned C := by
  constructor
  · intro l u
    by_cases hu : u = t
    · subst hu
      rw [act_point_self]
      exact hself l
    · rw [act_point_of_ne hu, hothers l u hu]
      exact h.owner l u
  · intro u
    by_cases hu : u = t
    · subst hu
      rw [act_point_self]
      exact hnodup
    · rw [act_point_of_ne hu]
      exact h.nodup u

theorem Owned.act (h : s.Owned C) (hfits : call.Fits C (s.point t) q) (hcall : call.Allowed s.owner t) :
    (s.act t call q).Owned C := by
  have hnodup := h.nodup t
  cases call with
  | none =>
    obtain ⟨-, hheld⟩ := hfits
    rw [← hheld] at hnodup
    refine h.act_of (fun l => ?_) (fun l u _ => Iff.rfl) hnodup
    rw [hheld]
    exact h.owner l t
  | lock m =>
    obtain ⟨-, hheld⟩ := hfits
    have hfree : s.owner m = none := hcall
    refine h.act_of (fun l => ?_) (fun l u hu => ?_) ?_
    · change Function.update s.owner m (some t) l = some t ↔ _
      rw [hheld, List.mem_cons, Function.update_apply]
      by_cases hl : l = m
      · simp [hl]
      · simp [hl, h.owner l t]
    · change Function.update s.owner m (some t) l = some u ↔ _
      rw [Function.update_apply]
      by_cases hl : l = m
      · simp [hl, hfree, hu.symm]
      · simp [hl]
    · rw [hheld]
      exact List.nodup_cons.mpr ⟨h.free hfree t, hnodup⟩
  | unlock m =>
    obtain ⟨-, hheld⟩ := hfits
    have howner : s.owner m = some t := hcall
    rw [hheld, List.nodup_cons] at hnodup
    refine h.act_of (fun l => ?_) (fun l u hu => ?_) hnodup.2
    · change Function.update s.owner m none l = some t ↔ _
      rw [Function.update_apply]
      by_cases hl : l = m
      · simp [hl, hnodup.1]
      · simp [hl, h.owner l t, hheld]
    · change Function.update s.owner m none l = some u ↔ _
      rw [Function.update_apply]
      by_cases hl : l = m
      · simp [hl, howner, hu.symm]
      · simp [hl]

theorem keepsBlocked_act (hfits : call.Fits C (s.point t) q) (hcall : call.Allowed s.owner t) :
    KeepsBlocked C s (s.act t call q) := by
  have hfree := not_blocked_of_fits hfits hcall
  have hne : ∀ u, s.Blocked C u → u ≠ t := fun u hu hut => hfree (hut ▸ hu)
  constructor
  · intro u hu
    exact act_point_of_ne (hne u hu)
  · intro l u hu howner
    have hkept : ∀ m o, l ≠ m → Function.update s.owner m o l = some u := by
      intro m o hl
      rw [Function.update_of_ne hl]
      exact howner
    cases call with
    | none => exact howner
    | lock m =>
      refine hkept m (some t) ?_
      rintro rfl
      rw [show s.owner l = none from hcall] at howner
      cases howner
    | unlock m =>
      refine hkept m none ?_
      rintro rfl
      exact hne u hu (Option.some.inj (howner.symm.trans hcall))

end Act
end MutexState
end Mocha.Lib
