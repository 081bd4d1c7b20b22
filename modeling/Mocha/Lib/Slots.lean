import Mathlib.Algebra.BigOperators.Group.Finset.Basic
import Mathlib.Algebra.Order.Group.Multiset
import Mathlib.Tactic.Abel

/-! Finitely many slots that hold at most one item each, and the multiset of what they hold. -/
namespace Mocha.Lib

variable {ι α : Type*} [Fintype ι]

/-- What the slots hold together. -/
def held (f : ι → Option α) : Multiset α := ∑ i, ((f i).toList : Multiset α)

variable {f g : ι → Option α} {a : α} {j : ι}

theorem mem_held : a ∈ held f ↔ ∃ i, f i = some a := by
  simp [held, Multiset.mem_sum, Option.mem_toList]

variable [DecidableEq ι]

/-- A change of one slot changes what is held by that slot's item. -/
theorem held_add_of_eq_off (j : ι) (h : ∀ i, i ≠ j → g i = f i) :
    held g + (f j).toList = held f + (g j).toList := by
  have hrest : ∑ i ∈ Finset.univ.erase j, ((g i).toList : Multiset α) =
      ∑ i ∈ Finset.univ.erase j, ((f i).toList : Multiset α) :=
    Finset.sum_congr rfl fun i hi => by rw [h i (Finset.ne_of_mem_erase hi)]
  rw [held, held, ← Finset.add_sum_erase _ _ (Finset.mem_univ j), hrest,
    ← Finset.add_sum_erase Finset.univ (fun i => ((f i).toList : Multiset α)) (Finset.mem_univ j)]
  abel

/-- An item is put into an empty slot. -/
theorem held_put (j : ι) (h : ∀ i, i ≠ j → g i = f i) (hf : f j = none) (hg : g j = some a) :
    held g = held f + {a} := by
  simpa [hf, hg] using held_add_of_eq_off j h

/-- A slot is emptied. -/
theorem held_take (j : ι) (h : ∀ i, i ≠ j → g i = f i) (hg : g j = none) :
    held g + (f j).toList = held f := by
  simpa [hg] using held_add_of_eq_off j h

/-- What is held only once is held in one slot. -/
theorem slot_unique {i : ι} (h : (held f).Nodup) (hi : f i = some a) (hj : f j = some a) :
    i = j := by
  by_contra hij
  have hmem : j ∈ Finset.univ.erase i := Finset.mem_erase.mpr ⟨Ne.symm hij, Finset.mem_univ j⟩
  rw [held, ← Finset.add_sum_erase _ _ (Finset.mem_univ i), ← Finset.add_sum_erase _ _ hmem, hi,
    hj, ← add_assoc, Multiset.nodup_add] at h
  exact absurd (Multiset.nodup_add.mp h.1).2.2 (by simp)

end Mocha.Lib
