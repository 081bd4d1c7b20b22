import Mathlib.Data.Multiset.AddSub
import Mathlib.Data.List.Perm.Basic

/-! Linked lists whose cells are found by a test and then changed or removed in place. -/
namespace Mocha.Lib

variable {α β : Type*} {p : α → Bool} {l left right : List α} {a b : α} {i : ℕ}

/-- The position and the content of the first cell that passes a test. -/
def findCell? (p : α → Bool) (l : List α) : Option (ℕ × α) :=
  (l.findIdx? p).bind fun i => l[i]?.map (i, ·)

/-- The cell `a` stands behind `left`, and no cell of `left` passes the test. -/
structure IsFirst (p : α → Bool) (l left : List α) (a : α) (right : List α) : Prop where
  eq : l = left ++ a :: right
  test : p a
  before : ∀ b ∈ left, ¬p b

theorem findCell?_eq_some (h : findCell? p l = some (i, a)) :
    ∃ left right, IsFirst p l left a right ∧ i = left.length := by
  obtain ⟨j, hj, hcell⟩ := Option.bind_eq_some_iff.mp h
  obtain ⟨b, hb, hpair⟩ := Option.map_eq_some_iff.mp hcell
  obtain ⟨rfl, rfl⟩ := Prod.mk.inj hpair
  obtain ⟨hlt, hp, hbefore⟩ := List.findIdx?_eq_some_iff_getElem.mp hj
  obtain rfl : l[j] = b := by simpa [hlt] using hb
  have hlength : (l.take j).length = j := List.length_take_of_le hlt.le
  refine ⟨l.take j, l.drop (j + 1), ⟨?_, hp, fun c hc => ?_⟩, hlength.symm⟩
  · rw [List.getElem_cons_drop, List.take_append_drop]
  · obtain ⟨k, hk, rfl⟩ := List.getElem_of_mem hc
    rw [List.getElem_take]
    simpa using hbefore k (by omega)

theorem findCell?_eq_none : findCell? p l = none ↔ ∀ a ∈ l, ¬p a := by
  constructor
  · intro h a ha hp
    cases hidx : l.findIdx? p with
    | none => simp [List.findIdx?_eq_none_iff.mp hidx a ha] at hp
    | some i =>
      obtain ⟨hlt, -⟩ := List.findIdx?_eq_some_iff_getElem.mp hidx
      simp [findCell?, hidx, hlt] at h
  · intro h
    have hidx : l.findIdx? p = none := List.findIdx?_eq_none_iff.mpr fun a ha => by simpa using h a ha
    rw [findCell?, hidx, Option.bind_none]

theorem findCell?_snd (p : α → Bool) (l : List α) : (findCell? p l).map Prod.snd = l.find? p := by
  cases hfind : findCell? p l with
  | none => exact (List.find?_eq_none.mpr (findCell?_eq_none.mp hfind)).symm
  | some c =>
    obtain ⟨left, right, hfirst, -⟩ := findCell?_eq_some hfind
    have hleft : left.find? p = none := List.find?_eq_none.mpr hfirst.before
    rw [hfirst.eq, List.find?_append, hleft, List.find?_cons_of_pos hfirst.test]
    rfl

theorem set_split : (left ++ a :: right).set left.length b = left ++ b :: right := by
  simp

theorem eraseIdx_split : (left ++ a :: right).eraseIdx left.length = left ++ right := by
  rw [List.eraseIdx_append_of_length_le le_rfl, Nat.sub_self, List.eraseIdx_zero, List.tail_cons]

/-- What a list holds, with one cell set apart. -/
theorem coe_filterMap_split (f : α → Option β) (left right : List α) (a : α) :
    ((left ++ a :: right).filterMap f : Multiset β) =
      ((left ++ right).filterMap f : Multiset β) + (f a).toList := by
  rw [List.filterMap_append, List.filterMap_append, List.filterMap_cons, ← Multiset.coe_add,
    ← Multiset.coe_add]
  cases f a with
  | none => simp
  | some b =>
    rw [Option.toList_some, Multiset.coe_singleton, ← Multiset.cons_coe, Multiset.add_cons,
      ← Multiset.singleton_add, Multiset.add_comm]

namespace IsFirst

/-- Replacing a cell changes what a function of the cells makes of that cell only. -/
theorem map_replaced (h : IsFirst p l left a right) {f : α → β} (hf : f b = f a) :
    (left ++ b :: right).map f = l.map f := by
  rw [h.eq, List.map_append, List.map_append, List.map_cons, List.map_cons, hf]

theorem findCell?_eq (h : IsFirst p l left a right) : findCell? p l = some (left.length, a) := by
  have hleft : left.findIdx? p = none :=
    List.findIdx?_eq_none_iff.mpr fun b hb => by simpa using h.before b hb
  have hidx : l.findIdx? p = some left.length := by
    rw [h.eq, List.findIdx?_append, hleft, List.findIdx?_cons, if_pos h.test]
    simp
  rw [findCell?, hidx, Option.bind_some, h.eq]
  simp

theorem removed_sublist (h : IsFirst p l left a right) : (left ++ right).Sublist l := by
  rw [h.eq]
  exact (List.sublist_cons_self a right).append_left left

theorem mem (h : IsFirst p l left a right) : a ∈ l := by
  rw [h.eq]
  exact List.mem_append_right left List.mem_cons_self

/-- A cell of the list in which one has been replaced is the new one, or it was there before. -/
theorem mem_replaced (h : IsFirst p l left a right) {c : α} (hc : c ∈ left ++ b :: right) :
    c = b ∨ c ∈ l := by
  have hsub := h.removed_sublist
  rw [List.mem_append, List.mem_cons] at hc
  rcases hc with hc | rfl | hc
  · exact .inr (hsub.subset (List.mem_append_left right hc))
  · exact .inl rfl
  · exact .inr (hsub.subset (List.mem_append_right left hc))

end IsFirst
end Mocha.Lib
