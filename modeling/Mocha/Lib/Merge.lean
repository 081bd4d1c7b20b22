import Mathlib.Order.Lattice
import Mocha.Lib.Cells

/-! Lists with one item for each key, into which further items are merged. The first item with a key
takes a place at the end, and one of higher rank is put in its place. -/
namespace Mocha.Lib

variable {α κ ω : Type*} [LinearOrder ω] {key : α → κ} {rank : α → ω} {items l left right : List α}
  {a b : α}

/-- Among the items with its key, `a` is the earliest of the largest rank. -/
def IsFirstMax (key : α → κ) (rank : α → ω) (items : List α) (a : α) : Prop :=
  ∃ before after, items = before ++ a :: after ∧ (∀ b ∈ before, key b = key a → rank b < rank a) ∧
    ∀ b ∈ after, key b = key a → rank b ≤ rank a

namespace IsFirstMax

theorem mem (h : IsFirstMax key rank items a) : a ∈ items := by
  obtain ⟨before, after, rfl, -⟩ := h
  exact List.mem_append_right _ List.mem_cons_self

theorem le (h : IsFirstMax key rank items b) (ha : a ∈ items) (hkey : key a = key b) :
    rank a ≤ rank b := by
  obtain ⟨before, after, rfl, hbefore, hafter⟩ := h
  rcases List.mem_append.mp ha with ha | ha
  · exact (hbefore a ha hkey).le
  · rcases List.mem_cons.mp ha with rfl | ha
    · exact le_rfl
    · exact hafter a ha hkey

/-- An item of another key, or of no larger rank, changes nothing. -/
theorem snoc (h : IsFirstMax key rank items b) (ha : key a = key b → rank a ≤ rank b) :
    IsFirstMax key rank (items ++ [a]) b := by
  obtain ⟨before, after, rfl, hbefore, hafter⟩ := h
  refine ⟨before, after ++ [a], by rw [List.append_assoc, List.cons_append], hbefore, fun c hc => ?_⟩
  rcases List.mem_append.mp hc with hc | hc
  · exact hafter c hc
  · rwa [List.mem_singleton.mp hc]

/-- An item of larger rank than those before it. -/
theorem last (h : ∀ b ∈ items, key b = key a → rank b < rank a) :
    IsFirstMax key rank (items ++ [a]) a :=
  ⟨items, [], rfl, h, fun _ hb => absurd hb List.not_mem_nil⟩

end IsFirstMax

variable [DecidableEq κ]

/-- Merge an item. -/
def merge (key : α → κ) (rank : α → ω) (l : List α) (a : α) : List α :=
  match findCell? (fun b => key b = key a) l with
  | some (i, b) => if rank b < rank a then l.set i a else l
  | none => l ++ [a]

/-- The list holds each key of the items once, in order of first occurrence, and with it the earliest
item of the largest rank. -/
structure Merged (key : α → κ) (rank : α → ω) (items l : List α) : Prop where
  keys : l.map key = (items.map key).eraseDups
  nodup : (l.map key).Nodup
  firstMax : ∀ a ∈ l, IsFirstMax key rank items a

theorem eraseDups_snoc_of_mem {l : List κ} {k : κ} (h : k ∈ l) : (l ++ [k]).eraseDups = l.eraseDups := by
  rw [List.eraseDups_append]
  simp [List.removeAll, h]

theorem eraseDups_snoc {l : List κ} {k : κ} (h : k ∉ l) :
    (l ++ [k]).eraseDups = l.eraseDups ++ [k] := by
  rw [List.eraseDups_append]
  simp [List.removeAll, h, List.eraseDups_cons]

namespace Merged

theorem nil : Merged key rank [] ([] : List α) :=
  ⟨rfl, List.nodup_nil, fun _ ha => absurd ha List.not_mem_nil⟩

/-- An item with a new key. -/
theorem append (h : Merged key rank items l) (hne : ∀ b ∈ l, key b ≠ key a) :
    Merged key rank (items ++ [a]) (l ++ [a]) := by
  have hnot : key a ∉ l.map key := fun hmem => by
    obtain ⟨b, hb, hkey⟩ := List.mem_map.mp hmem
    exact hne b hb hkey
  have hfresh : key a ∉ items.map key := by rwa [h.keys, List.mem_eraseDups] at hnot
  refine ⟨?_, ?_, fun b hb => ?_⟩
  · rw [List.map_append, List.map_append, List.map_singleton, eraseDups_snoc hfresh, h.keys]
  · rw [List.map_append, List.map_singleton]
    exact h.nodup.append (List.nodup_singleton _) (List.disjoint_singleton.mpr hnot)
  · rcases List.mem_append.mp hb with hb | hb
    · exact (h.firstMax b hb).snoc fun hkey => absurd hkey.symm (hne b hb)
    · rw [List.mem_singleton.mp hb]
      exact .last fun c hc hkey => absurd (List.mem_map.mpr ⟨c, hc, hkey⟩) hfresh

/-- The key of an item with a known key is a key of the items. -/
theorem keys_snoc (h : Merged key rank items l) (hb : b ∈ l) (hkey : key b = key a) :
    ((items ++ [a]).map key).eraseDups = l.map key := by
  have hknown : key a ∈ items.map key := hkey ▸ List.mem_map_of_mem (h.firstMax b hb).mem
  rw [List.map_append, List.map_singleton, eraseDups_snoc_of_mem hknown, h.keys]

/-- An item of no larger rank than the one with its key. -/
theorem skip (h : Merged key rank items l) (hb : b ∈ l) (hkey : key b = key a)
    (hrank : rank a ≤ rank b) : Merged key rank (items ++ [a]) l := by
  refine ⟨(h.keys_snoc hb hkey).symm, h.nodup, fun c hc => (h.firstMax c hc).snoc fun hac => ?_⟩
  exact hrank.trans ((h.firstMax c hc).le (h.firstMax b hb).mem (hkey.trans hac))

/-- An item of larger rank than the one with its key. -/
theorem replace (h : Merged key rank items (left ++ b :: right)) (hkey : key b = key a)
    (hrank : rank b < rank a) : Merged key rank (items ++ [a]) (left ++ a :: right) := by
  have hb : b ∈ left ++ b :: right := List.mem_append_right _ List.mem_cons_self
  have hmap : (left ++ a :: right).map key = (left ++ b :: right).map key := by
    rw [List.map_append, List.map_append, List.map_cons, List.map_cons, hkey]
  have hnot : key b ∉ (left ++ right).map key := by
    have hnodup := h.nodup
    rw [List.map_append, List.map_cons, List.nodup_middle, List.nodup_cons, ← List.map_append] at hnodup
    exact hnodup.1
  refine ⟨?_, hmap ▸ h.nodup, fun c hc => ?_⟩
  · rw [hmap, h.keys_snoc hb hkey]
  · rw [List.mem_append, List.mem_cons, or_left_comm, ← List.mem_append] at hc
    rcases hc with rfl | hc
    · exact .last fun d hd hdkey =>
        ((h.firstMax b hb).le hd (hdkey.trans hkey.symm)).trans_lt hrank
    · have hrest : c ∈ left ++ b :: right := by
        rw [List.mem_append, List.mem_cons, or_left_comm, ← List.mem_append]
        exact .inr hc
      exact (h.firstMax c hrest).snoc fun hac =>
        absurd (List.mem_map.mpr ⟨c, hc, hac.symm.trans hkey.symm⟩) hnot

theorem merge (h : Merged key rank items l) (a : α) :
    Merged key rank (items ++ [a]) (Lib.merge key rank l a) := by
  unfold Lib.merge
  cases hfind : findCell? (fun b => key b = key a) l with
  | none => exact h.append (by simpa using findCell?_eq_none.mp hfind)
  | some cell =>
    obtain ⟨i, b⟩ := cell
    obtain ⟨left, right, ⟨rfl, htest, -⟩, rfl⟩ := findCell?_eq_some hfind
    have hkey : key b = key a := by simpa using htest
    dsimp only
    split_ifs with hrank
    · rw [set_split]
      exact h.replace hkey hrank
    · exact h.skip (List.mem_append_right _ List.mem_cons_self) hkey (not_lt.mp hrank)

/-- All items, one after another. -/
theorem foldl (h : Merged key rank items l) (more : List α) :
    Merged key rank (items ++ more) (more.foldl (Lib.merge key rank) l) := by
  induction more generalizing items l with
  | nil => rwa [List.append_nil]
  | cons a more ih => simpa using ih (h.merge a)

end Merged
end Mocha.Lib
