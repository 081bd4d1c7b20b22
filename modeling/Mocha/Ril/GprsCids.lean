import Mathlib.Data.Int.Interval
import Mocha.Ril.GprsChange

/-! The cids of the connections: distinct, in range, and free for the next connection when they are
not in use. -/
namespace Mocha.Ril
open Mocha.Lib

def GprsData.cids (s : GprsData) : List ℤ := s.gprsConnections.map (·.cid)

/-- The cids are distinct and lie in 1..MAX_CONNECTIONS. -/
structure CidsDistinct (s : GprsData) : Prop where
  nodup : s.cids.Nodup
  range : ∀ cid ∈ s.cids, 1 ≤ cid ∧ cid ≤ (maxConnections : ℤ)

section Step

variable {s u : GprsData} {a : GprsEvent × List GprsEffect} {left right : List RilGprsConnection}
  {c d : RilGprsConnection}

theorem init_cidsDistinct : CidsDistinct .init := ⟨List.nodup_nil, nofun⟩

theorem cidsDistinct_of_sublist (hs : CidsDistinct s) (h : u.cids.Sublist s.cids) :
    CidsDistinct u := by
  constructor
  · exact hs.nodup.sublist h
  · intro cid hcid
    exact hs.range cid (h.subset hcid)

/-- An event keeps the cids, takes some away, or adds a new one. -/
theorem gprsChange_cids {e : GprsEvent} {out : List GprsEffect} (h : GprsChange s e u out) :
    u.cids.Sublist s.cids ∨
      ∃ cid, u.cids = s.cids ++ [cid] ∧ cid ∉ s.cids ∧ 1 ≤ cid ∧ cid ≤ (maxConnections : ℤ) := by
  have hkept : u.cids = s.cids → u.cids.Sublist s.cids := fun h => h ▸ List.Sublist.refl _
  cases h with
  | opened t d iface c hpos hmax hfresh =>
    right
    refine ⟨c.cid, List.map_append, fun hmem => ?_, hpos, hmax⟩
    obtain ⟨b, hb, hcid⟩ := List.mem_map.mp hmem
    exact hfresh b hb hcid
  | deactivating t cid hfirst => exact .inl (hkept (hfirst.map_replaced rfl))
  | failed he _ hfirst hcid => exact .inl (hkept (hfirst.map_replaced hcid))
  | established he _ hfirst hcid => exact .inl (hkept (hfirst.map_replaced hcid))
  | linked active he hfirst => exact .inl (hkept (hfirst.map_replaced rfl))
  | queried t _ hfirst => exact .inl (hfirst.removed_sublist.map _)
  | ended he errno hfirst => exact .inl (hfirst.removed_sublist.map _)
  | queriedNone => exact .inl (hkept rfl)
  | answered => exact .inl (hkept rfl)
  | idle => exact .inl (hkept rfl)

theorem gprsStep_cidsDistinct (hs : CidsDistinct s) (h : GprsStep s a u) : CidsDistinct u := by
  rcases gprsChange_cids (gprsStep_change h) with hsub | ⟨cid, hcids, hfresh, hpos, hmax⟩
  · exact cidsDistinct_of_sublist hs hsub
  · constructor
    · rw [hcids, List.nodup_append]
      refine ⟨hs.nodup, List.nodup_singleton cid, fun b hb d hd hbd => ?_⟩
      rw [List.mem_singleton.mp hd] at hbd
      exact hfresh (hbd ▸ hb)
    · intro b hb
      rw [hcids, List.mem_append, List.mem_singleton] at hb
      cases hb with
      | inl hb => exact hs.range b hb
      | inr hb => exact hb ▸ ⟨hpos, hmax⟩

/-- No more connections than cids. -/
theorem CidsDistinct.length_le (hs : CidsDistinct s) :
    s.gprsConnections.length ≤ maxConnections := by
  have hsub : s.cids.toFinset ⊆ Finset.Icc 1 (maxConnections : ℤ) := by
    intro cid hcid
    exact Finset.mem_Icc.mpr (hs.range cid (List.mem_toFinset.mp hcid))
  have hcard := Finset.card_le_card hsub
  rw [List.toFinset_card_of_nodup hs.nodup, Int.card_Icc, GprsData.cids, List.length_map] at hcard
  omega

end Step

section Runs

variable {tr : List (GprsEvent × List GprsEffect)} {s : GprsData}

theorem gprs_cidsDistinct (h : Run GprsStep .init tr s) : CidsDistinct s :=
  h.invariant _ (fun _ _ _ => gprsStep_cidsDistinct) init_cidsDistinct

/-- **In every run the cids are distinct and in range, and a set-up gets a connection** unless all
cids are in use or its allocation or its tunnel fails; then the list stays as it was. -/
theorem gprs_cids (h : Run GprsStep .init tr s) :
    s.cids.Nodup ∧ (∀ cid ∈ s.cids, 1 ≤ cid ∧ cid ≤ (maxConnections : ℤ)) ∧
      s.gprsConnections.length ≤ maxConnections ∧
      ∀ allocated iface, (rilGprsConnectionStart s allocated iface).2.2 = none →
        ((∀ cid : ℤ, 1 ≤ cid → cid ≤ maxConnections → cid ∈ s.cids) ∨ allocated = false ∨ iface < 0) ∧
          (rilGprsConnectionStart s allocated iface).1.gprsConnections = s.gprsConnections := by
  have hs := gprs_cidsDistinct h
  refine ⟨hs.nodup, hs.range, hs.length_le, fun allocated iface hnone => ?_⟩
  have hresult := rilGprsConnectionStart_result (s := s) allocated iface
  generalize rilGprsConnectionStart s allocated iface = r at hresult hnone
  cases hresult with
  | started => cases hnone
  | failed hout hstart hwhy _ =>
    refine ⟨hwhy.imp_left fun hused cid hpos hmax => ?_, rfl⟩
    obtain ⟨c, hc, hcid⟩ := hused cid (by omega) hmax
    exact List.mem_map.mpr ⟨c, hc, hcid⟩

/-- Two data calls take both cids, and a third one gets no connection. -/
theorem gprs_cids_full :
    let s := (Lib.exec gprsHandler .init
      [.setupDataCall ⟨1, by decide⟩ (some ⟨some (cString "wap"), none, none, cString "IP"⟩) true 5,
        .setupDataCall ⟨2, by decide⟩ (some ⟨none, none, none, cString "PPP"⟩) true 6]).2
    s.cids = [1, 2] ∧ (rilGprsConnectionStart s true 7).1.gprsConnections = s.gprsConnections := by
  have hcids := gprs_cids (Run.exec gprsHandler .init
    [.setupDataCall ⟨1, by decide⟩ (some ⟨some (cString "wap"), none, none, cString "IP"⟩) true 5,
      .setupDataCall ⟨2, by decide⟩ (some ⟨none, none, none, cString "PPP"⟩) true 6])
  constructor
  · rfl
  · exact (hcids.2.2.2 true 7 rfl).2

end Runs

end Mocha.Ril
