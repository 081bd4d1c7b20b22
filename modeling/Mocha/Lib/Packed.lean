import Mathlib.Algebra.Order.Ring.Nat
import Mathlib.Data.List.GetD
import Mathlib.Logic.Function.Basic
import Mocha.Lib.Block

/-! Packed structures that are cleared first and then filled member by member. -/
namespace Mocha.Lib

/-- The contents of the members of a packed structure, by the widths of these; behind each there are
zeros up to its width. -/
structure Packed (widths : List ℕ) where
  member : ℕ → List UInt8
  fits : ∀ i, (member i).length ≤ widths.getD i 0

namespace Packed

variable {widths : List ℕ} {pos : ℕ} {src : List UInt8}

/-- All members are zero. -/
def clear (widths : List ℕ) : Packed widths := ⟨fun _ => [], fun _ => Nat.zero_le _⟩

def set (p : Packed widths) (i : ℕ) (src : List UInt8) (h : src.length ≤ widths.getD i 0) :
    Packed widths where
  member := Function.update p.member i src
  fits j := by
    obtain rfl | hj := eq_or_ne j i
    · rwa [Function.update_self]
    · rw [Function.update_of_ne hj]
      exact p.fits j

def members (p : Packed widths) : List (List UInt8) :=
  widths.mapIdx fun i w => Block.padTo w (p.member i)

/-- The structure in memory. -/
def block (p : Packed widths) : Block := ⟨p.members.flatten, true⟩

theorem members_widths (p : Packed widths) : p.members.map List.length = widths := by
  refine List.ext_getElem (by simp [members]) fun i _ hi => ?_
  have hfits := p.fits i
  rw [List.getD_eq_getElem _ _ hi] at hfits
  simp [members, Block.padTo_length hfits]

theorem block_length (p : Packed widths) : p.block.bytes.length = widths.sum := by
  rw [block, List.length_flatten, p.members_widths]

/-- What `calloc` returns for the structure. -/
theorem calloc_eq (widths : List ℕ) : Block.calloc widths.sum = (clear widths).block := by
  have hzero : ∀ b ∈ (clear widths).members.flatten, b = 0 := by
    simp [members, clear, Block.padTo]
  have hlength := (clear widths).block_length
  unfold Block.calloc block
  rw [← hlength]
  exact congrArg (Block.mk · true) (List.eq_replicate_of_mem hzero).symm

/-- A copy to a member that is clear. -/
theorem memcpy_set (p : Packed widths) (i : ℕ) (hpos : (widths.take i).sum = pos) (hi : i < widths.length)
    (hclear : p.member i = []) (h : src.length ≤ widths.getD i 0) :
    p.block.memcpy pos src = some (p.set i src h).block := by
  have hlength : p.members.length = widths.length := List.length_mapIdx
  have hwidth := h
  rw [List.getD_eq_getElem _ _ hi] at hwidth
  have hmember : p.members[i] = List.replicate widths[i] 0 := by
    simp [members, hclear, Block.padTo]
  have hset : p.members.set i (src ++ (p.members[i]).drop src.length) = (p.set i src h).members := by
    rw [hmember, List.drop_replicate]
    refine List.ext_getElem (by simp [members]) fun j hj hj' => ?_
    obtain rfl | hne := eq_or_ne i j
    · simp [members, set, Block.padTo]
    · simp [members, set, hne, Function.update_of_ne hne.symm]
  have hfield := Block.memcpy_field p.members pos src (hlength.symm ▸ hi)
    (by rw [List.length_flatten, List.map_take, p.members_widths, hpos])
    (by rwa [hmember, List.length_replicate])
  rw [block, hfield, hset]
  rfl

end Packed
end Mocha.Lib
