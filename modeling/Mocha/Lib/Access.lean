import Mathlib.Data.Int.Basic

/-! Accesses to buffers, listed with the offset and the length that a program computes for them. -/
namespace Mocha.Lib

/-- An access to `length` bytes at `offset` of a buffer. -/
structure Access (β : Type) where
  buffer : β
  offset : ℤ
  length : ℤ
deriving DecidableEq, Repr

namespace Access

section Inside

variable {β : Type} (size : β → ℕ)

/-- The length is not negative, and every byte is one of the buffer. -/
def Inside (a : Access β) : Prop :=
  0 ≤ a.length ∧ ∀ k, a.offset ≤ k → k < a.offset + a.length → 0 ≤ k ∧ k < size a.buffer

theorem inside_iff (a : Access β) : a.Inside size ↔
    0 ≤ a.length ∧ (a.length = 0 ∨ 0 ≤ a.offset ∧ a.offset + a.length ≤ size a.buffer) := by
  unfold Inside
  apply and_congr_right
  intro hlength
  constructor
  · intro h
    by_cases hzero : a.length = 0
    · exact Or.inl hzero
    · have hfirst := h a.offset (Int.le_refl _) (by omega)
      have hlast := h (a.offset + a.length - 1) (by omega) (by omega)
      omega
  · intro h k hle hlt
    omega

instance (a : Access β) : Decidable (a.Inside size) :=
  decidable_of_iff' _ (inside_iff size a)

def AllInside (l : List (Access β)) : Prop := ∀ a ∈ l, a.Inside size

instance (l : List (Access β)) : Decidable (AllInside size l) :=
  inferInstanceAs (Decidable (∀ a ∈ l, a.Inside size))

end Inside

section Lists

variable {β : Type} {size : β → ℕ} {a : Access β} {l l' : List (Access β)}

@[simp] theorem allInside_nil : AllInside size [] := fun _ ha => absurd ha List.not_mem_nil

@[simp] theorem allInside_cons : AllInside size (a :: l) ↔ a.Inside size ∧ AllInside size l :=
  List.forall_mem_cons

theorem allInside_singleton : AllInside size [a] ↔ a.Inside size :=
  List.forall_mem_singleton

@[simp] theorem allInside_append :
    AllInside size (l ++ l') ↔ AllInside size l ∧ AllInside size l' :=
  List.forall_mem_append

/-- The access to byte `i`. -/
def byte (b : β) (i : ℕ) : Access β := ⟨b, i, 1⟩

@[simp] theorem inside_byte {b : β} {i : ℕ} : (byte b i).Inside size ↔ i < size b := by
  rw [inside_iff]
  unfold byte
  dsimp only
  omega

/-- `memcpy(dst + off, src + srcOff, n)` -/
def memcpy (dst : β) (off : ℕ) (src : β) (srcOff : ℕ) (n : ℤ) : List (Access β) :=
  [⟨src, srcOff, n⟩, ⟨dst, off, n⟩]

theorem allInside_memcpy {dst src : β} {off srcOff : ℕ} {n : ℤ} :
    AllInside size (memcpy dst off src srcOff n) ↔
      0 ≤ n ∧ (n = 0 ∨ srcOff + n ≤ size src ∧ off + n ≤ size dst) := by
  rw [memcpy, allInside_cons, allInside_singleton, inside_iff, inside_iff]
  dsimp only
  omega

end Lists

end Access
end Mocha.Lib
