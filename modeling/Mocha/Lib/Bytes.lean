import Mathlib.Data.List.Basic
import Mathlib.Algebra.Order.Ring.Nat
import Mathlib.Tactic.Ring

/-! Little-endian words inside byte strings, for packed structures read and written in place. -/
namespace Mocha.Lib

/-- The `w` low bytes of a number, least significant first. -/
def leBytes (w n : ℕ) : List UInt8 := (List.range w).map fun i => UInt8.ofNat (n / 256 ^ i)

/-- The number written by a byte string, least significant byte first. -/
def leNat (l : List UInt8) : ℕ := l.foldr (fun b n => b.toNat + 256 * n) 0

/-- The `w`-byte word that starts at offset `off`. -/
def wordAt (w off : ℕ) (l : List UInt8) : ℕ := leNat ((l.drop off).take w)

@[simp] theorem leBytes_length (w n : ℕ) : (leBytes w n).length = w := by simp [leBytes]

theorem leBytes_succ (w n : ℕ) : leBytes (w + 1) n = UInt8.ofNat n :: leBytes w (n / 256) := by
  simp only [leBytes, List.range_succ_eq_map, List.map_cons, List.map_map, pow_zero, Nat.div_one]
  congr 1
  refine List.map_congr_left fun i _ => ?_
  simp only [Function.comp_apply, Nat.succ_eq_add_one, pow_succ', Nat.div_div_eq_div_mul]

theorem leNat_leBytes (w n : ℕ) : leNat (leBytes w n) = n % 256 ^ w := by
  induction w generalizing n with
  | zero => simp [leBytes, leNat, Nat.mod_one]
  | succ w ih =>
    have hstep : leNat (leBytes (w + 1) n) = n % 256 + 256 * leNat (leBytes w (n / 256)) := by
      simp [leBytes_succ, leNat]
    rw [hstep, ih, pow_succ', Nat.mod_mul]

theorem leBytes_leNat (l : List UInt8) : leBytes l.length (leNat l) = l := by
  induction l with
  | nil => rfl
  | cons b l ih =>
    have hlow : UInt8.ofNat (leNat (b :: l)) = b := by
      apply UInt8.toNat_inj.mp
      rw [UInt8.toNat_ofNat', leNat, List.foldr_cons, Nat.add_mul_mod_self_left,
        Nat.mod_eq_of_lt b.toNat_lt]
    have hhigh : leNat (b :: l) / 256 = leNat l := by
      rw [leNat, List.foldr_cons, Nat.add_mul_div_left _ _ (by norm_num),
        Nat.div_eq_of_lt b.toNat_lt, zero_add]
      rfl
    rw [List.length_cons, leBytes_succ, hlow, hhigh, ih]

theorem leNat_lt (l : List UInt8) : leNat l < 256 ^ l.length := by
  induction l with
  | nil => exact Nat.one_pos
  | cons b l ih =>
    have hb := b.toNat_lt
    rw [leNat, List.foldr_cons, List.length_cons, pow_succ']
    change b.toNat + 256 * leNat l < _
    omega

/-- A field is read back where it was written. -/
theorem wordAt_field {w n : ℕ} (off : ℕ) (pre post : List UInt8) (hoff : pre.length = off)
    (hn : n < 256 ^ w) : wordAt w off (pre ++ leBytes w n ++ post) = n := by
  have htake : ((pre ++ leBytes w n ++ post).drop off).take w = leBytes w n := by
    subst hoff
    rw [List.append_assoc, List.drop_left, List.take_left' (leBytes_length w n)]
  rw [wordAt, htake, leNat_leBytes, Nat.mod_eq_of_lt hn]

end Mocha.Lib
