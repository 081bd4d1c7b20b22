import Mathlib.Data.Nat.Digits.Lemmas
import Mocha.Lib.Bytes

/-! Bytes as digits in any radix, least significant first. Regrouping the bits of a string, as when
septets are packed into octets, keeps its value and changes the radix. -/
namespace Mocha.Lib

def IsDigits (b : ℕ) (l : List UInt8) : Prop := ∀ c ∈ l, c.toNat < b

instance (b : ℕ) (l : List UInt8) : Decidable (IsDigits b l) :=
  List.decidableBAll (fun c : UInt8 => c.toNat < b) l

/-- The number that a list of digits stands for in the radix `b`. -/
def radixNat (b : ℕ) (l : List UInt8) : ℕ := Nat.ofDigits b (l.map UInt8.toNat)

section

variable {b : ℕ} {l l' : List UInt8}

@[simp] theorem radixNat_nil : radixNat b [] = 0 := rfl

@[simp] theorem radixNat_cons (c : UInt8) (l : List UInt8) :
    radixNat b (c :: l) = c.toNat + b * radixNat b l := Nat.ofDigits_cons ..

theorem radixNat_append (l l' : List UInt8) :
    radixNat b (l ++ l') = radixNat b l + b ^ l.length * radixNat b l' := by
  rw [radixNat, List.map_append, Nat.ofDigits_append, List.length_map]
  rfl

theorem IsDigits.append (h : IsDigits b l) (h' : IsDigits b l') : IsDigits b (l ++ l') :=
  fun c hc => (List.mem_append.mp hc).elim (h c) (h' c)

theorem IsDigits.zeros (hb : 0 < b) (n : ℕ) : IsDigits b (List.replicate n 0) := by
  intro c hc
  rw [List.eq_of_mem_replicate hc]
  exact hb

theorem IsDigits.sublist (h : IsDigits b l) (hsub : l'.Sublist l) : IsDigits b l' :=
  fun c hc => h c (hsub.subset hc)

theorem isDigits_256 (l : List UInt8) : IsDigits 256 l := fun c _ => c.toNat_lt

@[simp] theorem radixNat_replicate_zero (n : ℕ) : radixNat b (List.replicate n 0) = 0 := by
  rw [radixNat, List.map_replicate]
  exact Nat.ofDigits_replicate_zero

theorem radixNat_zeros (l : List UInt8) (n : ℕ) :
    radixNat b (l ++ List.replicate n 0) = radixNat b l := by
  rw [radixNat_append, radixNat_replicate_zero, mul_zero, add_zero]

/-- The number that `leNat` reads is the one in the radix of a byte. -/
theorem radixNat_256 (l : List UInt8) : radixNat 256 l = leNat l := by
  induction l with
  | nil => rfl
  | cons c l ih =>
    rw [radixNat_cons, ih]
    rfl

theorem radixNat_leBytes {n v : ℕ} (hv : v < 256 ^ n) : radixNat 256 (leBytes n v) = v := by
  rw [radixNat_256, leNat_leBytes, Nat.mod_eq_of_lt hv]

theorem radixNat_lt (hb : 1 < b) (h : IsDigits b l) : radixNat b l < b ^ l.length := by
  have hdigits : ∀ x ∈ l.map UInt8.toNat, x < b := by
    intro x hx
    obtain ⟨c, hc, rfl⟩ := List.mem_map.mp hx
    exact h c hc
  have hlt := Nat.ofDigits_lt_base_pow_length hb hdigits
  rwa [List.length_map] at hlt

/-- Digits are determined by their number and their count. -/
theorem radixNat_inj (hb : 1 < b) (hlength : l.length = l'.length) (h : IsDigits b l)
    (h' : IsDigits b l') (heq : radixNat b l = radixNat b l') : l = l' := by
  have hdigits : ∀ {l : List UInt8}, IsDigits b l → ∀ x ∈ l.map UInt8.toNat, x < b := by
    intro l h x hx
    obtain ⟨c, hc, rfl⟩ := List.mem_map.mp hx
    exact h c hc
  have hmap := Nat.ofDigits_inj_of_len_eq hb (by rw [List.length_map, List.length_map, hlength])
    (hdigits h) (hdigits h') heq
  exact List.map_injective_iff.mpr (fun _ _ => UInt8.toNat_inj.mp) hmap

/-- The digits behind the first ones. -/
theorem radixNat_drop {k : ℕ} (hb : 1 < b) (hk : k ≤ l.length) (h : IsDigits b l) :
    radixNat b (l.drop k) = radixNat b l / b ^ k := by
  have hsplit := radixNat_append (b := b) (l.take k) (l.drop k)
  have hlow := radixNat_lt hb (h.sublist (List.take_sublist k l))
  rw [List.length_take_of_le hk] at hlow hsplit
  rw [List.take_append_drop] at hsplit
  rw [hsplit, Nat.add_mul_div_left _ _ (pow_pos (Nat.zero_lt_of_lt hb) k), Nat.div_eq_of_lt hlow,
    zero_add]

/-- Every number below a power has digits. -/
theorem exists_digits (hb : 0 < b) (hbyte : b ≤ 256) {n v : ℕ} (hv : v < b ^ n) :
    ∃ l : List UInt8, l.length = n ∧ IsDigits b l ∧ radixNat b l = v := by
  induction n generalizing v with
  | zero => exact ⟨[], rfl, fun c hc => absurd hc List.not_mem_nil, (Nat.lt_one_iff.mp hv).symm⟩
  | succ n ih =>
    obtain ⟨l, hlength, hdigits, hvalue⟩ := ih (v := v / b) (by
      rw [Nat.div_lt_iff_lt_mul hb, ← pow_succ]
      exact hv)
    have hlow : v % b < b := Nat.mod_lt v hb
    have hofNat : (UInt8.ofNat (v % b)).toNat = v % b := by
      rw [UInt8.toNat_ofNat', Nat.mod_eq_of_lt (by omega)]
    refine ⟨UInt8.ofNat (v % b) :: l, congrArg Nat.succ hlength, ?_, ?_⟩
    · intro c hc
      rcases List.mem_cons.mp hc with rfl | hc
      · rw [hofNat]
        exact hlow
      · exact hdigits c hc
    · rw [radixNat_cons, hofNat, hvalue, Nat.mod_add_div]

/-- A digit counts with the power of its place. -/
theorem le_radixNat {k : ℕ} (hk : k < l.length) : l[k].toNat * b ^ k ≤ radixNat b l := by
  induction l generalizing k with
  | nil => cases hk
  | cons c l ih =>
    rw [radixNat_cons]
    cases k with
    | zero => simp
    | succ k =>
      have hk' : k < l.length := Nat.lt_of_succ_lt_succ hk
      have hle := ih hk'
      calc l[k].toNat * b ^ (k + 1) = b * (l[k].toNat * b ^ k) := by ring
        _ ≤ b * radixNat b l := Nat.mul_le_mul_left b hle
        _ ≤ c.toNat + b * radixNat b l := Nat.le_add_left ..

/-- A bound on the number bounds its digits. -/
theorem digit_lt {k m : ℕ} (hk : k < l.length) (h : radixNat b l < m * b ^ k) : l[k].toNat < m :=
  Nat.lt_of_mul_lt_mul_right ((le_radixNat hk).trans_lt h)

/-- A change of one digit. -/
theorem radixNat_modify {k n : ℕ} {f : UInt8 → UInt8} (hk : k < l.length)
    (hf : (f l[k]).toNat = l[k].toNat + n) :
    radixNat b (l.modify k f) = radixNat b l + n * b ^ k := by
  induction l generalizing k with
  | nil => cases hk
  | cons c l ih =>
    cases k with
    | zero =>
      rw [List.modify_zero_cons, radixNat_cons, radixNat_cons, show (f c).toNat = c.toNat + n from hf]
      ring
    | succ k =>
      rw [List.modify_succ_cons, radixNat_cons, radixNat_cons, ih (Nat.lt_of_succ_lt_succ hk) hf]
      ring

theorem IsDigits.modify {k : ℕ} {f : UInt8 → UInt8} (hk : k < l.length) (h : IsDigits b l)
    (hf : (f l[k]).toNat < b) : IsDigits b (l.modify k f) := by
  intro c hc
  obtain ⟨i, hi, rfl⟩ := List.mem_iff_getElem.mp hc
  rw [List.getElem_modify]
  split_ifs with hik
  · subst hik
    exact hf
  · exact h _ (List.getElem_mem _)

end

end Mocha.Lib
