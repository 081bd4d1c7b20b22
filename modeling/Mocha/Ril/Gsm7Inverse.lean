import Mocha.Ril.Gsm7

/-! `ascii2gsm7` and `gsm72ascii` undo each other, as both keep the number that their digits stand
for. The lengths are taken to fit into their types. -/
namespace Mocha.Ril
open Mocha.Lib

/-- The bits of the last octet behind the last whole septet are zero. -/
def UnusedBitsZero (gsm7 : List UInt8) : Prop :=
  ∀ c ∈ gsm7.getLast?, c.toNat >>> (8 - gsm7.length % 7) = 0

instance (gsm7 : List UInt8) : Decidable (UnusedBitsZero gsm7) :=
  inferInstanceAs (Decidable (∀ c ∈ gsm7.getLast?, c.toNat >>> (8 - gsm7.length % 7) = 0))

/-- The whole septets of `n + 1` octets end in the last octet. -/
theorem septets_place (n : ℕ) : 128 ^ ((n + 1) * 8 / 7) = 2 ^ (8 - (n + 1) % 7) * 256 ^ n := by
  have hexp : 7 * ((n + 1) * 8 / 7) = 8 - (n + 1) % 7 + 8 * n := by omega
  calc 128 ^ ((n + 1) * 8 / 7) = 2 ^ (7 * ((n + 1) * 8 / 7)) := (pow_mul 2 7 _).symm
    _ = 2 ^ (8 - (n + 1) % 7) * 2 ^ (8 * n) := by rw [hexp, pow_add]
    _ = 2 ^ (8 - (n + 1) % 7) * 256 ^ n := congrArg _ (pow_mul 2 8 _)

/-- Nothing is left over exactly if the number fits into the whole septets. -/
theorem unusedBitsZero_iff (gsm7 : List UInt8) :
    UnusedBitsZero gsm7 ↔ radixNat 256 gsm7 < 128 ^ (gsm7.length * 8 / 7) := by
  induction gsm7 using List.reverseRecOn with
  | nil => exact iff_of_true (fun c hc => absurd hc (Option.not_mem_none c)) (by decide)
  | append_singleton gsm7 c _ =>
    have hlow := radixNat_lt (b := 256) (by norm_num) (isDigits_256 gsm7)
    have hvalue : radixNat 256 (gsm7 ++ [c]) = radixNat 256 gsm7 + c.toNat * 256 ^ gsm7.length := by
      rw [radixNat_append, radixNat_cons, radixNat_nil, mul_zero, add_zero, mul_comm]
    have hlast : UnusedBitsZero (gsm7 ++ [c]) ↔ c.toNat < 2 ^ (8 - (gsm7.length + 1) % 7) := by
      rw [UnusedBitsZero, List.getLast?_concat, List.length_append, List.length_singleton]
      simp only [Option.mem_some_iff, forall_eq', Nat.shiftRight_eq_div_pow, Nat.div_eq_zero_iff,
        Nat.pow_eq_zero, OfNat.ofNat_ne_zero, false_and, false_or]
    rw [hlast, hvalue, List.length_append, List.length_singleton, septets_place]
    constructor
    · intro hc
      calc radixNat 256 gsm7 + c.toNat * 256 ^ gsm7.length < (c.toNat + 1) * 256 ^ gsm7.length := by
            linarith
        _ ≤ 2 ^ (8 - (gsm7.length + 1) % 7) * 256 ^ gsm7.length := Nat.mul_le_mul_right _ hc
    · intro h
      exact Nat.lt_of_mul_lt_mul_right ((Nat.le_add_left ..).trans_lt h)

/-- The octets of `n` septets have room for one more if seven bits of the last one are free. -/
theorem septets_room (n : ℕ) :
    (7 * n + 7) / 8 * 8 / 7 - n = if n % 8 = 7 then 1 else 0 := by
  have hoctets : (7 * n + 7) / 8 = 7 * (n / 8) + n % 8 := by omega
  rw [hoctets]
  split_ifs <;> omega

theorem gsm72ascii_ascii2gsm7 {ascii : List UInt8} (hascii : IsDigits 128 ascii) :
    ∃ gsm7, ascii2gsm7 ascii = some gsm7 ∧
      gsm72ascii gsm7 = some (ascii ++ if ascii.length % 8 = 7 then [0] else []) := by
  obtain ⟨gsm7, hgsm7, hlength, hvalue⟩ := ascii2gsm7_spec hascii
  refine ⟨gsm7, hgsm7, ?_⟩
  rw [gsm72ascii_packed hascii hlength hvalue, hlength, septets_room]
  split_ifs <;> rfl

theorem ascii2gsm7_gsm72ascii {gsm7 : List UInt8} (hzero : UnusedBitsZero gsm7) :
    ∃ ascii, gsm72ascii gsm7 = some ascii ∧ ascii2gsm7 ascii = some gsm7 := by
  obtain ⟨ascii, hascii, hlength, hdigits, hvalue⟩ :=
    gsm72ascii_spec ((unusedBitsZero_iff gsm7).mp hzero)
  obtain ⟨gsm7', hgsm7', hlength', hvalue'⟩ := ascii2gsm7_spec hdigits
  refine ⟨ascii, hascii, hgsm7'.trans (congrArg some ?_)⟩
  apply radixNat_inj (b := 256) (by norm_num) _ (isDigits_256 _) (isDigits_256 _)
  · rw [hvalue', hvalue]
  · rw [hlength', hlength]
    omega

/-- **Septets** that were packed are unpacked to themselves, with one zero behind them if they leave
seven bits of the last octet free; octets without a bit in excess are packed to themselves. -/
theorem gsm7_inverse :
    (∀ ascii, IsDigits 128 ascii → ∃ gsm7, ascii2gsm7 ascii = some gsm7 ∧
      gsm72ascii gsm7 = some (ascii ++ if ascii.length % 8 = 7 then [0] else [])) ∧
    ∀ gsm7, UnusedBitsZero gsm7 →
      ∃ ascii, gsm72ascii gsm7 = some ascii ∧ ascii2gsm7 ascii = some gsm7 :=
  ⟨fun _ hascii => gsm72ascii_ascii2gsm7 hascii, fun _ hzero => ascii2gsm7_gsm72ascii hzero⟩

end Mocha.Ril
