import Mocha.Lib.Radix

/-! Septets packed into octets (`util.c`). Either loop turns the digits of a number in one radix into
its digits in the other. -/
namespace Mocha.Ril
open Mocha.Lib

/-- `dec[k] += v`; `none` behind the end of the buffer. -/
def addAt (dec : List UInt8) (k : ℕ) (v : UInt8) : Option (List UInt8) :=
  if k < dec.length then some (dec.modify k (· + v)) else none

/-- `enc[k] |= v`; `none` for a change of a byte behind the end of the buffer. -/
def orAt (enc : List UInt8) (k : ℕ) (v : UInt8) : Option (List UInt8) :=
  if v = 0 then some enc else if k < enc.length then some (enc.modify k (· ||| v)) else none

/-- The body of the loop of `gsm72ascii`, for byte `i` of the octets. -/
def gsm72asciiStep (dec : List UInt8) (i o : ℕ) (b : UInt8) : Option (List UInt8) := do
  let d := 7 - i % 7
  let t := b.toNat - ((b.toNat >>> d &&& 0xff) <<< d)
  let u := b.toNat >>> d &&& 0xff
  let dec ← addAt dec (i + o) (UInt8.ofNat (t <<< ((i + o) % 8)))
  if u ≠ 0 then addAt dec (i + 1 + o) (UInt8.ofNat u) else some dec

/-- The loop of `gsm72ascii`, from byte `i` on. -/
def gsm72asciiLoop : List UInt8 → ℕ → ℕ → List UInt8 → Option (List UInt8)
  | [], _, _, dec => some dec
  | b :: gsm7, i, o, dec => do
    let o := if 7 - i % 7 = 7 ∧ i ≠ 0 then o + 1 else o
    let dec ← gsm72asciiStep dec i o b
    gsm72asciiLoop gsm7 (i + 1) o dec

/-- `gsm72ascii`; `none` for a write behind the end of the buffer. -/
def gsm72ascii (gsm7 : List UInt8) : Option (List UInt8) :=
  let size := gsm7.length
  gsm72asciiLoop gsm7 0 0 (List.replicate ((size * 8 - size * 8 % 7) / 7) 0)

/-- The body of the loop of `ascii2gsm7`, for character `i`. The first one is or'ed into the byte in
front of the buffer as well, which gets no bit of it. -/
def ascii2gsm7Step (enc : List UInt8) (i : ℕ) (c : UInt8) : Option (List UInt8) := do
  let dOff := i % 8
  let dPos := (i * 7 - i * 7 % 8) / 8 + if 0 < i * 7 % 8 then 1 else 0
  let enc ← orAt enc dPos (UInt8.ofNat (c.toNat >>> dOff))
  let aOff := 8 - dOff
  orAt enc (dPos - 1) (UInt8.ofNat (c.toNat <<< aOff))

/-- The loop of `ascii2gsm7`, from character `i` on. -/
def ascii2gsm7Loop : List UInt8 → ℕ → List UInt8 → Option (List UInt8)
  | [], _, enc => some enc
  | c :: ascii, i, enc => do
    let enc ← ascii2gsm7Step enc i c
    ascii2gsm7Loop ascii (i + 1) enc

/-- `ascii2gsm7`; `none` for a write outside the buffer. -/
def ascii2gsm7 (ascii : List UInt8) : Option (List UInt8) :=
  let size := ascii.length
  let gsm7Length := (size * 7 - size * 7 % 8) / 8 + if 0 < size * 7 % 8 then 1 else 0
  ascii2gsm7Loop ascii 0 (List.replicate gsm7Length 0)

section Decoder

variable {dec : List UInt8} {b : UInt8} {i : ℕ}

theorem addAt_spec {k n : ℕ} (hk : k < dec.length) (hdec : IsDigits 128 dec)
    (hn : dec[k].toNat + n < 128) : ∃ dec', addAt dec k (UInt8.ofNat n) = some dec' ∧
      dec'.length = dec.length ∧ IsDigits 128 dec' ∧
        radixNat 128 dec' = radixNat 128 dec + n * 128 ^ k := by
  have hdigit : (dec[k] + UInt8.ofNat n).toNat = dec[k].toNat + n := by
    rw [UInt8.toNat_add, UInt8.toNat_ofNat', Nat.mod_eq_of_lt (by omega : n < 2 ^ 8),
      Nat.mod_eq_of_lt (by omega)]
  refine ⟨_, if_pos hk, List.length_modify .., ?_, radixNat_modify hk hdigit⟩
  apply hdec.modify hk
  rw [hdigit]
  exact hn

/-- Octet `i` begins `i % 7` bits behind the start of a septet. -/
theorem octet_place (i : ℕ) : 256 ^ i = 2 ^ (i % 7) * 128 ^ (i + i / 7) := by
  have hexp : 8 * i = i % 7 + 7 * (i + i / 7) := by omega
  calc 256 ^ i = 2 ^ (8 * i) := (pow_mul 2 8 i).symm
    _ = 2 ^ (i % 7) * 2 ^ (7 * (i + i / 7)) := by rw [hexp, pow_add]
    _ = 2 ^ (i % 7) * 128 ^ (i + i / 7) := congrArg _ (pow_mul 2 7 _)

/-- Octet `i` completes one septet and begins the next one. -/
theorem gsm72asciiStep_spec (hdec : IsDigits 128 dec) (hroom : i + i / 7 < dec.length)
    (hplace : radixNat 128 dec < 256 ^ i)
    (hfits : radixNat 128 dec + b.toNat * 256 ^ i < 128 ^ dec.length) :
    ∃ dec', gsm72asciiStep dec i (i / 7) b = some dec' ∧ dec'.length = dec.length ∧
      IsDigits 128 dec' ∧ radixNat 128 dec' = radixNat 128 dec + b.toNat * 256 ^ i := by
  unfold gsm72asciiStep
  extract_lets d t u
  have hb := b.toNat_lt
  have hu : u = b.toNat / 2 ^ d := by
    have hle : b.toNat / 2 ^ d ≤ b.toNat := Nat.div_le_self ..
    show b.toNat >>> d &&& 2 ^ 8 - 1 = _
    rw [Nat.and_two_pow_sub_one_eq_mod, Nat.shiftRight_eq_div_pow, Nat.mod_eq_of_lt (by omega)]
  have ht : t = b.toNat % 2 ^ d := by
    show b.toNat - u <<< d = _
    rw [hu, Nat.shiftLeft_eq, mul_comm, Nat.mod_eq_sub]
  have hsplit : t + u * 2 ^ d = b.toNat := by
    rw [ht, hu, mul_comm]
    exact Nat.mod_add_div ..
  have hwidth : 2 ^ d * 2 ^ (i % 7) = 128 := by
    rw [← pow_add, show d + i % 7 = 7 by omega]
    rfl
  have hshift : t <<< ((i + i / 7) % 8) = t * 2 ^ (i % 7) := by
    rw [show (i + i / 7) % 8 = i % 7 by omega, Nat.shiftLeft_eq]
  have hlow : t * 2 ^ (i % 7) + 2 ^ (i % 7) ≤ 128 := by
    have hlt : t + 1 ≤ 2 ^ d := ht ▸ Nat.mod_lt _ (Nat.two_pow_pos d)
    calc t * 2 ^ (i % 7) + 2 ^ (i % 7) = (t + 1) * 2 ^ (i % 7) := by ring
      _ ≤ 2 ^ d * 2 ^ (i % 7) := Nat.mul_le_mul_right _ hlt
      _ = 128 := hwidth
  have hhigh : u * 128 ^ (i + 1 + i / 7) = u * 2 ^ d * 256 ^ i := by
    rw [octet_place, show i + 1 + i / 7 = (i + i / 7) + 1 by omega, pow_succ, ← hwidth]
    ring
  have hvalue : t * 2 ^ (i % 7) * 128 ^ (i + i / 7) + u * 128 ^ (i + 1 + i / 7) =
      b.toNat * 256 ^ i := by
    rw [hhigh, ← hsplit, octet_place]
    ring
  -- The septet that octet `i` completes has as many bits as are missing in the octet.
  have hdigit : dec[i + i / 7].toNat < 2 ^ (i % 7) := digit_lt hroom (octet_place i ▸ hplace)
  obtain ⟨dec', hadd, hlength, hdec', hvalue'⟩ :=
    addAt_spec (n := t * 2 ^ (i % 7)) hroom hdec (by omega)
  rw [hshift, hadd, Option.bind_eq_bind, Option.bind_some]
  by_cases hzero : u = 0
  · rw [hzero, zero_mul, add_zero] at hvalue
    exact ⟨dec', if_neg (not_not.mpr hzero), hlength, hdec', by rw [hvalue', hvalue]⟩
  · have hnext : i + 1 + i / 7 < dec'.length := by
      rw [hlength, ← Nat.pow_lt_pow_iff_right (a := 128) (by norm_num)]
      calc 128 ^ (i + 1 + i / 7) ≤ u * 128 ^ (i + 1 + i / 7) :=
            Nat.le_mul_of_pos_left _ (Nat.pos_of_ne_zero hzero)
        _ ≤ b.toNat * 256 ^ i := hvalue ▸ Nat.le_add_left ..
        _ < 128 ^ dec.length := by omega
    have hnone : dec'[i + 1 + i / 7].toNat < 1 := by
      apply digit_lt hnext
      rw [octet_place] at hplace
      calc radixNat 128 dec' < 2 ^ (i % 7) * 128 ^ (i + i / 7) +
              t * 2 ^ (i % 7) * 128 ^ (i + i / 7) := by omega
        _ = (t * 2 ^ (i % 7) + 2 ^ (i % 7)) * 128 ^ (i + i / 7) := by ring
        _ ≤ 128 * 128 ^ (i + i / 7) := Nat.mul_le_mul_right _ hlow
        _ = 1 * 128 ^ (i + 1 + i / 7) := by
          rw [show i + 1 + i / 7 = (i + i / 7) + 1 by omega, pow_succ]
          ring
    have hu_lt : u < 128 := by
      have hd : 1 ≤ d := by omega
      calc u = b.toNat / 2 ^ d := hu
        _ ≤ b.toNat / 2 ^ 1 := Nat.div_le_div_left (Nat.pow_le_pow_right (by norm_num) hd) (by norm_num)
        _ < 128 := by omega
    obtain ⟨dec'', hadd', hlength', hdec'', hvalue''⟩ :=
      addAt_spec (n := u) hnext hdec' (by omega)
    refine ⟨dec'', (if_pos hzero).trans hadd', hlength'.trans hlength, hdec'', ?_⟩
    rw [hvalue'', hvalue', add_assoc, hvalue]

theorem gsm72asciiLoop_spec (gsm7 : List UInt8) (hdec : IsDigits 128 dec)
    (hlength : dec.length = (i + gsm7.length) * 8 / 7) (hplace : radixNat 128 dec < 256 ^ i)
    (hfits : radixNat 128 dec + 256 ^ i * radixNat 256 gsm7 < 128 ^ dec.length) :
    ∃ dec', gsm72asciiLoop gsm7 i ((i - 1) / 7) dec = some dec' ∧ dec'.length = dec.length ∧
      IsDigits 128 dec' ∧ radixNat 128 dec' = radixNat 128 dec + 256 ^ i * radixNat 256 gsm7 := by
  induction gsm7 generalizing i dec with
  | nil => exact ⟨dec, rfl, rfl, hdec, rfl⟩
  | cons b gsm7 ih =>
    rw [List.length_cons] at hlength
    have ho : (if 7 - i % 7 = 7 ∧ i ≠ 0 then (i - 1) / 7 + 1 else (i - 1) / 7) = i / 7 := by
      split_ifs <;> omega
    have hsum : 256 ^ i * radixNat 256 (b :: gsm7) =
        b.toNat * 256 ^ i + 256 ^ (i + 1) * radixNat 256 gsm7 := by
      rw [radixNat_cons]
      ring
    rw [hsum] at hfits
    obtain ⟨dec', hstep, hlength', hdec', hvalue⟩ :=
      gsm72asciiStep_spec (b := b) (i := i) hdec (by omega) hplace (by omega)
    have hplace' : radixNat 128 dec' < 256 ^ (i + 1) := by
      have hb : b.toNat + 1 ≤ 256 := b.toNat_lt
      calc radixNat 128 dec' < (b.toNat + 1) * 256 ^ i := by rw [hvalue]; linarith
        _ ≤ 256 * 256 ^ i := Nat.mul_le_mul_right _ hb
        _ = 256 ^ (i + 1) := (pow_succ' ..).symm
    obtain ⟨dec₃, hloop, hlength₃, hdec₃, hvalue₃⟩ := ih (i := i + 1) hdec'
      (by rw [hlength', hlength]; congr 2; omega) hplace' (by rw [hlength', hvalue]; omega)
    refine ⟨dec₃, ?_, hlength₃.trans hlength', hdec₃, ?_⟩
    · rw [gsm72asciiLoop, ho, hstep, Option.bind_eq_bind, Option.bind_some]
      exact hloop
    · rw [hvalue₃, hvalue, hsum, add_assoc]

/-- **`gsm72ascii`** gives the septets with the bits of the octets, unless a bit is left over. -/
theorem gsm72ascii_spec {gsm7 : List UInt8}
    (hfits : radixNat 256 gsm7 < 128 ^ (gsm7.length * 8 / 7)) :
    ∃ ascii, gsm72ascii gsm7 = some ascii ∧ ascii.length = gsm7.length * 8 / 7 ∧
      IsDigits 128 ascii ∧ radixNat 128 ascii = radixNat 256 gsm7 := by
  have hlength : (gsm7.length * 8 - gsm7.length * 8 % 7) / 7 = gsm7.length * 8 / 7 := by omega
  have hzeros := IsDigits.zeros (b := 128) (by norm_num) (gsm7.length * 8 / 7)
  unfold gsm72ascii
  dsimp only
  rw [hlength]
  obtain ⟨dec, hloop, hlength', hdec, hvalue⟩ := gsm72asciiLoop_spec (i := 0) gsm7 hzeros
    (by rw [List.length_replicate, zero_add]) (by rw [radixNat_replicate_zero]; norm_num)
    (by rw [radixNat_replicate_zero, List.length_replicate]; simpa using hfits)
  refine ⟨dec, hloop, by rw [hlength', List.length_replicate], hdec, ?_⟩
  rw [hvalue, radixNat_replicate_zero, pow_zero, zero_add, one_mul]

end Decoder

section Encoder

variable {enc : List UInt8} {c : UInt8} {i : ℕ}

/-- Bits that are free are added. -/
theorem orAt_spec {k n m : ℕ} (hk : n ≠ 0 → k < enc.length) (hn : n < 256) (hm : 2 ^ m ∣ n)
    (hfree : ∀ d ∈ enc[k]?, d.toNat < 2 ^ m) : ∃ enc', orAt enc k (UInt8.ofNat n) = some enc' ∧
      enc'.length = enc.length ∧ radixNat 256 enc' = radixNat 256 enc + n * 256 ^ k ∧
        ∀ j, j ≠ k → enc'[j]? = enc[j]? := by
  have hofNat : (UInt8.ofNat n).toNat = n := by rw [UInt8.toNat_ofNat', Nat.mod_eq_of_lt hn]
  unfold orAt
  by_cases hzero : n = 0
  · subst hzero
    exact ⟨enc, rfl, rfl, by rw [zero_mul, add_zero], fun _ _ => rfl⟩
  have hk' := hk hzero
  have hne : UInt8.ofNat n ≠ 0 := fun h => hzero (hofNat.symm.trans (congrArg UInt8.toNat h))
  rw [if_neg hne, if_pos hk']
  refine ⟨_, rfl, List.length_modify .., radixNat_modify hk' ?_, ?_⟩
  · obtain ⟨q, rfl⟩ := hm
    have hdigit := hfree enc[k] (List.getElem?_eq_getElem hk')
    rw [UInt8.toNat_or, hofNat, mul_comm, ← Nat.shiftLeft_eq, Nat.or_comm,
      ← Nat.shiftLeft_add_eq_or_of_lt hdigit, Nat.add_comm]
  · intro j hj
    simp only [List.getElem?_modify, if_neg (Ne.symm hj), Option.map_eq_map, Option.map_id']

/-- Where the highest bits of character `i` are written. -/
theorem ascii2gsm7_dPos (i : ℕ) :
    ((i * 7 - i * 7 % 8) / 8 + if 0 < i * 7 % 8 then 1 else 0) = i - i / 8 := by
  split_ifs <;> omega

/-- Character `i` begins in the octet in front of that, unless it begins with an octet. -/
theorem septet_place (i : ℕ) (h : i % 8 ≠ 0) :
    128 ^ i = 2 ^ (8 - i % 8) * 256 ^ (i - i / 8 - 1) := by
  have hexp : 7 * i = 8 - i % 8 + 8 * (i - i / 8 - 1) := by omega
  calc 128 ^ i = 2 ^ (7 * i) := (pow_mul 2 7 i).symm
    _ = 2 ^ (8 - i % 8) * 2 ^ (8 * (i - i / 8 - 1)) := by rw [hexp, pow_add]
    _ = 2 ^ (8 - i % 8) * 256 ^ (i - i / 8 - 1) := congrArg _ (pow_mul 2 8 _)

theorem septet_aligned (i : ℕ) (h : i % 8 = 0) : 128 ^ i = 256 ^ (i - i / 8) := by
  have hexp : 7 * i = 8 * (i - i / 8) := by omega
  calc 128 ^ i = 2 ^ (7 * i) := (pow_mul 2 7 i).symm
    _ = 256 ^ (i - i / 8) := by rw [hexp, pow_mul]; rfl

/-- What is below character `i` leaves the octets from `i - i / 8` on free. -/
theorem septet_place_le (i : ℕ) : 128 ^ i ≤ 256 ^ (i - i / 8) := by
  by_cases h : i % 8 = 0
  · exact (septet_aligned i h).le
  · have hexp : i - i / 8 = (i - i / 8 - 1) + 1 := by omega
    have hle : 2 ^ (8 - i % 8) ≤ 2 ^ 8 := Nat.pow_le_pow_right (by norm_num) (Nat.sub_le ..)
    calc 128 ^ i = 2 ^ (8 - i % 8) * 256 ^ (i - i / 8 - 1) := septet_place i h
      _ ≤ 2 ^ 8 * 256 ^ (i - i / 8 - 1) := Nat.mul_le_mul_right _ hle
      _ = 256 ^ (i - i / 8 - 1 + 1) := (pow_succ' ..).symm
      _ = 256 ^ (i - i / 8) := by rw [← hexp]

theorem ascii2gsm7Step_spec (hc : c.toNat < 128) (hlength : (7 * (i + 1) + 7) / 8 ≤ enc.length)
    (hplace : radixNat 256 enc < 128 ^ i) :
    ∃ enc', ascii2gsm7Step enc i c = some enc' ∧ enc'.length = enc.length ∧
      radixNat 256 enc' = radixNat 256 enc + c.toNat * 128 ^ i := by
  have hhigh : c.toNat >>> (i % 8) = c.toNat / 2 ^ (i % 8) := Nat.shiftRight_eq_div_pow ..
  have hdigit : ∀ {k m}, radixNat 256 enc < m * 256 ^ k → ∀ d ∈ enc[k]?, d.toNat < m := by
    intro k m hlt d hd
    obtain ⟨hk, rfl⟩ := List.getElem?_eq_some_iff.mp hd
    exact digit_lt hk hlt
  have hroom : c.toNat >>> (i % 8) ≠ 0 → i - i / 8 < enc.length := by
    intro hne
    -- The last septet of eight has no bit left over.
    have hlast : i % 8 ≠ 7 := by
      intro h7
      rw [hhigh, h7] at hne
      omega
    omega
  have hsmall : c.toNat >>> (i % 8) < 256 := by
    rw [hhigh]
    exact (Nat.div_le_self ..).trans_lt c.toNat_lt
  obtain ⟨enc', hor, hlength', hvalue, hframe⟩ := orAt_spec (m := 0) hroom hsmall (one_dvd _)
    (hdigit (by rw [pow_zero, one_mul]; exact hplace.trans_le (septet_place_le i)))
  unfold ascii2gsm7Step
  dsimp only
  rw [ascii2gsm7_dPos, hor, Option.bind_eq_bind, Option.bind_some]
  by_cases haligned : i % 8 = 0
  · have hzero : UInt8.ofNat (c.toNat <<< (8 - i % 8)) = 0 := by
      rw [haligned, Nat.shiftLeft_eq]
      apply UInt8.toNat_inj.mp
      rw [UInt8.toNat_ofNat']
      exact Nat.mul_mod_left ..
    refine ⟨enc', if_pos hzero, hlength', ?_⟩
    rw [hvalue, haligned, Nat.shiftRight_zero, ← septet_aligned i haligned]
  · have hk : i - i / 8 = (i - i / 8 - 1) + 1 := by omega
    have hlow : c.toNat <<< (8 - i % 8) % 256 = 2 ^ (8 - i % 8) * (c.toNat % 2 ^ (i % 8)) := by
      have hwidth : 256 = 2 ^ (8 - i % 8) * 2 ^ (i % 8) := by
        rw [← pow_add, show 8 - i % 8 + i % 8 = 8 by omega]
        rfl
      rw [Nat.shiftLeft_eq, mul_comm, hwidth, Nat.mul_mod_mul_left]
    have hofNat : UInt8.ofNat (c.toNat <<< (8 - i % 8)) =
        UInt8.ofNat (2 ^ (8 - i % 8) * (c.toNat % 2 ^ (i % 8))) := by
      apply UInt8.toNat_inj.mp
      rw [UInt8.toNat_ofNat', UInt8.toNat_ofNat', ← hlow, Nat.mod_mod]
    have hfree : ∀ d ∈ enc'[i - i / 8 - 1]?, d.toNat < 2 ^ (8 - i % 8) := by
      rw [hframe _ (by omega)]
      exact hdigit (septet_place i haligned ▸ hplace)
    obtain ⟨enc'', hor', hlength'', hvalue', -⟩ := orAt_spec
      (n := 2 ^ (8 - i % 8) * (c.toNat % 2 ^ (i % 8))) (fun _ => by omega)
      (hlow ▸ Nat.mod_lt _ (by norm_num)) (dvd_mul_right ..) hfree
    refine ⟨enc'', hofNat ▸ hor', hlength''.trans hlength', ?_⟩
    have hsplit := Nat.mod_add_div c.toNat (2 ^ (i % 8))
    have hpow : 256 ^ (i - i / 8) = 2 ^ (i % 8) * 128 ^ i := by
      rw [septet_place i haligned, ← mul_assoc, ← pow_add, hk, pow_succ',
        show i % 8 + (8 - i % 8) = 8 by omega]
      rfl
    rw [hvalue', hvalue, hhigh, hpow]
    calc radixNat 256 enc + c.toNat / 2 ^ (i % 8) * (2 ^ (i % 8) * 128 ^ i) +
            2 ^ (8 - i % 8) * (c.toNat % 2 ^ (i % 8)) * 256 ^ (i - i / 8 - 1) =
          radixNat 256 enc + 2 ^ (i % 8) * (c.toNat / 2 ^ (i % 8)) * 128 ^ i +
            c.toNat % 2 ^ (i % 8) * (2 ^ (8 - i % 8) * 256 ^ (i - i / 8 - 1)) := by ring
      _ = radixNat 256 enc +
            (c.toNat % 2 ^ (i % 8) + 2 ^ (i % 8) * (c.toNat / 2 ^ (i % 8))) * 128 ^ i := by
          rw [← septet_place i haligned]
          ring
      _ = radixNat 256 enc + c.toNat * 128 ^ i := by rw [hsplit]

theorem ascii2gsm7Loop_spec (ascii : List UInt8) (hascii : IsDigits 128 ascii)
    (hlength : enc.length = (7 * (i + ascii.length) + 7) / 8) (hplace : radixNat 256 enc < 128 ^ i) :
    ∃ enc', ascii2gsm7Loop ascii i enc = some enc' ∧ enc'.length = enc.length ∧
      radixNat 256 enc' = radixNat 256 enc + 128 ^ i * radixNat 128 ascii := by
  induction ascii generalizing i enc with
  | nil => exact ⟨enc, rfl, rfl, rfl⟩
  | cons c ascii ih =>
    rw [List.length_cons] at hlength
    have hc : c.toNat < 128 := hascii c List.mem_cons_self
    obtain ⟨enc', hstep, hlength', hvalue⟩ :=
      ascii2gsm7Step_spec (i := i) hc (by omega) hplace
    have hplace' : radixNat 256 enc' < 128 ^ (i + 1) := by
      calc radixNat 256 enc' < (c.toNat + 1) * 128 ^ i := by rw [hvalue]; linarith
        _ ≤ 128 * 128 ^ i := Nat.mul_le_mul_right _ hc
        _ = 128 ^ (i + 1) := (pow_succ' ..).symm
    have hrest : enc'.length = (7 * (i + 1 + ascii.length) + 7) / 8 := by
      rw [hlength', hlength]
      congr 2
      omega
    obtain ⟨enc'', hloop, hlength'', hvalue'⟩ :=
      ih (fun d hd => hascii d (List.mem_cons_of_mem _ hd)) hrest hplace'
    refine ⟨enc'', ?_, hlength''.trans hlength', ?_⟩
    · rw [ascii2gsm7Loop, hstep, Option.bind_eq_bind, Option.bind_some]
      exact hloop
    · rw [hvalue', hvalue, radixNat_cons]
      ring

/-- How many octets are allocated. -/
theorem ascii2gsm7_length (n : ℕ) :
    ((n * 7 - n * 7 % 8) / 8 + if 0 < n * 7 % 8 then 1 else 0) = (7 * n + 7) / 8 := by
  split_ifs <;> omega

/-- **`ascii2gsm7`** gives the octets with the bits of the septets. -/
theorem ascii2gsm7_spec {ascii : List UInt8} (hascii : IsDigits 128 ascii) :
    ∃ gsm7, ascii2gsm7 ascii = some gsm7 ∧ gsm7.length = (7 * ascii.length + 7) / 8 ∧
      radixNat 256 gsm7 = radixNat 128 ascii := by
  unfold ascii2gsm7
  dsimp only
  rw [ascii2gsm7_length]
  have hzeros : (List.replicate ((7 * ascii.length + 7) / 8) (0 : UInt8)).length =
    (7 * (0 + ascii.length) + 7) / 8 := by rw [List.length_replicate, zero_add]
  obtain ⟨enc, hloop, hlength', hvalue⟩ := ascii2gsm7Loop_spec (i := 0) ascii hascii hzeros
    (by rw [radixNat_replicate_zero]; norm_num)
  refine ⟨enc, hloop, by rw [hlength', List.length_replicate], ?_⟩
  rw [hvalue, radixNat_replicate_zero, pow_zero, zero_add, one_mul]

end Encoder

/-- The septets of packed octets are read back, with zeros behind them. -/
theorem gsm72ascii_packed {gsm7 septets : List UInt8} (hseptets : IsDigits 128 septets)
    (hlength : gsm7.length = (7 * septets.length + 7) / 8)
    (hvalue : radixNat 256 gsm7 = radixNat 128 septets) :
    gsm72ascii gsm7 =
      some (septets ++ List.replicate (gsm7.length * 8 / 7 - septets.length) 0) := by
  have hle : septets.length ≤ gsm7.length * 8 / 7 := by omega
  have hlt : radixNat 256 gsm7 < 128 ^ (gsm7.length * 8 / 7) := by
    rw [hvalue]
    exact (radixNat_lt (by norm_num) hseptets).trans_le (Nat.pow_le_pow_right (by norm_num) hle)
  obtain ⟨ascii, hascii, hlength', hdigits, hvalue'⟩ := gsm72ascii_spec hlt
  refine hascii.trans (congrArg some ?_)
  apply radixNat_inj (b := 128) (by norm_num) _ hdigits (hseptets.append (.zeros (by norm_num) _))
  · rw [hvalue', hvalue, radixNat_zeros]
  · rw [hlength', List.length_append, List.length_replicate]
    omega

end Mocha.Ril
