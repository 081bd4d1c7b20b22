import Mathlib.Algebra.Ring.Int.Defs
import Mocha.Lib.StringOp
import Mocha.Ril.Hex

/-! The checksum of an NMEA sentence (`util.c`). -/
namespace Mocha.Ril
open Mocha.Lib.StringOp

/-- `snprintf(&mem[pos], size, ...)` for the text `t`: the memory, and the length of the text. There is
none outside the memory. -/
def snprintf (mem : List UInt8) (pos size : ℕ) (t : CString) : Option (List UInt8 × ℤ) :=
  if size = 0 then some (mem, t.length)
  else if pos + (t.take (size - 1)).length < mem.length then
    some (putString mem pos (t.take (size - 1)), t.length)
  else none

/-- An upper-case hexadecimal digit. -/
def upperHexChar (n : UInt8) : UInt8 := if n < 10 then 0x30 + n else 0x41 + (n - 10)

/-- `*%02X\r\n` -/
def checksumText (checksum : UInt8) : CString :=
  [0x2A, upperHexChar (checksum >>> 4), upperHexChar (checksum &&& 0x0f), 0x0D, 0x0A]

/-- The loop of `nmea_put_checksum`, which ends at the terminator. -/
def nmeaChecksumLoop : List UInt8 → UInt8 → ℤ → Option (UInt8 × ℤ)
  | [], _, _ => none
  | c :: cs, checksum, length =>
    if c = 0 then some (checksum, length) else nmeaChecksumLoop cs (checksum ^^^ c) (length + 1)

/-- `nmea_put_checksum`. The loop starts behind the `$`, and its count goes into what is returned. -/
def nmeaPutChecksum (mem : List UInt8) (maxSize : Int32) : Option (List UInt8 × ℤ) := do
  let (checksum, length) ← nmeaChecksumLoop (mem.drop 1) 0 0
  let size := ((maxSize.toInt - length - 1) % 2 ^ 32).toNat
  let (mem, checksumLength) ← snprintf mem (1 + length.toNat) size (checksumText checksum)
  return (mem, length + checksumLength)

/-- A sentence with its checksum, which is taken of the characters behind the `$`. -/
def checksummed (s : CString) : CString := s ++ checksumText ((s.drop 1).foldl (· ^^^ ·) 0)

/-- The sentence is in the memory with its checksum, and its length is returned. -/
def PutsChecksum (mem : List UInt8) (s : CString) (maxSize : Int32) : Prop :=
  ∃ mem', nmeaPutChecksum mem maxSize = some (mem', ((checksummed s).length : ℤ)) ∧
    HoldsAt mem' 0 (checksummed s)

section

variable {mem : List UInt8} {s t : CString} {size : ℕ}

theorem checksumText_length (checksum : UInt8) : (checksumText checksum).length = 5 := rfl

theorem checksumText_ne_zero (checksum : UInt8) : 0 ∉ checksumText checksum := by
  have hdigits : ∀ b : UInt8, 0 ∉ checksumText b := forall_uint8 (by decide +kernel)
  exact hdigits checksum

/-- A text that has room behind the characters of a string makes one string with them. -/
theorem snprintf_behind (size : ℕ) (hs : 0 ∉ s) (hkept : ∀ i, i < s.length → mem[0 + i]? = s[i]?) (ht : 0 ∉ t)
    (hsize : t.length < size) (hroom : s.length + t.length < mem.length) : ∃ mem',
      snprintf mem s.length size t = some (mem', (t.length : ℤ)) ∧ mem'.length = mem.length ∧
        HoldsAt mem' 0 (s ++ t) := by
  have htake : t.take (size - 1) = t := List.take_of_length_le (by omega)
  have hholds : HoldsAt (putString mem (0 + s.length) t) 0 (s ++ t) :=
    holdsAt_putString hs ht hkept (by omega)
  rw [Nat.zero_add] at hholds
  refine ⟨putString mem s.length t, ?_, putString_length hroom, hholds⟩
  unfold snprintf
  rw [if_neg (by omega), htake, if_pos hroom]

/-- The loop takes all characters up to the terminator. -/
theorem nmeaChecksumLoop_eq (hs : 0 ∉ s) (rest : List UInt8) (checksum : UInt8) (length : ℤ) :
    nmeaChecksumLoop (s ++ 0 :: rest) checksum length =
      some (s.foldl (· ^^^ ·) checksum, length + s.length) := by
  induction s generalizing checksum length with
  | nil => simp [nmeaChecksumLoop]
  | cons c s ih =>
    rw [List.mem_cons, not_or] at hs
    rw [List.cons_append, nmeaChecksumLoop, if_neg (Ne.symm hs.1), ih hs.2, List.foldl_cons,
      List.length_cons, Nat.cast_succ, add_assoc, add_comm (1 : ℤ)]

/-- The sentence gets its checksum, but what is returned does not count the `$`. -/
theorem nmeaPutChecksum_eq (hs : HoldsAt mem 0 (0x24 :: s)) (maxSize : Int32)
    (hmax : s.length + 7 ≤ maxSize.toInt) (hmem : maxSize.toInt ≤ mem.length) : ∃ mem',
      nmeaPutChecksum mem maxSize = some (mem', (s.length + 5 : ℤ)) ∧ mem'.length = mem.length ∧
        HoldsAt mem' 0 (checksummed (0x24 :: s)) := by
  have hbody : mem.drop 1 = s ++ 0 :: mem.drop (s.length + 2) := by
    have hall := hs.drop_eq
    rw [List.drop_zero, List.length_cons] at hall
    conv_lhs => rw [hall]
    rfl
  have hne : 0 ∉ s := fun hmem => hs.1 (List.mem_cons_of_mem _ hmem)
  have hloop := nmeaChecksumLoop_eq hne (mem.drop (s.length + 2)) 0 0
  rw [← hbody, zero_add] at hloop
  have hlt := maxSize.toInt_lt
  have hsize : ((maxSize.toInt - s.length - 1) % 2 ^ 32).toNat = maxSize.toInt.toNat - s.length - 1 := by
    rw [Int.emod_eq_of_lt (by omega) (by omega)]
    omega
  have hsentence : (0x24 :: s : CString).length = 1 + s.length := by
    rw [List.length_cons, Nat.add_comm]
  obtain ⟨mem', hput, hlength, hholds⟩ :=
    snprintf_behind (t := checksumText (s.foldl (· ^^^ ·) 0)) (maxSize.toInt.toNat - s.length - 1)
      hs.1 hs.kept (checksumText_ne_zero _) (by rw [checksumText_length]; omega)
      (by rw [checksumText_length, hsentence]; omega)
  rw [hsentence] at hput
  refine ⟨mem', ?_, hlength, hholds⟩
  unfold nmeaPutChecksum
  rw [hloop, Option.bind_eq_bind, Option.bind_some]
  dsimp only
  rw [hsize, Int.toNat_natCast, hput]
  rfl

theorem checksummed_length (s : CString) : (checksummed s).length = s.length + 5 := by
  rw [checksummed, List.length_append, checksumText_length]

/-- **The length that is returned** is short by one, for every sentence. -/
theorem not_putsChecksum_of_holds (hs : HoldsAt mem 0 (0x24 :: s)) {maxSize : Int32}
    (hmax : s.length + 7 ≤ maxSize.toInt) (hmem : maxSize.toInt ≤ mem.length) :
    ¬PutsChecksum mem (0x24 :: s) maxSize := by
  rintro ⟨mem', hput, -⟩
  obtain ⟨mem'', hput', -⟩ := nmeaPutChecksum_eq hs maxSize hmax hmem
  have hlength := (Prod.mk.inj (Option.some.inj (hput.symm.trans hput'))).2
  rw [checksummed_length, List.length_cons] at hlength
  omega

end

end Mocha.Ril
