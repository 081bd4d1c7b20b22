import Mocha.Ril.Hex

/-! Numbers in semi-octets (`mocha-ipc/util.c`): two digits to a byte, the low one first. -/
namespace Mocha.Ril

def bcddigit2ascii (d : UInt8) : UInt8 :=
  if d < 0xA then d + 0x30
  else if d = 0xA then 0x2A
  else if d = 0xB then 0x23
  else if d = 0xC then 0x50
  else if d = 0xD then 0x3F
  else 0

/-- The bytes that `bcd2ascii` writes, with the terminator. -/
def bcd2ascii (l : List UInt8) : List UInt8 :=
  (l.flatMap fun b => [bcddigit2ascii (b &&& 0xF), bcddigit2ascii ((b >>> 4) &&& 0xF)]) ++ [0]

theorem bcd2ascii_length (l : List UInt8) : (bcd2ascii l).length = 2 * l.length + 1 := by
  unfold bcd2ascii
  rw [List.length_append, List.length_flatMap]
  simp [Nat.mul_comm]

/-- The string at the start of a buffer. -/
def bufferString (l : List UInt8) : CString := l.takeWhile (· ≠ 0)

def imeiBcd2ascii (bcd : List UInt8) : CString :=
  bufferString ((bcd2ascii ((bcd.drop 1).take 8)).drop 1)

/-- `imsi_bcd2ascii` for the bytes of an IMSI. It leaves out the first digit of the string, and with
it the terminator where there are no digits; `stack` is what stands there. -/
def imsiBcd2ascii (stack : CString) (bcd : List UInt8) : CString :=
  if bcd.length ≤ 1 then stack else bufferString ((bcd2ascii (bcd.drop 1)).drop 1)

/-! Numbers as the network sends them. -/

def digitChar (d : Fin 10) : UInt8 := 0x30 + UInt8.ofNat d

/-- Two digits to an octet, with a filler behind an odd number of them. -/
def semiOctets : List (Fin 10) → List UInt8
  | [] => []
  | [d] => [UInt8.ofNat (16 * 0xF + d)]
  | d :: e :: ds => UInt8.ofNat (16 * e + d) :: semiOctets ds

theorem semiOctets_length (ds : List (Fin 10)) : (semiOctets ds).length = (ds.length + 1) / 2 := by
  induction ds using semiOctets.induct with
  | case1 => rfl
  | case2 d => rw [semiOctets, List.length_singleton, List.length_singleton]
  | case3 d e ds ih =>
    rw [semiOctets, List.length_cons, ih, List.length_cons, List.length_cons]
    omega

theorem digitChar_ne_zero (d : Fin 10) : digitChar d ≠ 0 := by
  revert d
  decide

/-- The digits are read back, and the filler as the end of the string. -/
theorem bcd2ascii_semiOctets (ds : List (Fin 10)) :
    bcd2ascii (semiOctets ds) = ds.map digitChar ++ List.replicate (ds.length % 2 + 1) 0 := by
  have hpair : ∀ d e : Fin 10, bcddigit2ascii (UInt8.ofNat (16 * e + d) &&& 0xF) = digitChar d ∧
      bcddigit2ascii (UInt8.ofNat (16 * e + d) >>> 4 &&& 0xF) = digitChar e := by decide
  have hlast : ∀ d : Fin 10, bcddigit2ascii (UInt8.ofNat (16 * 0xF + d) &&& 0xF) = digitChar d ∧
      bcddigit2ascii (UInt8.ofNat (16 * 0xF + d) >>> 4 &&& 0xF) = 0 := by decide
  unfold bcd2ascii
  induction ds using semiOctets.induct with
  | case1 => rfl
  | case2 d =>
    rw [semiOctets, List.flatMap_singleton, (hlast d).1, (hlast d).2]
    rfl
  | case3 d e ds ih =>
    rw [semiOctets, List.flatMap_cons, (hpair d e).1, (hpair d e).2, List.append_assoc, ih,
      List.length_cons, List.length_cons, Nat.add_assoc, Nat.add_mod_right]
    rfl

theorem bufferString_digits (ds : List (Fin 10)) (rest : List UInt8) :
    bufferString (ds.map digitChar ++ 0 :: rest) = ds.map digitChar := by
  unfold bufferString
  rw [List.takeWhile_append_of_pos, List.takeWhile_cons_of_neg (by decide), List.append_nil]
  intro c hc
  obtain ⟨d, -, rfl⟩ := List.mem_map.mp hc
  exact decide_eq_true (digitChar_ne_zero d)

end Mocha.Ril
