import Mathlib.Data.List.Basic

/-! Hexadecimal strings (`util.c`). -/
namespace Mocha.Ril

/-- A C string, by its characters in front of the terminator. -/
abbrev CString := List UInt8

/-- The characters of a literal. -/
def cString (s : String) : CString := s.toList.map fun c => UInt8.ofNat c.toNat

/-- `strcpy` into an array of `size` characters; `none` where it leaves the array. -/
def strcpy (size : ℕ) (src : CString) : Option CString := if src.length < size then some src else none

theorem strcpy_of_lt {size : ℕ} {src : CString} (h : src.length < size) : strcpy size src = some src :=
  if_pos h

theorem strcpy_eq_some {size : ℕ} {src dst : CString} :
    strcpy size src = some dst ↔ src.length < size ∧ src = dst := by
  unfold strcpy
  split_ifs with h <;> simp [h]

/-- `isspace` -/
def isSpace (c : UInt8) : Bool := c = 0x20 ∨ (0x09 ≤ c ∧ c ≤ 0x0D)

def hexDigit? (c : UInt8) : Option UInt8 :=
  if 0x30 ≤ c ∧ c ≤ 0x39 then some (c - 0x30)
  else if 0x61 ≤ c ∧ c ≤ 0x66 then some (c - 0x61 + 10)
  else if 0x41 ≤ c ∧ c ≤ 0x46 then some (c - 0x41 + 10)
  else none

/-- `sscanf(s, "%01x", &b)`, which skips leading white space; 0 where it fails. -/
def sscanfHexDigit (s : CString) : UInt8 := ((s.dropWhile isSpace).head?.bind hexDigit?).getD 0

def string2dataSize (string : CString) : ℕ :=
  let length := string.length
  if length = 0 then 0
  else if length % 2 = 0 then length / 2
  else (length - length % 2) / 2 + 1

/-- The loop of `string2data`; `p` is the byte at the write position. -/
def string2dataLoop : CString → ℕ → UInt8 → List UInt8
  | [], _, _ => []
  | c :: cs, shift, p =>
    let b := sscanfHexDigit (c :: cs)
    if shift % 2 = 0 then string2dataLoop cs (shift + 1) (p ||| ((b &&& 0x0f) <<< 4))
    else (p ||| (b &&& 0x0f)) :: string2dataLoop cs (shift + 1) 0

/-- `string2data`; `none` for a null result. -/
def string2data (string : CString) : Option (List UInt8) :=
  let length := string.length
  if length = 0 then none
  else
    let shift := if length % 2 = 0 then 0 else 1
    if string2dataSize string = 0 then none else some (string2dataLoop string shift 0)

theorem string2dataLoop_length (string : CString) (shift : ℕ) (p : UInt8) :
    (string2dataLoop string shift p).length = (string.length + shift % 2) / 2 := by
  induction string generalizing shift p with
  | nil => simp only [string2dataLoop, List.length_nil]; omega
  | cons c cs ih =>
    rw [string2dataLoop]
    split_ifs with hshift
    · rw [ih, List.length_cons]; omega
    · rw [List.length_cons, ih, List.length_cons]; omega

theorem string2dataSize_eq (string : CString) :
    string2dataSize string = (string.length + 1) / 2 := by
  unfold string2dataSize
  dsimp only
  split_ifs <;> omega

theorem string2data_eq_some {string : CString} {data : List UInt8}
    (h : string2data string = some data) :
    0 < string2dataSize string ∧
      data = string2dataLoop string (if string.length % 2 = 0 then 0 else 1) 0 := by
  unfold string2data at h
  dsimp only at h
  by_cases h0 : string.length = 0
  · simp [h0] at h
  by_cases hsize : string2dataSize string = 0
  · simp [hsize] at h
  rw [if_neg h0, if_neg hsize] at h
  exact ⟨Nat.pos_of_ne_zero hsize, (Option.some.inj h).symm⟩

/-- The buffer has the size that `string2data_size` reports. -/
theorem string2data_length {string : CString} {data : List UInt8}
    (h : string2data string = some data) : data.length = string2dataSize string := by
  rw [(string2data_eq_some h).2, string2dataLoop_length, string2dataSize_eq]
  split_ifs <;> omega

def hexChar (n : UInt8) : UInt8 := if n < 10 then 0x30 + n else 0x61 + (n - 10)

/-- `sprintf(s, "%02x", b)` -/
def hexByte (b : UInt8) : CString := [hexChar (b >>> 4), hexChar (b &&& 0x0f)]

/-- `data2string`; `none` for a null result. -/
def data2string (data : List UInt8) : Option CString :=
  if data.length = 0 then none else some (data.flatMap hexByte)

/-! Two digits at a time. -/

theorem forall_uint8 {P : UInt8 → Prop} (h : ∀ n : Fin 256, P (UInt8.ofNat n)) (b : UInt8) : P b := by
  have hb := h ⟨b.toNat, b.toNat_lt⟩
  rwa [UInt8.ofNat_toNat] at hb

theorem sscanfHexDigit_eq {c x : UInt8} (h : hexDigit? c = some x) (s : CString) :
    sscanfHexDigit (c :: s) = x := by
  have hnot : ∀ c : UInt8, (hexDigit? c).isSome → ¬isSpace c := forall_uint8 (by decide +kernel)
  have hspace := hnot c (by rw [h, Option.isSome_some])
  rw [sscanfHexDigit, List.dropWhile_cons_of_neg hspace, List.head?_cons, Option.bind_some, h,
    Option.getD_some]

theorem string2dataLoop_add_two (s : CString) (shift : ℕ) (p : UInt8) :
    string2dataLoop s (shift + 2) p = string2dataLoop s shift p := by
  induction s generalizing shift p with
  | nil => rfl
  | cons c s ih =>
    rw [string2dataLoop, string2dataLoop, Nat.add_mod_right, Nat.add_right_comm, ih, ih]

theorem string2dataLoop_pair {c d x y : UInt8} (hc : hexDigit? c = some x) (hd : hexDigit? d = some y)
    (s : CString) : string2dataLoop (c :: d :: s) 0 0 =
      ((x &&& 0x0f) <<< 4 ||| (y &&& 0x0f)) :: string2dataLoop s 0 0 := by
  rw [string2dataLoop, string2dataLoop, sscanfHexDigit_eq hc, sscanfHexDigit_eq hd, if_pos (Nat.zero_mod 2),
    if_neg (by decide), string2dataLoop_add_two, UInt8.zero_or]

theorem string2dataLoop_hexByte (b : UInt8) (s : CString) :
    string2dataLoop (hexByte b ++ s) 0 0 = b :: string2dataLoop s 0 0 := by
  have hdigits : ∀ b : UInt8, hexDigit? (hexChar (b >>> 4)) = some (b >>> 4) ∧
      hexDigit? (hexChar (b &&& 0x0f)) = some (b &&& 0x0f) ∧
        ((b >>> 4 &&& 0x0f) <<< 4 ||| (b &&& 0x0f &&& 0x0f)) = b := forall_uint8 (by decide +kernel)
  obtain ⟨hhigh, hlow, hboth⟩ := hdigits b
  rw [hexByte, List.cons_append, List.singleton_append, string2dataLoop_pair hhigh hlow, hboth]

theorem string2dataLoop_hexBytes (data : List UInt8) (s : CString) :
    string2dataLoop (data.flatMap hexByte ++ s) 0 0 = data ++ string2dataLoop s 0 0 := by
  induction data with
  | nil => rfl
  | cons b data ih =>
    rw [List.flatMap_cons, List.append_assoc, string2dataLoop_hexByte, ih, List.cons_append]

theorem hexBytes_length (data : List UInt8) : (data.flatMap hexByte).length = 2 * data.length := by
  induction data with
  | nil => rfl
  | cons b data ih =>
    rw [List.flatMap_cons, List.length_append, ih, List.length_cons, Nat.mul_succ, Nat.add_comm]
    rfl

theorem string2data_of_even {s : CString} (hpos : 0 < s.length) (heven : s.length % 2 = 0) :
    string2data s = some (string2dataLoop s 0 0) := by
  have hsize : string2dataSize s ≠ 0 := by
    rw [string2dataSize_eq]
    omega
  unfold string2data
  dsimp only
  rw [if_neg (Nat.pos_iff_ne_zero.mp hpos), if_neg hsize, if_pos heven]

/-- `string2data` reads the bytes that `data2string` writes. -/
theorem string2data_hexBytes {data : List UInt8} (h : 0 < data.length) :
    string2data (data.flatMap hexByte) = some data := by
  have hlength := hexBytes_length data
  have hread := string2dataLoop_hexBytes data []
  rw [List.append_nil] at hread
  rw [string2data_of_even (by omega) (by omega), hread]
  exact congrArg some (List.append_nil data)

end Mocha.Ril
