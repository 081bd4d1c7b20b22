import Mathlib.Data.List.Induction
import Mocha.Ril.Hex

/-! `string2data` and `data2string` undo each other, up to the case of the digits and a zero in front
of an odd number of them. -/
namespace Mocha.Ril

/-- `isxdigit` -/
def isXDigit (c : UInt8) : Bool :=
  (0x30 ≤ c ∧ c ≤ 0x39) ∨ (0x41 ≤ c ∧ c ≤ 0x46) ∨ (0x61 ≤ c ∧ c ≤ 0x66)

/-- `tolower` -/
def toLower (c : UInt8) : UInt8 := if 0x41 ≤ c ∧ c ≤ 0x5A then c + 0x20 else c

theorem hexDigit?_of_isXDigit {c : UInt8} (hc : isXDigit c) :
    ∃ x : Fin 16, hexDigit? c = some (UInt8.ofNat x) ∧ hexChar (UInt8.ofNat x) = toLower c := by
  have hdigits : ∀ c : UInt8, isXDigit c → ∃ x : Fin 16, hexDigit? c = some (UInt8.ofNat x) ∧
      hexChar (UInt8.ofNat x) = toLower c := forall_uint8 (by decide +kernel)
  exact hdigits c hc

/-- The two digits of a byte that is put together from them. -/
theorem hexByte_digits (x y : Fin 16) :
    hexByte ((UInt8.ofNat x &&& 0x0f) <<< 4 ||| (UInt8.ofNat y &&& 0x0f)) =
      [hexChar (UInt8.ofNat x), hexChar (UInt8.ofNat y)] := by
  revert x y
  decide +kernel

/-- An even number of digits is read in pairs. -/
theorem hexBytes_string2dataLoop {s : CString} (hs : ∀ c ∈ s, isXDigit c)
    (heven : s.length % 2 = 0) : (string2dataLoop s 0 0).flatMap hexByte = s.map toLower := by
  induction s using List.twoStepInduction with
  | nil => rfl
  | singleton c => simp at heven
  | cons_cons c d s ih _ =>
    obtain ⟨x, hx, hlowerc⟩ := hexDigit?_of_isXDigit (hs c List.mem_cons_self)
    obtain ⟨y, hy, hlowerd⟩ :=
      hexDigit?_of_isXDigit (hs d (List.mem_cons_of_mem c List.mem_cons_self))
    rw [List.length_cons, List.length_cons] at heven
    have hrest := ih (fun e he => hs e (List.mem_cons_of_mem c (List.mem_cons_of_mem d he)))
      (by omega)
    rw [string2dataLoop_pair hx hy, List.flatMap_cons, hexByte_digits, hrest, hlowerc, hlowerd]
    rfl

/-- An odd number of digits begins with the low digit of a byte. -/
theorem hexBytes_string2dataLoop_odd {c : UInt8} {s : CString} (hc : isXDigit c)
    (hs : ∀ d ∈ s, isXDigit d) (heven : s.length % 2 = 0) :
    (string2dataLoop (c :: s) 1 0).flatMap hexByte = 0x30 :: (c :: s).map toLower := by
  obtain ⟨x, hx, hlower⟩ := hexDigit?_of_isXDigit hc
  have hbyte : hexByte (UInt8.ofNat x &&& 0x0f) = [0x30, hexChar (UInt8.ofNat x)] := by
    have hdigits := hexByte_digits 0 x
    rwa [show (UInt8.ofNat (0 : Fin 16) &&& 0x0f) <<< 4 = 0 from rfl, UInt8.zero_or] at hdigits
  rw [string2dataLoop, sscanfHexDigit_eq hx, if_neg (by decide), string2dataLoop_add_two s 0,
    UInt8.zero_or, List.flatMap_cons, hexBytes_string2dataLoop hs heven, hbyte, hlower]
  rfl

theorem data2string_of_ne_nil {data : List UInt8} (h : data ≠ []) :
    data2string data = some (data.flatMap hexByte) :=
  if_neg (fun hlength => h (List.length_eq_zero_iff.mp hlength))

/-- **Bytes** are read back from their digits. -/
theorem string2data_data2string {data : List UInt8} (h : data ≠ []) :
    ∃ string, data2string data = some string ∧ string2data string = some data ∧
      string2dataSize string = data.length := by
  refine ⟨_, data2string_of_ne_nil h, string2data_hexBytes (List.length_pos_iff.mpr h), ?_⟩
  rw [string2dataSize_eq, hexBytes_length]
  omega

/-- **Digits** are printed back in lower case, and in pairs. -/
theorem data2string_string2data {string : CString} (h : string ≠ [])
    (hdigits : ∀ c ∈ string, isXDigit c) :
    ∃ data, string2data string = some data ∧ data.length = string2dataSize string ∧
      data2string data =
        some ((if string.length % 2 = 1 then [0x30] else []) ++ string.map toLower) := by
  have hpos : 0 < string.length := List.length_pos_iff.mpr h
  obtain ⟨data, hdata⟩ : ∃ data, string2data string = some data := by
    have hsize : string2dataSize string ≠ 0 := by rw [string2dataSize_eq]; omega
    unfold string2data
    dsimp only
    rw [if_neg (Nat.pos_iff_ne_zero.mp hpos), if_neg hsize]
    exact ⟨_, rfl⟩
  obtain ⟨hsize, hloop⟩ := string2data_eq_some hdata
  have hlength := string2data_length hdata
  refine ⟨data, hdata, hlength, ?_⟩
  rw [data2string_of_ne_nil (List.ne_nil_of_length_pos (hlength ▸ hsize)), hloop]
  apply congrArg some
  by_cases heven : string.length % 2 = 0
  · rw [if_pos heven, if_neg (by omega)]
    exact hexBytes_string2dataLoop hdigits heven
  · obtain ⟨c, s, rfl⟩ := List.exists_cons_of_ne_nil h
    rw [List.length_cons] at heven
    rw [List.length_cons, if_neg heven, if_pos (by omega)]
    exact hexBytes_string2dataLoop_odd (hdigits c List.mem_cons_self)
      (fun d hd => hdigits d (List.mem_cons_of_mem c hd)) (by omega)

/-- **The two functions are inverse**, for bytes and for digits that are not none at all. -/
theorem hex_inverse :
    (∀ data : List UInt8, data ≠ [] → ∃ string, data2string data = some string ∧
      string2data string = some data ∧ string2dataSize string = data.length) ∧
    ∀ string : CString, string ≠ [] → (∀ c ∈ string, isXDigit c) →
      ∃ data, string2data string = some data ∧ data.length = string2dataSize string ∧
        data2string data =
          some ((if string.length % 2 = 1 then [0x30] else []) ++ string.map toLower) :=
  ⟨fun _ h => string2data_data2string h, fun _ h hdigits => data2string_string2data h hdigits⟩

end Mocha.Ril
