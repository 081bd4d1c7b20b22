import Mocha.Lib.Block
import Mocha.Lib.PrefixCode
import Mocha.Ril.Data
import Mocha.Ril.SmsDeliver

/-! Answers to USSD requests (`ss.c`), which are rewritten from UCS2 to UTF-8 (`util.c`) on the way to
the telephony layer. Allocations are taken to succeed. -/
namespace Mocha.Ril
open Mocha.Lib InformationTheory

/-- What `utf8_write` returns. -/
def utf8Length (v : ℕ) : ℕ :=
  if v < 0x80 then 1 else if v < 0x800 then 2 else if v < 0x10000 then 3 else 4

/-- The bytes that `utf8_write` writes. -/
def utf8Bytes (v : ℕ) : List UInt8 :=
  if v < 0x80 then [UInt8.ofNat v]
  else if v < 0x800 then [UInt8.ofNat (0xc0 ||| v >>> 6), UInt8.ofNat (0x80 ||| v &&& 0x3f)]
  else if v < 0x10000 then
    [UInt8.ofNat (0xe0 ||| v >>> 12), UInt8.ofNat (0x80 ||| v >>> 6 &&& 0x3f),
      UInt8.ofNat (0x80 ||| v &&& 0x3f)]
  else
    [UInt8.ofNat (0xf0 ||| v >>> 18 &&& 0x7), UInt8.ofNat (0x80 ||| v >>> 12 &&& 0x3f),
      UInt8.ofNat (0x80 ||| v >>> 6 &&& 0x3f), UInt8.ofNat (0x80 ||| v &&& 0x3f)]

/-- `utf8_write`, for a buffer that is not null. -/
def utf8Write (utf8 : Block) (offset v : ℕ) : Option (Block × ℕ) :=
  (utf8.memcpy offset (utf8Bytes v)).map (·, utf8Length v)

/-- `tapiSsCallback`, as far as it is read. -/
structure TapiSsCallback where
  ssType : UInt8
  dcs : UInt8
  strLen : UInt32
  ussdStr : List.Vector UInt8 0xB8

/-- One round of the loop over the payload, with `result` beside the buffer. -/
def ucs2Step (ucs2 : List UInt8) (m : Block × ℕ) (i : ℕ) : Option (Block × ℕ) := do
  let high : UInt8 ← ucs2[i]?
  let low : UInt8 ← ucs2[1 + i]?
  let c := high.toNat <<< 8 ||| low.toNat
  let (message, length) ← utf8Write m.1 m.2 c
  return (message, m.2 + length)

/-- The rounds for `i = 0, 2, 4, ..` below the length. -/
def ucs2Loop (ucs2 : List UInt8) (dataDecLen : ℕ) (message : Block) : Option (Block × ℕ) :=
  ((List.range ((dataDecLen + 1) / 2)).map (2 * ·)).foldlM (ucs2Step ucs2) (message, 0)

/-- `message[1]` of a payload in UCS2, and the length of the text in it. -/
def ucs2Message (fresh : ℕ → UInt8) (ucs2 : List UInt8) (dataDecLen : ℕ) : Option (Block × ℕ) := do
  let (message, result) ← ucs2Loop ucs2 dataDecLen (.malloc fresh (dataDecLen * 4 + 1))
  let message ← message.memcpy result [0x00]
  return (message, result)

/-- `message[1]` of a payload in any other coding, which is copied and cut. -/
def asciiMessage (ssResp : TapiSsCallback) : Option Block := do
  let text ← arrayString ssResp.ussdStr
  Block.memcpy ⟨text ++ [0x00], true⟩ ssResp.strLen.toNat [0x00]

/-- The strings of `RIL_UNSOL_ON_USSD`. -/
structure OnUssd where
  mode : CString
  message : Block

/-- `ipc_ss_ussd_response`; the notice `DONE!` has no response. -/
def ipcSsUssdResponse (fresh : ℕ → UInt8) (s : RilData) (ssResp : TapiSsCallback) :
    Option (RilData × Option OnUssd) :=
  if ssResp.ussdStr.toList.take 5 = cString "DONE!" then some (s, none)
  else do
    let s := { s with state := { s.state with ussdState := ssResp.ssType.toNat } }
    let message ←
      if ssResp.dcs = 0x48 then
        (ucs2Message fresh ssResp.ussdStr.toList ssResp.strLen.toNat).map Prod.fst
      else asciiMessage ssResp
    return (s, some ⟨decimal ssResp.ssType.toNat, message⟩)

section Code

/-- The last byte of a character, and the ones in the middle. -/
def utf8Tail (n : ℕ) : UInt8 := UInt8.ofNat (0x80 + n % 64)

theorem utf8Tail_eq (n : ℕ) : UInt8.ofNat (0x80 ||| n &&& 0x3f) = utf8Tail n := by
  have htail : ∀ m : Fin 64, 0x80 ||| (m : ℕ) = 0x80 + m := by decide
  have hlow : n &&& 0x3f = n % 64 := Nat.and_two_pow_sub_one_eq_mod n 6
  rw [hlow, utf8Tail]
  exact congrArg UInt8.ofNat (htail ⟨n % 64, Nat.mod_lt n (by norm_num)⟩)

theorem utf8Tail_toNat (n : ℕ) : (utf8Tail n).toNat % 64 = n % 64 := by
  rw [utf8Tail, UInt8.toNat_ofNat']
  omega

theorem utf8Bytes_one {v : ℕ} (h : v < 0x80) : utf8Bytes v = [UInt8.ofNat v] := if_pos h

theorem utf8Bytes_two {v : ℕ} (h : 0x80 ≤ v) (h' : v < 0x800) :
    utf8Bytes v = [UInt8.ofNat (0xc0 + v / 64), utf8Tail v] := by
  have hlead : ∀ m : Fin 32, 0xc0 ||| (m : ℕ) = 0xc0 + m := by decide
  have hhigh : 0xc0 ||| v >>> 6 = 0xc0 + v / 64 := by
    rw [Nat.shiftRight_eq_div_pow]
    exact hlead ⟨v / 64, by omega⟩
  rw [utf8Bytes, if_neg (by omega), if_pos h', utf8Tail_eq, hhigh]

theorem utf8Bytes_three {v : ℕ} (h : 0x800 ≤ v) (h' : v < 0x10000) :
    utf8Bytes v = [UInt8.ofNat (0xe0 + v / 4096), utf8Tail (v / 64), utf8Tail v] := by
  have hlead : ∀ m : Fin 16, 0xe0 ||| (m : ℕ) = 0xe0 + m := by decide
  have hhigh : 0xe0 ||| v >>> 12 = 0xe0 + v / 4096 := by
    rw [Nat.shiftRight_eq_div_pow]
    exact hlead ⟨v / 4096, by omega⟩
  rw [utf8Bytes, if_neg (by omega), if_neg (by omega), if_pos h', utf8Tail_eq, utf8Tail_eq, hhigh,
    Nat.shiftRight_eq_div_pow]

/-- The character at the start of a text of characters of up to three bytes. -/
def utf8Read : List UInt8 → Option (UInt16 × List UInt8)
  | [] => none
  | b :: rest =>
    if b.toNat < 0x80 then some (UInt16.ofNat b.toNat, rest)
    else if b.toNat < 0xe0 then
      match rest with
      | c :: rest => some (UInt16.ofNat (b.toNat % 32 * 64 + c.toNat % 64), rest)
      | _ => none
    else
      match rest with
      | c :: d :: rest =>
        some (UInt16.ofNat (b.toNat % 16 * 4096 + c.toNat % 64 * 64 + d.toNat % 64), rest)
      | _ => none

theorem utf8Read_utf8Bytes {v : ℕ} (h : v < 0x10000) (rest : List UInt8) :
    utf8Read (utf8Bytes v ++ rest) = some (UInt16.ofNat v, rest) := by
  by_cases hone : v < 0x80
  · have hb : (UInt8.ofNat v).toNat = v := by rw [UInt8.toNat_ofNat', Nat.mod_eq_of_lt (by omega)]
    rw [utf8Bytes_one hone, List.singleton_append]
    unfold utf8Read
    dsimp only
    rw [hb, if_pos hone]
  by_cases htwo : v < 0x800
  · have hb : (UInt8.ofNat (0xc0 + v / 64)).toNat = 0xc0 + v / 64 := by
      rw [UInt8.toNat_ofNat', Nat.mod_eq_of_lt (by omega)]
    have hvalue : (0xc0 + v / 64) % 32 * 64 + v % 64 = v := by omega
    rw [utf8Bytes_two (by omega) htwo, List.cons_append, List.singleton_append]
    unfold utf8Read
    dsimp only
    rw [hb, if_neg (by omega), if_pos (by omega), utf8Tail_toNat, hvalue]
  · have hb : (UInt8.ofNat (0xe0 + v / 4096)).toNat = 0xe0 + v / 4096 := by
      rw [UInt8.toNat_ofNat', Nat.mod_eq_of_lt (by omega)]
    have hvalue : (0xe0 + v / 4096) % 16 * 4096 + v / 64 % 64 * 64 + v % 64 = v := by omega
    rw [utf8Bytes_three (by omega) h, List.cons_append, List.cons_append, List.singleton_append]
    unfold utf8Read
    dsimp only
    rw [hb, if_neg (by omega), if_neg (by omega), utf8Tail_toNat, utf8Tail_toNat, hvalue]

theorem utf8Bytes_length (v : ℕ) : (utf8Bytes v).length = utf8Length v := by
  unfold utf8Bytes utf8Length
  split_ifs <;> rfl

/-- The characters of 16 bits. -/
def utf8Code : PrefixCode UInt16 UInt8 where
  encode c := utf8Bytes c.toNat
  read := utf8Read
  encode_ne_nil c := by
    have hlength := utf8Bytes_length c.toNat
    intro hnil
    rw [hnil, List.length_nil, utf8Length] at hlength
    split_ifs at hlength
  read_encode c rest := by
    rw [utf8Read_utf8Bytes c.toNat_lt, UInt16.ofNat_toNat]

/-- A character takes one to three bytes. -/
theorem utf8Code_length (c : UInt16) :
    1 ≤ (utf8Code.encode c).length ∧ (utf8Code.encode c).length ≤ 3 := by
  have hc := c.toNat_lt
  change 1 ≤ (utf8Bytes c.toNat).length ∧ (utf8Bytes c.toNat).length ≤ 3
  rw [utf8Bytes_length, utf8Length]
  split_ifs <;> omega

end Code

section Payload

/-- The units of a payload, with the high byte first. -/
def ucs2Units : List UInt8 → List UInt16
  | high :: low :: l => UInt16.ofNat (high.toNat * 256 + low.toNat) :: ucs2Units l
  | _ => []

theorem ucs2Units_snoc {l : List UInt8} (heven : l.length % 2 = 0) (high low : UInt8) :
    ucs2Units (l ++ [high, low]) =
      ucs2Units l ++ [UInt16.ofNat (high.toNat * 256 + low.toNat)] := by
  induction l using List.twoStepInduction with
  | nil => rfl
  | singleton b => cases heven
  | cons_cons b c l ih _ =>
    rw [List.length_cons, List.length_cons] at heven
    have hrest := ih (by omega)
    rw [List.cons_append, List.cons_append, ucs2Units, ucs2Units, hrest, List.cons_append]

theorem ucs2Units_length (l : List UInt8) : (ucs2Units l).length = l.length / 2 := by
  induction l using List.twoStepInduction with
  | nil => rfl
  | singleton b => simp [ucs2Units]
  | cons_cons b c l ih _ =>
    rw [ucs2Units, List.length_cons, ih, List.length_cons, List.length_cons]
    omega

/-- The buffer while the loop runs: the units so far, and the length of their text beside it. -/
structure Ucs2Written (size : ℕ) (units : List UInt16) (m : Block × ℕ) : Prop where
  live : m.1.live
  size : m.1.bytes.length = size
  text : m.1.bytes.take m.2 = utf8Code.encodeAll units
  lengths : m.2 = (units.map fun c => utf8Length c.toNat).sum

theorem sum_utf8Length (units : List UInt16) :
    (units.map fun c => utf8Length c.toNat).sum = (utf8Code.encodeAll units).length := by
  induction units with
  | nil => rfl
  | cons c units ih =>
    rw [List.map_cons, List.sum_cons, ih, PrefixCode.encodeAll_cons, List.length_append]
    exact congrArg (· + _) (utf8Bytes_length c.toNat).symm

variable {size : ℕ} {units : List UInt16} {m : Block × ℕ}

theorem Ucs2Written.length (h : Ucs2Written size units m) :
    m.2 = (utf8Code.encodeAll units).length := h.lengths.trans (sum_utf8Length units)

/-- A unit that has room is written behind the others. -/
theorem Ucs2Written.step (h : Ucs2Written size units m) {ucs2 : List UInt8} {i : ℕ} {high low : UInt8}
    (hhigh : ucs2[i]? = some high) (hlow : ucs2[1 + i]? = some low)
    (hroom : 3 * (units.length + 1) ≤ size) :
    ∃ m', ucs2Step ucs2 m i = some m' ∧
      Ucs2Written size (units ++ [UInt16.ofNat (high.toNat * 256 + low.toNat)]) m' := by
  have hvalue : high.toNat <<< 8 ||| low.toNat = high.toNat * 256 + low.toNat := by
    rw [← Nat.shiftLeft_add_eq_or_of_lt low.toNat_lt, Nat.shiftLeft_eq]
  have hlt : high.toNat * 256 + low.toNat < 0x10000 := by
    have hh := high.toNat_lt
    have hl := low.toNat_lt
    omega
  have hunit : (UInt16.ofNat (high.toNat * 256 + low.toNat)).toNat = high.toNat * 256 + low.toNat :=
    UInt16.toNat_ofNat_of_lt' hlt
  have hword := utf8Code_length (UInt16.ofNat (high.toNat * 256 + low.toNat))
  have hprefix := utf8Code.encodeAll_length_le (fun c => (utf8Code_length c).2) units
  have hbytes : utf8Code.encode (UInt16.ofNat (high.toNat * 256 + low.toNat)) =
      utf8Bytes (high.toNat * 256 + low.toNat) := congrArg utf8Bytes hunit
  have htext := h.text
  rw [h.length] at htext
  have hfits : (utf8Code.encodeAll units).length + (utf8Bytes (high.toNat * 256 + low.toNat)).length ≤
      m.1.bytes.length := by
    rw [← hbytes, h.size]
    omega
  obtain ⟨b, hcopy, hlive, hsize, htake⟩ := Block.memcpy_extend h.live htext hfits
  refine ⟨(b, m.2 + utf8Length (high.toNat * 256 + low.toNat)), ?_, hlive, hsize.trans h.size, ?_, ?_⟩
  · unfold ucs2Step utf8Write
    rw [hhigh, hlow]
    simp only [Option.bind_eq_bind, Option.bind_some, hvalue, h.length, hcopy, Option.map_some,
      Option.pure_def]
  · rw [PrefixCode.encodeAll_snoc, hbytes, ← htake, List.length_append, h.length, utf8Bytes_length]
  · rw [List.map_append, List.sum_append, ← h.lengths, List.map_singleton, List.sum_singleton, hunit]

/-- The rounds for the first `n` units. -/
theorem ucs2Loop_written {ucs2 : List UInt8} {b : Block} (hlive : b.live) {n : ℕ}
    (hn : 2 * n ≤ ucs2.length) (hroom : 3 * n ≤ b.bytes.length) :
    ∃ m, ((List.range n).map (2 * ·)).foldlM (ucs2Step ucs2) (b, 0) = some m ∧
      Ucs2Written b.bytes.length (ucs2Units (ucs2.take (2 * n))) m := by
  induction n with
  | zero => exact ⟨(b, 0), rfl, hlive, rfl, rfl, rfl⟩
  | succ n ih =>
    obtain ⟨m, hm, hwritten⟩ := ih (by omega) (by omega)
    have hlength : (ucs2.take (2 * n)).length = 2 * n := List.length_take_of_le (by omega)
    have htake : ucs2.take (2 * (n + 1)) = ucs2.take (2 * n) ++ [ucs2[2 * n], ucs2[1 + 2 * n]] := by
      rw [show 2 * (n + 1) = 2 * n + 1 + 1 by omega, List.take_succ_eq_append_getElem (by omega),
        List.take_succ_eq_append_getElem (by omega), List.append_assoc, List.singleton_append]
      simp only [Nat.add_comm 1]
    have hunits : (ucs2Units (ucs2.take (2 * n))).length = n := by
      rw [ucs2Units_length, hlength]
      omega
    have hhigh : ucs2[2 * n]? = some ucs2[2 * n] := List.getElem?_eq_getElem (by omega)
    have hlow : ucs2[1 + 2 * n]? = some ucs2[1 + 2 * n] := List.getElem?_eq_getElem (by omega)
    obtain ⟨m', hstep, hwritten'⟩ := hwritten.step hhigh hlow (by rw [hunits]; exact hroom)
    refine ⟨m', ?_, ?_⟩
    · rw [List.range_succ, List.map_append, List.foldlM_append, hm]
      simp only [Option.bind_eq_bind, Option.bind_some, List.map_cons, List.map_nil, List.foldlM_cons,
        List.foldlM_nil, hstep, Option.pure_def]
    · rw [htake, ucs2Units_snoc (by omega)]
      exact hwritten'

end Payload

/-- The units of a payload in UCS2. -/
def TapiSsCallback.units (ssResp : TapiSsCallback) : List UInt16 :=
  ucs2Units (ssResp.ussdStr.toList.take ssResp.strLen.toNat)

/-- The text in a message, of the length `result`, is the units of the payload in UTF-8 and that of no
other units, and there is a terminator behind it. -/
structure RestatesUnits (ssResp : TapiSsCallback) (message : Block) (result : ℕ) : Prop where
  text : message.bytes.take result = (ssResp.units.map utf8Code.encode).flatten
  words : ∀ c, 1 ≤ (utf8Code.encode c).length ∧ (utf8Code.encode c).length ≤ 3
  unique : ∀ units, (units.map utf8Code.encode).flatten = message.bytes.take result →
    units = ssResp.units
  decodable : UniquelyDecodable (Set.range utf8Code.encode)
  lengths : result = (ssResp.units.map fun c => utf8Length c.toNat).sum
  written : (message.bytes.take result).length = result
  terminated : message.bytes[result]? = some 0
  size : message.bytes.length = 4 * ssResp.strLen.toNat + 1

/-- The response to a payload restates it. -/
def Restates (ssResp : TapiSsCallback) : Prop :=
  ∀ fresh s, ∃ t onUssd result, ipcSsUssdResponse fresh s ssResp = some (t, some onUssd) ∧
    RestatesUnits ssResp onUssd.message result

/-- What is filled with a text and a terminator holds both. -/
theorem terminated_of_take {l text : List UInt8} (h : l.take (text ++ [0x00]).length = text ++ [0x00]) :
    l.take text.length = text ∧ l[text.length]? = some 0x00 := by
  have hl : l = text ++ ([0x00] ++ l.drop (text ++ [0x00]).length) := by
    conv_lhs => rw [← List.take_append_drop (text ++ [0x00]).length l, h, List.append_assoc]
  rw [hl]
  constructor
  · exact List.take_left
  · rw [List.getElem?_append_right (Nat.le_refl _), Nat.sub_self]
    rfl

theorem ucs2Message_restates {ssResp : TapiSsCallback} (heven : ssResp.strLen.toNat % 2 = 0)
    (hle : ssResp.strLen.toNat ≤ 0xB8) (fresh : ℕ → UInt8) :
    ∃ message result, ucs2Message fresh ssResp.ussdStr.toList ssResp.strLen.toNat =
      some (message, result) ∧ RestatesUnits ssResp message result := by
  let n := ssResp.strLen.toNat
  have hstr : ssResp.ussdStr.toList.length = 0xB8 := ssResp.ussdStr.toList_length
  have hsize := Block.malloc_length fresh (n * 4 + 1)
  have hhalves : 2 * ((n + 1) / 2) ≤ ssResp.ussdStr.toList.length := by omega
  obtain ⟨⟨b, result⟩, hloop, hwritten⟩ := ucs2Loop_written (b := .malloc fresh (n * 4 + 1)) rfl hhalves
    (by omega)
  have hhalf : 2 * ((n + 1) / 2) = n := by omega
  rw [hhalf, hsize] at hwritten
  have hlength := hwritten.length
  have hunits : ssResp.units.length = n / 2 := by
    rw [TapiSsCallback.units, ucs2Units_length, List.length_take_of_le (by omega)]
  have hresult := utf8Code.encodeAll_length_le (fun c => (utf8Code_length c).2) ssResp.units
  change result = (utf8Code.encodeAll ssResp.units).length at hlength
  have htext : b.bytes.take result = utf8Code.encodeAll ssResp.units := hwritten.text
  have htext' := htext
  rw [hlength] at htext'
  have hroom : (utf8Code.encodeAll ssResp.units).length + [(0x00 : UInt8)].length ≤ b.bytes.length := by
    rw [hwritten.size, List.length_singleton]
    omega
  obtain ⟨message, hcopy, -, hsize', htake⟩ := Block.memcpy_extend hwritten.live htext' hroom
  obtain ⟨htaken, hlast⟩ := terminated_of_take htake
  rw [← hlength] at htaken hlast
  refine ⟨message, result, ?_, ?_⟩
  · unfold ucs2Message ucs2Loop
    rw [hloop, Option.bind_eq_bind, Option.bind_some]
    dsimp only
    rw [hlength, hcopy]
    rfl
  · refine ⟨htaken.trans (List.flatMap_def ..), utf8Code_length, fun units h => ?_,
      utf8Code.uniquelyDecodable, hwritten.lengths, ?_, ?_, ?_⟩
    · rw [← List.flatMap_def, htaken] at h
      exact utf8Code.encodeAll_injective h
    · rw [htaken, hlength]
    · exact hlast
    · rw [hsize', hwritten.size, Nat.mul_comm]

/-- **A payload in UCS2** that is not the notice `DONE!` is restated in UTF-8, in a buffer that is long
enough. -/
theorem ipcSsUssdResponse_restates {ssResp : TapiSsCallback} (hdcs : ssResp.dcs = 0x48)
    (heven : ssResp.strLen.toNat % 2 = 0) (hle : ssResp.strLen.toNat ≤ 0xB8)
    (hnotice : ssResp.ussdStr.toList.take 5 ≠ cString "DONE!") : Restates ssResp := by
  intro fresh s
  obtain ⟨message, result, hmessage, hrestates⟩ := ucs2Message_restates heven hle fresh
  refine ⟨{ s with state := { s.state with ussdState := ssResp.ssType.toNat } },
    ⟨decimal ssResp.ssType.toNat, message⟩, result, ?_, hrestates⟩
  unfold ipcSsUssdResponse
  rw [if_neg hnotice, if_pos hdcs, hmessage]
  rfl

/-- A payload of the given bytes, with zeros behind them. -/
def ussdPayload (l : List UInt8) (h : l.length ≤ 0xB8) : TapiSsCallback :=
  ⟨1, 0x48, UInt32.ofNat l.length,
    ⟨l ++ List.replicate (0xB8 - l.length) 0, by rw [List.length_append, List.length_replicate]; omega⟩⟩

theorem ipcSsUssdResponse_restates_unit : Restates (ussdPayload [0x04, 0x10] (by decide)) :=
  ipcSsUssdResponse_restates rfl (by decide) (by decide) (by decide)

/-- The notice is no text: with `DONE!A`, which is three units, there is no response. -/
theorem ipcSsUssdResponse_notice : ¬∀ ssResp : TapiSsCallback, ssResp.dcs = 0x48 →
    ssResp.strLen.toNat % 2 = 0 → ssResp.strLen.toNat ≤ 0xB8 → Restates ssResp := by
  intro h
  obtain ⟨t, onUssd, result, hresponse, -⟩ :=
    h (ussdPayload (cString "DONE!A") (by decide)) rfl (by decide) (by decide) (fun _ => 0) .init
  have hnone : ipcSsUssdResponse (fun _ => 0) .init (ussdPayload (cString "DONE!A") (by decide)) =
      some (.init, none) := if_pos (by decide)
  rw [hnone] at hresponse
  cases hresponse

end Mocha.Ril
