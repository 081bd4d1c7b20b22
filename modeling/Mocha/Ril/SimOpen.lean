import Mocha.Lib.Block
import Mocha.Ril.Identity
import Mocha.Ril.Nettext

/-! The IMSI in a `SIM_OPEN` event (`ipc_sim_open`, and `imsi_bcd2ascii` of `mocha-ipc`), with the bounds of
the event and of the buffers it is copied through. -/
namespace Mocha.Ril
open Mocha.Lib Mocha.Ipc

/-- `simEvent->bufLen` -/
def eventBufLen (event : List UInt8) : Option UInt32 :=
  if 11 ≤ event.length then some (UInt32.ofNat (wordAt 4 7 event)) else none

/-- `buf[i]`, with an index that is computed as an `int`. -/
def eventByte (event : List UInt8) (i : ℤ) : Option UInt8 :=
  if 0 ≤ i ∧ i < 2 ^ 31 then event[i.toNat]? else none

/-- `size_delta` -/
def sizeDelta (bufLen : UInt32) : ℤ := (0x473 - bufLen).toInt32.toInt

/-- `cached_bcd_imsi[i] = buf[i + 0xB2 - size_delta]` -/
def copyImsiByte (event : List UInt8) (delta : ℤ) (bcdImsi : List.Vector UInt8 14) (i : ℕ) :
    Option (List.Vector UInt8 14) := do
  let b ← eventByte event (i + 0xB2 - delta)
  memcpyAt bcdImsi i [b]

/-- `imsi_bcd2ascii`, with `tmp[20]`, into an array of 33 characters. What stands behind the terminator in
`tmp` has not been set. -/
def imsiBcd2asciiArray (bcdImsi : List.Vector UInt8 14) (len : ℕ) : Option CString := do
  let bytes ← readAt bcdImsi.toList 1 (len - 1)
  let tmp := bcd2ascii bytes
  if 20 < tmp.length then none
  else
    let out := bufferString (tmp.drop 1)
    if out.length < (tmp.drop 1).length ∧ out.length < 33 then some out else none

/-- `cached_bcd_imsi` and `cached_imsi`, and the event, in which the IMSI is overwritten. -/
structure SimOpened where
  cachedBcdImsi : List.Vector UInt8 14
  cachedImsi : CString
  event : Block

/-- `ipc_sim_open`, from `size_delta` on. -/
def simOpened (event : List UInt8) (bcdImsi : List.Vector UInt8 14) : Option SimOpened := do
  let bufLen ← eventBufLen event
  let delta := sizeDelta bufLen
  let imsiLen ← eventByte event (0xAE - delta)
  let bcdImsi ← (List.range imsiLen.toNat).foldlM (copyImsiByte event delta) bcdImsi
  let imsi ← imsiBcd2asciiArray bcdImsi imsiLen.toNat
  let event ← Block.memcpy ⟨event, true⟩ (0xB2 - delta).toNat (List.replicate imsiLen.toNat 0xFF)
  return ⟨bcdImsi, imsi, event⟩

section Copy

variable {event : List UInt8} {delta : ℤ} {offset n : ℕ} {a a' : List.Vector UInt8 14}

theorem eventByte_eq_some {i : ℕ} {b : UInt8} :
    eventByte event i = some b ↔ ∃ h : i < event.length, event[i] = b ∧ i < 2 ^ 31 := by
  unfold eventByte
  split_ifs with hi
  · rw [Int.toNat_natCast, List.getElem?_eq_some_iff]
    exact ⟨fun ⟨h, hb⟩ => ⟨h, hb, by omega⟩, fun ⟨h, hb, _⟩ => ⟨h, hb⟩⟩
  · exact ⟨False.elim, fun ⟨_, _, h⟩ => absurd ⟨by omega, by omega⟩ hi⟩

theorem memcpyAt_byte {b : UInt8} : memcpyAt a n [b] = some a' ↔
    n < 14 ∧ a'.toList = a.toList.take n ++ b :: a.toList.drop (n + 1) := by
  unfold memcpyAt
  split_ifs with hn
  · constructor
    · intro h
      rw [← Option.some.inj h]
      exact ⟨hn, by rw [List.Vector.toList_mk, List.append_assoc]; rfl⟩
    · rintro ⟨-, h⟩
      refine congrArg some (List.Vector.toList_injective ?_)
      rw [h, List.Vector.toList_mk, List.append_assoc]
      rfl
  · exact ⟨False.elim, fun h => absurd h.1 hn⟩

theorem copyImsiByte_eq_some (hoffset : 0xB2 - delta = offset) :
    copyImsiByte event delta a n = some a' ↔ ∃ h : offset + n < event.length,
      offset + n < 2 ^ 31 ∧ n < 14 ∧
        a'.toList = a.toList.take n ++ event[offset + n] :: a.toList.drop (n + 1) := by
  have hindex : (n : ℤ) + 0xB2 - delta = ((offset + n : ℕ) : ℤ) := by omega
  unfold copyImsiByte
  rw [hindex, Option.bind_eq_bind, Option.bind_eq_some_iff]
  constructor
  · rintro ⟨b, hb, hcopy⟩
    obtain ⟨hin, rfl, hint⟩ := eventByte_eq_some.mp hb
    exact ⟨hin, hint, memcpyAt_byte.mp hcopy⟩
  · rintro ⟨hin, hint, hcopy⟩
    exact ⟨event[offset + n], eventByte_eq_some.mpr ⟨hin, rfl, hint⟩, memcpyAt_byte.mpr hcopy⟩

/-- The array when the first `n` bytes have been copied. -/
def copied (event : List UInt8) (offset : ℕ) (a : List.Vector UInt8 14) (n : ℕ) : List UInt8 :=
  (event.drop offset).take n ++ a.toList.drop n

theorem copied_length (hin : offset + n ≤ event.length) (hn : n ≤ 14) :
    (copied event offset a n).length = 14 := by
  rw [copied, List.length_append, List.length_take_of_le (by rw [List.length_drop]; omega),
    List.length_drop, a.toList_length]
  omega

theorem copied_succ (hin : offset + n < event.length) (hn : n < 14) {b : List.Vector UInt8 14}
    (hb : b.toList = copied event offset a n) :
    b.toList.take n ++ event[offset + n] :: b.toList.drop (n + 1) = copied event offset a (n + 1) := by
  have hlength : ((event.drop offset).take n).length = n :=
    List.length_take_of_le (by rw [List.length_drop]; omega)
  have hnext : n < (event.drop offset).length := by
    rw [List.length_drop]
    omega
  have hfirst : b.toList.take n = (event.drop offset).take n := by
    rw [hb, copied, List.take_left' hlength]
  have hrest : b.toList.drop (n + 1) = a.toList.drop (n + 1) := by
    rw [hb, copied, ← List.drop_drop, List.drop_left' hlength, List.drop_drop]
  rw [hfirst, hrest, copied, List.take_succ_eq_append_getElem hnext, List.getElem_drop, List.append_assoc,
    List.singleton_append]

/-- The copy stays inside the event and the array, or there is none. -/
theorem copyImsi_eq_some (hoffset : 0xB2 - delta = offset) :
    (List.range n).foldlM (copyImsiByte event delta) a = some a' ↔
      a'.toList = copied event offset a n ∧
        (0 < n → n ≤ 14 ∧ offset + n ≤ event.length ∧ offset + n ≤ 2 ^ 31) := by
  induction n generalizing a' with
  | zero =>
    rw [List.range_zero, List.foldlM_nil, Option.pure_def, Option.some_inj, copied, List.take_zero,
      List.nil_append, List.drop_zero]
    exact ⟨fun h => ⟨h ▸ rfl, fun hpos => absurd hpos (lt_irrefl 0)⟩,
      fun h => (List.Vector.toList_injective h.1).symm⟩
  | succ n ih =>
    rw [List.range_succ, List.foldlM_append, Option.bind_eq_bind, Option.bind_eq_some_iff]
    constructor
    · rintro ⟨b, hbefore, hlast⟩
      obtain ⟨hb, -⟩ := ih.mp hbefore
      rw [List.foldlM_cons, Option.bind_eq_bind, Option.bind_eq_some_iff] at hlast
      obtain ⟨c, hbyte, hc⟩ := hlast
      obtain rfl := Option.some.inj hc
      obtain ⟨hin, hint, hn, hlist⟩ := (copyImsiByte_eq_some hoffset).mp hbyte
      exact ⟨hlist.trans (copied_succ hin hn hb), fun _ => ⟨hn, hin, hint⟩⟩
    · rintro ⟨hlist, hbounds⟩
      obtain ⟨hn, hin, hint⟩ := hbounds (Nat.succ_pos n)
      let b : List.Vector UInt8 14 := ⟨copied event offset a n, copied_length (by omega) (by omega)⟩
      have hb : b.toList = copied event offset a n := rfl
      have hbyte : copyImsiByte event delta b n = some a' := (copyImsiByte_eq_some hoffset).mpr
        ⟨hin, hint, hn, hlist.trans (copied_succ hin hn hb).symm⟩
      refine ⟨b, ih.mpr ⟨hb, fun _ => ⟨by omega, by omega, by omega⟩⟩, ?_⟩
      rw [List.foldlM_cons, hbyte]
      rfl

end Copy

section Digits

/-- The half bytes, the low one of a byte first. -/
def nibbles (l : List UInt8) : List UInt8 := l.flatMap fun b : UInt8 => [b &&& 0xF, b >>> 4 &&& 0xF]

/-- The digits of an IMSI, which begin in the second half of its second byte. -/
def imsiNibbles (imsi : List UInt8) : List UInt8 := (nibbles (imsi.drop 1)).drop 1

/-- The IMSI as a string: its digits up to the first filler. -/
def imsiDigits (imsi : List UInt8) : CString :=
  ((imsiNibbles imsi).takeWhile (· < 0xE)).map bcddigit2ascii

theorem bufferString_bcddigits (l rest : List UInt8) :
    bufferString (l.map bcddigit2ascii ++ 0 :: rest) = (l.takeWhile (· < 0xE)).map bcddigit2ascii := by
  have hdigit : ∀ d : UInt8, bcddigit2ascii d ≠ 0 ↔ d < 0xE := forall_uint8 (by decide +kernel)
  unfold bufferString
  induction l with
  | nil => rfl
  | cons d l ih =>
    rw [List.map_cons, List.cons_append, List.takeWhile_cons, List.takeWhile_cons, ih]
    by_cases hd : d < 0xE
    · rw [if_pos (decide_eq_true ((hdigit d).mpr hd)), if_pos (decide_eq_true hd), List.map_cons]
    · rw [if_neg (by simpa using mt (hdigit d).mp hd), if_neg (by simpa using hd), List.map_nil]

theorem bcd2ascii_eq (l : List UInt8) : bcd2ascii l = (nibbles l).map bcddigit2ascii ++ [0] := by
  rw [nibbles, List.map_flatMap]
  rfl

theorem nibbles_length (l : List UInt8) : (nibbles l).length = 2 * l.length := by
  induction l with
  | nil => rfl
  | cons b l ih =>
    have hcons : nibbles (b :: l) = [b &&& 0xF, b >>> 4 &&& 0xF] ++ nibbles l := List.flatMap_cons
    rw [hcons, List.length_append, ih]
    change 2 + 2 * l.length = 2 * (l.length + 1)
    omega

/-- The conversion of the second and the following bytes, without the first digit. -/
theorem bcd2ascii_drop {imsi : List UInt8} (h : 2 ≤ imsi.length) :
    (bcd2ascii (imsi.drop 1)).drop 1 = (imsiNibbles imsi).map bcddigit2ascii ++ [0] := by
  have hfirst : 1 ≤ ((nibbles (imsi.drop 1)).map bcddigit2ascii).length := by
    rw [List.length_map, nibbles_length, List.length_drop]
    omega
  rw [bcd2ascii_eq, List.drop_append_of_le_length hfirst, ← List.map_drop, imsiNibbles]

variable {a : List.Vector UInt8 14} {n : ℕ}

theorem imsiBcd2asciiArray_le_one (h : n ≤ 1) : imsiBcd2asciiArray a n = none := by
  have hnil : n - 1 = 0 := by omega
  have hread : readAt a.toList 1 0 = some [] := by
    rw [readAt, if_pos (by rw [a.toList_length]; omega), List.take_zero]
  unfold imsiBcd2asciiArray
  rw [hnil, hread]
  rfl

/-- The digits with the terminator behind them are what `tmp` is filled with. -/
theorem imsiBcd2asciiArray_of_two_le (h : 2 ≤ n) : imsiBcd2asciiArray a n =
    if n ≤ 10 then some (imsiDigits (a.toList.take n)) else none := by
  have ha : a.toList.length = 14 := a.toList_length
  unfold imsiBcd2asciiArray readAt
  by_cases hn : n ≤ 14
  · let imsi := a.toList.take n
    have hlength : imsi.length = n := List.length_take_of_le (by omega)
    have hbytes : (a.toList.drop 1).take (n - 1) = imsi.drop 1 := (List.drop_take ..).symm
    have htmp : (bcd2ascii (imsi.drop 1)).length = 2 * (n - 1) + 1 := by
      rw [bcd2ascii_eq, List.length_append, List.length_map, nibbles_length, List.length_drop, hlength]
      rfl
    have hnibbles : (imsiNibbles imsi).length = 2 * (n - 1) - 1 := by
      rw [imsiNibbles, List.length_drop, nibbles_length, List.length_drop, hlength]
    have hdigits : (imsiDigits imsi).length ≤ (imsiNibbles imsi).length := by
      rw [imsiDigits, List.length_map]
      exact (List.takeWhile_sublist _).length_le
    have hout : bufferString ((bcd2ascii (imsi.drop 1)).drop 1) = imsiDigits imsi := by
      rw [bcd2ascii_drop (by omega), bufferString_bcddigits, imsiDigits]
    rw [if_pos (by omega), Option.bind_eq_bind, Option.bind_some, hbytes]
    dsimp only
    rw [hout, htmp]
    by_cases hten : n ≤ 10
    · rw [if_neg (by omega), if_pos hten, if_pos ⟨by rw [List.length_drop, htmp]; omega, by omega⟩]
    · rw [if_pos (by omega), if_neg hten]
  · rw [if_neg (by omega), if_neg (by omega)]
    rfl

end Digits

/-- The length byte of the IMSI stands at an offset of the event. -/
def ImsiAt (event : List UInt8) (offset : ℕ) (length : UInt8) : Prop :=
  ∃ bufLen, eventBufLen event = some bufLen ∧ 0xAE - sizeDelta bufLen = offset ∧
    event[offset]? = some length

/-- The IMSI has two to ten bytes, all of them in the event. -/
def ImsiFits (event : List UInt8) : Prop :=
  ∃ offset length, ImsiAt event offset length ∧ 2 ≤ length.toNat ∧ length.toNat ≤ 10 ∧
    offset + 4 + length.toNat ≤ event.length ∧ offset + 4 + length.toNat ≤ 2 ^ 31

/-- The event is handled inside of it and of the buffers, and `cached_imsi` is the IMSI. -/
def ReadsImsi (event : List UInt8) : Prop :=
  ∀ bcdImsi, ∃ r, simOpened event bcdImsi = some r ∧ ∀ offset length, ImsiAt event offset length →
    r.cachedImsi = imsiDigits ((event.drop (offset + 4)).take length.toNat)

section Open

variable {event : List UInt8}

theorem ImsiAt.unique {offset offset' : ℕ} {length length' : UInt8} (h : ImsiAt event offset length)
    (h' : ImsiAt event offset' length') : offset = offset' ∧ length = length' := by
  obtain ⟨bufLen, hbufLen, hoffset, hlength⟩ := h
  obtain ⟨bufLen', hbufLen', hoffset', hlength'⟩ := h'
  obtain rfl := Option.some.inj (hbufLen.symm.trans hbufLen')
  obtain rfl : offset = offset' := by omega
  exact ⟨rfl, Option.some.inj (hlength.symm.trans hlength')⟩

theorem eventByte_nonneg {i : ℤ} {b : UInt8} (h : eventByte event i = some b) :
    ∃ n : ℕ, i = n ∧ n < 2 ^ 31 ∧ event[n]? = some b := by
  unfold eventByte at h
  split_ifs at h with hi
  exact ⟨i.toNat, by omega, by omega, h⟩

theorem simOpened_fits {bcdImsi : List.Vector UInt8 14} {r : SimOpened}
    (hr : simOpened event bcdImsi = some r) : ∃ offset length, ImsiAt event offset length ∧
      2 ≤ length.toNat ∧ length.toNat ≤ 10 ∧ offset + 4 + length.toNat ≤ event.length ∧
        offset + 4 + length.toNat ≤ 2 ^ 31 := by
  obtain ⟨bufLen, hbufLen, hr⟩ := Option.bind_eq_some_iff.mp hr
  obtain ⟨length, hlength, hr⟩ := Option.bind_eq_some_iff.mp hr
  obtain ⟨bcdImsi, hcopy, hr⟩ := Option.bind_eq_some_iff.mp hr
  obtain ⟨imsi, himsi, -⟩ := Option.bind_eq_some_iff.mp hr
  obtain ⟨offset, hoffset, -, hbyte⟩ := eventByte_nonneg hlength
  have hfirst : 0xB2 - sizeDelta bufLen = ((offset + 4 : ℕ) : ℤ) := by omega
  have htwo : 2 ≤ length.toNat := by
    by_contra hone
    rw [imsiBcd2asciiArray_le_one (by omega)] at himsi
    cases himsi
  have hten : length.toNat ≤ 10 := by
    rw [imsiBcd2asciiArray_of_two_le htwo] at himsi
    by_contra hten
    rw [if_neg hten] at himsi
    cases himsi
  obtain ⟨-, hbounds⟩ := (copyImsi_eq_some hfirst).mp hcopy
  obtain ⟨-, hin, hint⟩ := hbounds (by omega)
  exact ⟨offset, length, ⟨bufLen, hbufLen, hoffset, hbyte⟩, htwo, hten, hin, hint⟩

/-- What is left when the IMSI fits; in the event it is overwritten. -/
theorem simOpened_eq (bcdImsi : List.Vector UInt8 14) {offset : ℕ} {length : UInt8}
    (hat : ImsiAt event offset length) (htwo : 2 ≤ length.toNat) (hten : length.toNat ≤ 10)
    (hin : offset + 4 + length.toNat ≤ event.length) (hint : offset + 4 + length.toNat ≤ 2 ^ 31) :
    ∃ r, simOpened event bcdImsi = some r ∧
      r.cachedImsi = imsiDigits ((event.drop (offset + 4)).take length.toNat) := by
  obtain ⟨bufLen, hbufLen, hoffset, hbyte⟩ := hat
  have hfirst : 0xB2 - sizeDelta bufLen = ((offset + 4 : ℕ) : ℤ) := by omega
  have hlength : eventByte event (0xAE - sizeDelta bufLen) = some length := by
    rw [eventByte, hoffset, if_pos (by omega), Int.toNat_natCast, hbyte]
  let a : List.Vector UInt8 14 :=
    ⟨copied event (offset + 4) bcdImsi length.toNat, copied_length hin (by omega)⟩
  have hcopy : (List.range length.toNat).foldlM (copyImsiByte event (sizeDelta bufLen)) bcdImsi = some a :=
    (copyImsi_eq_some hfirst).mpr ⟨rfl, fun _ => ⟨by omega, hin, hint⟩⟩
  have htake : a.toList.take length.toNat = (event.drop (offset + 4)).take length.toNat :=
    List.take_left' (List.length_take_of_le (by rw [List.length_drop]; omega))
  have himsi := imsiBcd2asciiArray_of_two_le htwo (a := a)
  rw [if_pos hten, htake] at himsi
  obtain ⟨block, hblock⟩ : ∃ block, Block.memcpy ⟨event, true⟩ (0xB2 - sizeDelta bufLen).toNat
      (List.replicate length.toNat 0xFF) = some block := by
    refine ⟨_, if_pos ⟨rfl, ?_⟩⟩
    rw [hfirst, Int.toNat_natCast, List.length_replicate]
    exact hin
  refine ⟨⟨a, _, block⟩, ?_, rfl⟩
  unfold simOpened
  rw [hbufLen, Option.bind_eq_bind, Option.bind_some]
  dsimp only
  rw [hlength, Option.bind_eq_bind, Option.bind_some, hcopy, Option.bind_eq_bind, Option.bind_some, himsi,
    Option.bind_eq_bind, Option.bind_some, hblock]
  rfl

theorem ReadsImsi.fits (h : ReadsImsi event) : ImsiFits event := by
  obtain ⟨r, hr, -⟩ := h (.replicate 14 0)
  exact simOpened_fits hr

/-- **The IMSI** is read within the bounds if and only if it is in the event and fits. -/
theorem readsImsi_iff (event : List UInt8) : ReadsImsi event ↔ ImsiFits event := by
  refine ⟨ReadsImsi.fits, ?_⟩
  rintro ⟨offset, length, hat, htwo, hten, hin, hint⟩ bcdImsi
  obtain ⟨r, hr, himsi⟩ := simOpened_eq bcdImsi hat htwo hten hin hint
  refine ⟨r, hr, fun offset' length' hat' => ?_⟩
  obtain ⟨rfl, rfl⟩ := hat.unique hat'
  exact himsi

/-- An event of the usual size, of a card without an IMSI. -/
def simOpenEvent : List UInt8 :=
  [4, 0, 0, 0, simEventSimOpen, 0, 1] ++ leBytes 4 0x473 ++ List.replicate 0x473 0

theorem not_readsImsi_empty : ¬∀ event, ReadsImsi event := by
  intro h
  obtain ⟨offset, length, hat, htwo, -⟩ := (h simOpenEvent).fits
  have hempty : ImsiAt simOpenEvent 0xAE 0 :=
    ⟨0x473, by decide +kernel, by decide +kernel, by decide +kernel⟩
  obtain ⟨-, rfl⟩ := hempty.unique hat
  exact absurd htwo (by decide)

/-- The difference is not changed by the wrapping around of 32 bits, if the offset is small. -/
theorem sizeDelta_eq {bufLen : UInt32} {offset : ℕ} (hoffset : 0xAE - sizeDelta bufLen = offset)
    (hsmall : offset < 2 ^ 30) : 0x473 - bufLen.toInt32.toInt = sizeDelta bufLen := by
  have hlt := bufLen.toNat_lt
  have hconst : (0x473 : UInt32).toNat = 0x473 := rfl
  unfold sizeDelta at hoffset ⊢
  rw [toInt_toInt32, UInt32.toNat_sub, hconst] at hoffset
  rw [toInt_toInt32, toInt_toInt32, UInt32.toNat_sub, hconst]
  split_ifs at hoffset ⊢ <;> omega

/-- The handler leaves the same IMSI, whatever stands on its stack. -/
theorem simOpened_cachedImsi {ev : SimEvent} {bcdImsi : List.Vector UInt8 14} {r : SimOpened}
    (hev : ∀ (i : ℕ) (h : i < event.length), ev i = event[i]) (hsmall : event.length < 2 ^ 30)
    (hr : simOpened event bcdImsi = some r) (stack : CString) :
    imsiBcd2ascii stack (simOpenImsi ev) = r.cachedImsi := by
  obtain ⟨offset, length, hat, htwo, hten, hin, hint⟩ := simOpened_fits hr
  obtain ⟨r', hr', himsi⟩ := simOpened_eq bcdImsi hat htwo hten hin hint
  obtain rfl := Option.some.inj (hr.symm.trans hr')
  obtain ⟨bufLen, hbufLen, hoffset, hbyte⟩ := hat
  have hheader : 11 ≤ event.length := by
    unfold eventBufLen at hbufLen
    split_ifs at hbufLen with h
    exact h
  have hword : ev.word32 7 = bufLen := by
    rw [show ev.word32 7 = _ from SimEvent.word32_eq 7 hev hheader]
    exact Option.some.inj ((if_pos hheader).symm.trans hbufLen)
  have hdelta : 0x473 - (ev.word32 7).toInt32.toInt = 0xAE - (offset : ℤ) := by
    rw [hword, sizeDelta_eq hoffset (by omega)]
    omega
  have hlength : ev (0xAE - (0xAE - (offset : ℤ))) = length := by
    obtain ⟨h, rfl⟩ := List.getElem?_eq_some_iff.mp hbyte
    rw [sub_sub_cancel]
    exact hev offset h
  have hbytes : simOpenImsi ev = (event.drop (offset + 4)).take length.toNat := by
    unfold simOpenImsi
    dsimp only
    rw [hdelta, hlength]
    change ((List.range length.toNat).flatMap fun i : ℕ => [(i : ℤ)]).map _ = _
    rw [← List.map_eq_flatMap, List.map_map]
    refine List.ext_getElem (by simp; omega) fun i hi hi' => ?_
    have hindex : (i : ℤ) + 0xB2 - (0xAE - (offset : ℤ)) = ((offset + 4 + i : ℕ) : ℤ) := by omega
    rw [List.length_map, List.length_range] at hi
    rw [List.getElem_map, List.getElem_range, Function.comp_apply, List.getElem_take, List.getElem_drop, hindex]
    exact hev _ (by omega)
  have htaken : ((event.drop (offset + 4)).take length.toNat).length = length.toNat :=
    List.length_take_of_le (by rw [List.length_drop]; omega)
  rw [hbytes, imsiBcd2ascii, if_neg (by omega), bcd2ascii_drop (by omega), bufferString_bcddigits, himsi,
    imsiDigits]

end Open

end Mocha.Ril
