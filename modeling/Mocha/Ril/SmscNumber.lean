import Mocha.Ril.SimIo

/-! The number of the service centre, which `ipc_sim_smsc_number` (`sim.c`) takes from the end of a record
of the SIM, with the bounds of the record and of `smsc_number`. -/
namespace Mocha.Ril
open Mocha.Lib Mocha.Ipc

/-- `smsc_number[60]` -/
def smscNumberSize : ℕ := 60

/-- `strcat(dst, src)` into an array of `size` characters. -/
def strcat (size : ℕ) (dst src : CString) : Option CString :=
  if dst.length + src.length < size then some (dst ++ src) else none

/-- `buf[i]`, in the record behind the headers of the answer. -/
def recordByte (record : List UInt8) (i : ℤ) : Option UInt8 :=
  if 0 ≤ i then record[i.toNat]? else none

/-- A round of the loop, `k` rounds after the one for `buf[first]`. -/
def appendByte (record : List UInt8) (first : ℤ) (smscNumber : CString) (k : ℕ) : Option CString := do
  let b ← recordByte record (first + k)
  strcat smscNumberSize smscNumber (hexByte b)

/-- The loop of `ipc_sim_smsc_number`. Its last index is computed as an `int` first. -/
def smscNumberLoop (record : List UInt8) (dataLen : ℤ) (smscNumber : CString) : Option CString := do
  let length ← recordByte record (dataLen - 15)
  if 2 ^ 31 ≤ dataLen + length.toNat then none
  else (List.range (length.toNat + 1)).foldlM (appendByte record (dataLen - 15)) smscNumber

/-- What `ipc_sim_smsc_number` leaves in `smsc_number`. -/
def smscNumberOf (smscNumber : CString) (record : List UInt8) (bufLen : UInt32) : Option CString :=
  if smscNumber = [] then smscNumberLoop record bufLen.toInt32.toInt smscNumber else some smscNumber

section Loop

variable {record : List UInt8} {first n : ℕ} {number : CString}

theorem recordByte_add (record : List UInt8) (first k : ℕ) :
    recordByte record ((first : ℤ) + k) = record[first + k]? := by
  rw [recordByte, if_pos (by omega)]
  rfl

/-- The bytes that are appended in `n` rounds. -/
def appended (record : List UInt8) (first n : ℕ) : CString :=
  ((record.drop first).take n).flatMap hexByte

theorem appended_succ (hin : first + n < record.length) :
    appended record first (n + 1) = appended record first n ++ hexByte record[first + n] := by
  have hn : n < (record.drop first).length := by
    rw [List.length_drop]
    omega
  rw [appended, List.take_succ_eq_append_getElem hn, List.flatMap_append, List.flatMap_singleton,
    List.getElem_drop, appended]

theorem appended_length (hin : first + n ≤ record.length) : (appended record first n).length = 2 * n := by
  rw [appended, hexBytes_length, List.length_take_of_le (by rw [List.length_drop]; omega)]

theorem appendByte_eq_some {smscNumber : CString} : appendByte record first smscNumber n = some number ↔
    ∃ h : first + n < record.length, number = smscNumber ++ hexByte record[first + n] ∧
      smscNumber.length + 2 < smscNumberSize := by
  unfold appendByte strcat
  rw [recordByte_add, Option.bind_eq_bind, Option.bind_eq_some_iff]
  constructor
  · rintro ⟨b, hb, hnumber⟩
    obtain ⟨hin, rfl⟩ := List.getElem?_eq_some_iff.mp hb
    split_ifs at hnumber with hroom
    exact ⟨hin, (Option.some.inj hnumber).symm, hroom⟩
  · rintro ⟨hin, rfl, hroom⟩
    exact ⟨record[first + n], List.getElem?_eq_getElem hin, if_pos hroom⟩

/-- The rounds stay inside the record and the array, or there is no result. -/
theorem appendBytes_eq_some : (List.range n).foldlM (appendByte record first) [] = some number ↔
    number = appended record first n ∧ (0 < n → first + n ≤ record.length ∧ 2 * n < smscNumberSize) := by
  induction n generalizing number with
  | zero => simp [appended, eq_comm]
  | succ n ih =>
    rw [List.range_succ, List.foldlM_append, Option.bind_eq_bind, Option.bind_eq_some_iff]
    constructor
    · rintro ⟨smscNumber, hbefore, hlast⟩
      obtain ⟨rfl, -⟩ := ih.mp hbefore
      rw [List.foldlM_cons, Option.bind_eq_bind, Option.bind_eq_some_iff] at hlast
      obtain ⟨_, hbyte, hnumber⟩ := hlast
      obtain ⟨hin, rfl, hroom⟩ := appendByte_eq_some.mp hbyte
      rw [appended_length hin.le] at hroom
      refine ⟨?_, fun _ => ⟨hin, by omega⟩⟩
      rw [appended_succ hin]
      exact (Option.some.inj hnumber).symm
    · rintro ⟨rfl, hbounds⟩
      obtain ⟨hin, hroom⟩ := hbounds (Nat.succ_pos n)
      refine ⟨appended record first n, ih.mpr ⟨rfl, fun _ => ⟨by omega, by omega⟩⟩, ?_⟩
      have hbyte : appendByte record first (appended record first n) n =
          some (appended record first (n + 1)) :=
        appendByte_eq_some.mpr ⟨hin, appended_succ hin, by rw [appended_length (by omega)]; omega⟩
      rw [List.foldlM_cons, hbyte]
      rfl

end Loop

/-- The length of the number: a byte that stands 15 bytes before what the answer gives as its end. -/
def numberLength? (record : List UInt8) (bufLen : UInt32) : Option UInt8 :=
  if 15 ≤ bufLen.toNat ∧ bufLen.toNat < 2 ^ 31 then record[bufLen.toNat - 15]? else none

section Number

variable {record : List UInt8} {bufLen : UInt32} {number : CString} {length : UInt8}

theorem numberLength?_eq_some (h : numberLength? record bufLen = some length) :
    15 ≤ bufLen.toNat ∧ bufLen.toInt32.toInt = bufLen.toNat := by
  unfold numberLength? at h
  split_ifs at h with hlen
  exact ⟨hlen.1, by rw [toInt_toInt32, if_pos hlen.2]⟩

theorem recordByte_dataLen (record : List UInt8) (bufLen : UInt32) :
    recordByte record (bufLen.toInt32.toInt - 15) = numberLength? record bufLen := by
  unfold recordByte numberLength?
  rw [toInt_toInt32]
  have hlt := bufLen.toNat_lt
  split_ifs with hsmall hfirst hlen hlen hfirst hlen
  · congr 1
    omega
  all_goals first | rfl | omega

/-- The number that is found, where there is none yet. -/
theorem smscNumberOf_eq_some : smscNumberOf [] record bufLen = some number ↔ ∃ length,
    numberLength? record bufLen = some length ∧ bufLen.toNat + length.toNat < 2 ^ 31 ∧
      number = appended record (bufLen.toNat - 15) (length.toNat + 1) ∧
        bufLen.toNat - 15 + (length.toNat + 1) ≤ record.length ∧
          2 * (length.toNat + 1) < smscNumberSize := by
  unfold smscNumberOf smscNumberLoop
  rw [if_pos rfl, recordByte_dataLen, Option.bind_eq_bind, Option.bind_eq_some_iff]
  refine exists_congr fun length => and_congr_right fun hlength => ?_
  obtain ⟨hlow, hint⟩ := numberLength?_eq_some hlength
  have hfirst : bufLen.toInt32.toInt - 15 = ((bufLen.toNat - 15 : ℕ) : ℤ) := by omega
  rw [hfirst, hint]
  split_ifs with hover
  · exact ⟨False.elim, fun h => absurd h.1 (by omega)⟩
  · rw [appendBytes_eq_some]
    exact ⟨fun h => ⟨by omega, h.1, h.2 (Nat.succ_pos _)⟩, fun h => ⟨h.2.1, fun _ => h.2.2⟩⟩

theorem hexByte_ne_zero {b c : UInt8} (hc : c ∈ hexByte b) : c ≠ 0 := by
  have hdigits : ∀ b : UInt8, hexChar (b >>> 4) ≠ 0 ∧ hexChar (b &&& 0x0f) ≠ 0 :=
    forall_uint8 (by decide +kernel)
  rcases List.mem_pair.mp hc with rfl | rfl
  · exact (hdigits b).1
  · exact (hdigits b).2

/-- The length byte and the number behind it stand in the record, and their digits fit. -/
def NumberFits (record : List UInt8) (bufLen : UInt32) : Prop :=
  ∃ length, numberLength? record bufLen = some length ∧
    bufLen.toNat - 15 + length.toNat < record.length ∧ length.toNat ≤ 28 ∧
      bufLen.toNat + length.toNat < 2 ^ 31

/-- The number that is left is a string of `smsc_number`, and `string2data` makes the bytes of it that were
in the record, if they are at most 12. -/
def ReadsNumber (record : List UInt8) (bufLen : UInt32) : Prop :=
  ∃ number, smscNumberOf [] record bufLen = some number ∧ number.length < smscNumberSize ∧
    (∀ c ∈ number, c ≠ 0) ∧
    ∀ length, numberLength? record bufLen = some length → length ≤ 11 →
      string2data number = some ((record.drop (bufLen.toNat - 15)).take (length.toNat + 1))

theorem ReadsNumber.fits (h : ReadsNumber record bufLen) : NumberFits record bufLen := by
  obtain ⟨number, hnumber, -⟩ := h
  obtain ⟨length, hlength, hint, -, hin, hroom⟩ := smscNumberOf_eq_some.mp hnumber
  unfold smscNumberSize at hroom
  exact ⟨length, hlength, by omega, by omega, hint⟩

/-- **The number of the service centre** is read within its bounds if and only if the record has it and it
fits. -/
theorem readsNumber_iff (record : List UInt8) (bufLen : UInt32) :
    ReadsNumber record bufLen ↔ NumberFits record bufLen := by
  refine ⟨ReadsNumber.fits, ?_⟩
  rintro ⟨length, hlength, hin, hle, hint⟩
  have hroom : 2 * (length.toNat + 1) < smscNumberSize := by
    unfold smscNumberSize
    omega
  have hbytes : ((record.drop (bufLen.toNat - 15)).take (length.toNat + 1)).length = length.toNat + 1 :=
    List.length_take_of_le (by rw [List.length_drop]; omega)
  refine ⟨_, smscNumberOf_eq_some.mpr ⟨length, hlength, hint, rfl, hin, hroom⟩, ?_, ?_, ?_⟩
  · rwa [appended_length hin]
  · intro c hc
    obtain ⟨b, -, hcb⟩ := List.mem_flatMap.mp hc
    exact hexByte_ne_zero hcb
  · intro length' hlength' _
    obtain rfl := Option.some.inj (hlength.symm.trans hlength')
    exact string2data_hexBytes (by omega)

/-- The last bytes of a record without a number are all set, so that 256 bytes are read. -/
theorem not_readsNumber_unset : ¬∀ (record : List UInt8) (bufLen : UInt32), ReadsNumber record bufLen := by
  intro h
  obtain ⟨length, hlength, hin, -⟩ := (h (List.replicate 28 0xFF) 28).fits
  have hlen : (28 : UInt32).toNat = 28 := rfl
  rw [numberLength?, hlen, if_pos (by omega)] at hlength
  obtain rfl : length = 0xFF := Option.some.inj hlength.symm
  rw [hlen, List.length_replicate] at hin
  exact absurd hin (by decide)

theorem rilRequestSimIoNext_smscNumber (s : SimIoData) :
    (rilRequestSimIoNext s).1.smscNumber = s.smscNumber := by
  unfold rilRequestSimIoNext
  cases s.simIo <;> rfl

/-- The digits that the handler appends, which it reads from the memory around the event. -/
theorem appended_eq_dataBytes {ev : SimEvent} {first : ℕ}
    (hev : ∀ (i : ℕ) (h : i < record.length), ev.dataByte i = record[i]) {n : ℕ}
    (hin : first + n ≤ record.length) : appended record first n =
      ((List.range n).flatMap fun i : ℕ => [(i : ℤ)]).flatMap fun i =>
        hexByte (ev.dataByte (first + i)) := by
  induction n with
  | zero => rfl
  | succ n ih =>
    have hbyte : ev.dataByte ((first : ℤ) + n) = record[first + n] := hev (first + n) (by omega)
    rw [appended_succ (by omega), ih (by omega), List.range_succ, List.flatMap_append,
      List.flatMap_append, List.flatMap_singleton, List.flatMap_singleton, hbyte]

/-- The handler leaves the number that is read within the bounds. -/
theorem ipcSimSmscNumber_smscNumber {s : SimIoData} {ev : SimEvent}
    (hev : ∀ (i : ℕ) (h : i < record.length), ev.dataByte i = record[i])
    (hnumber : smscNumberOf s.smscNumber record ev.dataBufLen = some number) :
    (ipcSimSmscNumber s ev).1.smscNumber = number := by
  by_cases hs : s.smscNumber = []
  · rw [hs] at hnumber
    obtain ⟨length, hlength, -, rfl, hin, -⟩ := smscNumberOf_eq_some.mp hnumber
    obtain ⟨hlow, hint⟩ := numberLength?_eq_some hlength
    have hfirst : ev.dataBufLen.toInt32.toInt - 15 = ((ev.dataBufLen.toNat - 15 : ℕ) : ℤ) := by omega
    have hbyte : ev.dataByte (ev.dataBufLen.toInt32.toInt - 15) = length := by
      rw [← recordByte_dataLen, hfirst, recordByte, if_pos (by omega)] at hlength
      obtain ⟨h, rfl⟩ := List.getElem?_eq_some_iff.mp hlength
      rw [hfirst]
      exact hev _ h
    rw [appended_eq_dataBytes hev hin]
    unfold ipcSimSmscNumber
    dsimp only
    rw [if_pos hs, hbyte, hs, hfirst]
    split_ifs
    · rw [rilRequestSimIoNext_smscNumber]
      rfl
    · rfl
  · unfold ipcSimSmscNumber
    rw [if_neg hs]
    exact Option.some.inj ((if_neg hs).symm.trans hnumber)

end Number

end Mocha.Ril
