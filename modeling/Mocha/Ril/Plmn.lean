import Mocha.Ril.Bcd
import Mocha.Ril.CellInfo
import Mocha.Ril.NetworkSearch

/-! The code of a network in `ipc_cell_info`, which has the digits, and in `ipc_network_search_cnf`,
which has the numbers of the country and of the network (`network.c`). -/
namespace Mocha.Ril
open Mocha.Lib

section Decimal

/-- The number that decimal digits stand for, the first of them first. -/
def digitsNat (ds : List (Fin 10)) : ℕ := ds.foldl (fun n d => 10 * n + d.val) 0

theorem digitsNat_snoc (ds : List (Fin 10)) (d : Fin 10) :
    digitsNat (ds ++ [d]) = 10 * digitsNat ds + d := by
  rw [digitsNat, List.foldl_append]
  rfl

theorem digitsNat_lt (ds : List (Fin 10)) : digitsNat ds < 10 ^ ds.length := by
  induction ds using List.reverseRecOn with
  | nil => exact Nat.one_pos
  | append_singleton ds d ih =>
    rw [digitsNat_snoc, List.length_append, List.length_singleton, pow_succ]
    omega

theorem decimal_digit (d : Fin 10) : decimal (d : ℕ) = [digitChar d] := by
  revert d
  decide

theorem decimal_snoc {n : ℕ} (hn : 0 < n) (d : Fin 10) :
    decimal ((10 * n + d : ℕ) : ℤ) = decimal n ++ [digitChar d] := by
  rw [← decimal_digit, decimal_nat, decimal_nat, decimal_nat, ← List.map_append,
    Nat.toDigits_append_toDigits (by norm_num) hn d.isLt]

/-- Digits that do not begin with a zero are printed as they are. -/
theorem decimal_digitsNat {d : Fin 10} (hd : d ≠ 0) (ds : List (Fin 10)) :
    decimal (digitsNat (d :: ds)) = (d :: ds).map digitChar ∧ 0 < digitsNat (d :: ds) := by
  induction ds using List.reverseRecOn with
  | nil =>
    have hvalue : digitsNat [d] = d := by simp [digitsNat]
    rw [hvalue]
    exact ⟨decimal_digit d, Nat.pos_of_ne_zero (Fin.val_ne_zero_iff.mpr hd)⟩
  | append_singleton ds e ih =>
    rw [← List.cons_append, digitsNat_snoc]
    refine ⟨?_, by omega⟩
    rw [decimal_snoc ih.2, ih.1, List.map_append, List.map_singleton]

/-- Leading zeros are not printed. -/
theorem decimal_digitsNat_ne {ds : List (Fin 10)} (hds : ds ≠ []) :
    decimal (digitsNat (0 :: ds)) ≠ (0 :: ds).map digitChar := by
  intro h
  have hvalue : digitsNat (0 :: ds) = digitsNat ds := rfl
  have hlength := (decimal_length_le (List.length_pos_of_ne_nil hds)).mpr (digitsNat_lt ds)
  rw [← hvalue, h, List.length_map, List.length_cons] at hlength
  omega

end Decimal

/-- A network: three digits for the country and two or three for the network in it. -/
structure Plmn where
  mcc1 : Fin 10
  mcc2 : Fin 10
  mcc3 : Fin 10
  mnc1 : Fin 10
  mnc2 : Fin 10
  mnc3 : Option (Fin 10)
deriving DecidableEq, Repr

/-- Two digits in an octet. -/
def octet (low high : ℕ) : UInt8 := UInt8.ofNat (16 * high + low)

namespace Plmn

variable (p : Plmn)

def mccDigits : List (Fin 10) := [p.mcc1, p.mcc2, p.mcc3]

def mncDigits : List (Fin 10) := p.mnc1 :: p.mnc2 :: p.mnc3.toList

def digits : List (Fin 10) := p.mccDigits ++ p.mncDigits

/-- The digits in three octets, with a filler in the place of a sixth one. -/
def plmnId : UInt8 × UInt8 × UInt8 :=
  (octet p.mcc1 p.mcc2, octet p.mcc3 (p.mnc3.elim 0xF Fin.val), octet p.mnc1 p.mnc2)

end Plmn

/-- Both formatters print the digits of the network. -/
def FormattersAgree (p : Plmn) : Prop :=
  ∀ (s : RilCellData) (cellInfo : TapiCellInfo) (entry : TapiNetSearchCnf),
    cellInfo.bPLMNChanged ≠ 0 → cellInfo.plmnId = p.plmnId →
    entry.mcc.toNat = digitsNat p.mccDigits → entry.mnc.toNat = digitsNat p.mncDigits →
    (ipcCellInfo s cellInfo).1.ril.state.properPlmn = entry.netSelect.plmn ∧
      entry.netSelect.plmn = p.digits.map digitChar

theorem octet_digits {low high : ℕ} (hlow : low < 16) (hhigh : high < 16) :
    (octet low high &&& 0xF).toNat = low ∧ (octet low high >>> 4 &&& 0xF).toNat = high := by
  have hall : ∀ low high : Fin 16, (octet low high &&& 0xF).toNat = low ∧
      (octet low high >>> 4 &&& 0xF).toNat = high := by decide
  exact hall ⟨low, hlow⟩ ⟨high, hhigh⟩

/-- The number that the cell's code is printed from has the digits of the network. -/
theorem plmnDec_plmnId {cellInfo : TapiCellInfo} {p : Plmn} (h : cellInfo.plmnId = p.plmnId) :
    cellInfo.plmnDec = digitsNat p.digits := by
  have hdigit (d : Fin 10) : (d : ℕ) < 16 := by omega
  have h0 := octet_digits (hdigit p.mcc1) (hdigit p.mcc2)
  have h2 := octet_digits (hdigit p.mnc1) (hdigit p.mnc2)
  unfold TapiCellInfo.plmnDec
  rw [h, Plmn.plmnId]
  cases hmnc : p.mnc3 with
  | none =>
    have h1 := octet_digits (hdigit p.mcc3) (show 0xF < 16 by norm_num)
    simp only [Option.elim_none, h0, h1, h2, if_true]
    simp only [digitsNat, Plmn.digits, Plmn.mccDigits, Plmn.mncDigits, hmnc, Option.toList_none,
      List.cons_append, List.nil_append, List.foldl_cons, List.foldl_nil]
    omega
  | some e =>
    have h1 := octet_digits (hdigit p.mcc3) (hdigit e)
    have he := e.isLt
    simp only [Option.elim_some, h0, h1, h2, if_neg (show (e : ℕ) ≠ 0xF by omega)]
    simp only [digitsNat, Plmn.digits, Plmn.mccDigits, Plmn.mncDigits, hmnc, Option.toList_some,
      List.cons_append, List.nil_append, List.foldl_cons, List.foldl_nil]
    omega

/-- The same for the entry, unless its three digits of the network begin with a zero. -/
theorem plmnDec_entry {entry : TapiNetSearchCnf} {p : Plmn}
    (hmcc : entry.mcc.toNat = digitsNat p.mccDigits) (hmnc : entry.mnc.toNat = digitsNat p.mncDigits)
    (h : p.mnc3 = none ∨ p.mnc1 ≠ 0) : entry.plmnDec = digitsNat p.digits := by
  have hvalue : entry.plmnDec = if 99 < digitsNat p.mncDigits then
      digitsNat p.mccDigits * 1000 + digitsNat p.mncDigits
      else digitsNat p.mccDigits * 100 + digitsNat p.mncDigits := by
    rw [← hmcc, ← hmnc]
    rfl
  rw [hvalue, Plmn.digits, Plmn.mccDigits, Plmn.mncDigits]
  cases hthird : p.mnc3 with
  | none =>
    have hsmall := digitsNat_lt [p.mnc1, p.mnc2]
    rw [Option.toList_none, if_neg (by simpa using Nat.le_of_lt_succ hsmall)]
    simp only [digitsNat, List.cons_append, List.nil_append, List.foldl_cons, List.foldl_nil]
    omega
  | some e =>
    have hfirst : (p.mnc1 : ℕ) ≠ 0 := Fin.val_ne_zero_iff.mpr (h.resolve_left (by simp [hthird]))
    have hlarge : 99 < digitsNat [p.mnc1, p.mnc2, e] := by
      simp only [digitsNat, List.foldl_cons, List.foldl_nil]
      omega
    rw [Option.toList_some, if_pos hlarge]
    simp only [digitsNat, List.cons_append, List.nil_append, List.foldl_cons, List.foldl_nil]
    omega

/-- Three digits of the network that begin with a zero are taken for two. -/
theorem plmnDec_entry_lt {entry : TapiNetSearchCnf} {p : Plmn}
    (hmcc : entry.mcc.toNat = digitsNat p.mccDigits) (hmnc : entry.mnc.toNat = digitsNat p.mncDigits)
    (hzero : p.mnc1 = 0) : entry.plmnDec < 10 ^ 5 := by
  have hcountry := digitsNat_lt p.mccDigits
  have hnetwork := digitsNat_lt (p.mnc2 :: p.mnc3.toList)
  have hvalue : digitsNat p.mncDigits = digitsNat (p.mnc2 :: p.mnc3.toList) := by
    rw [Plmn.mncDigits, hzero]
    rfl
  have hlength : (p.mnc2 :: p.mnc3.toList).length ≤ 2 := by cases p.mnc3 <;> simp
  have hle : 10 ^ (p.mnc2 :: p.mnc3.toList).length ≤ 10 ^ 2 := Nat.pow_le_pow_right (by norm_num) hlength
  have hthree : p.mccDigits.length = 3 := rfl
  rw [hthree] at hcountry
  unfold TapiNetSearchCnf.plmnDec
  have hsmall : ¬99 < entry.mnc := by
    rw [UInt16.lt_iff_toNat_lt, hmnc, hvalue, not_lt]
    exact Nat.le_of_lt_succ (hnetwork.trans_le hle)
  rw [if_neg hsmall, hmcc, hmnc, hvalue]
  omega

theorem ipcCellInfo_properPlmn (s : RilCellData) {cellInfo : TapiCellInfo}
    (h : cellInfo.bPLMNChanged ≠ 0) :
    (ipcCellInfo s cellInfo).1.ril.state.properPlmn = cellInfo.plmn := by
  unfold ipcCellInfo
  dsimp only
  rw [if_pos h]

/-- Every network is sent by the modem in both ways. -/
theorem exists_messages (p : Plmn) : ∃ (cellInfo : TapiCellInfo) (entry : TapiNetSearchCnf),
    cellInfo.bPLMNChanged ≠ 0 ∧ cellInfo.plmnId = p.plmnId ∧
      entry.mcc.toNat = digitsNat p.mccDigits ∧ entry.mnc.toNat = digitsNat p.mncDigits := by
  have hword (ds : List (Fin 10)) (hlength : ds.length ≤ 3) :
      (UInt16.ofNat (digitsNat ds)).toNat = digitsNat ds := by
    have hlt := digitsNat_lt ds
    have hle : 10 ^ ds.length ≤ 10 ^ 3 := Nat.pow_le_pow_right (by norm_num) hlength
    exact UInt16.toNat_ofNat_of_lt' ((hlt.trans_le hle).trans (by decide))
  refine ⟨⟨0, 0, 0, 1, (0, 0, 0, 0), 0, (0, 0), p.plmnId⟩,
    ⟨0, UInt16.ofNat (digitsNat p.mncDigits), UInt16.ofNat (digitsNat p.mccDigits), 0, 0, 0, []⟩,
    (by decide : (1 : UInt32) ≠ 0), rfl, hword p.mccDigits le_rfl, hword p.mncDigits ?_⟩
  unfold Plmn.mncDigits
  cases p.mnc3 <;> simp

theorem FormattersAgree.leading {p : Plmn} (h : FormattersAgree p) :
    p.mcc1 ≠ 0 ∧ (p.mnc3 = none ∨ p.mnc1 ≠ 0) := by
  obtain ⟨cellInfo, entry, hchanged, hplmnId, hmcc, hmnc⟩ := exists_messages p
  obtain ⟨hcell, hentry⟩ := h ⟨.init, 0⟩ cellInfo entry hchanged hplmnId hmcc hmnc
  rw [ipcCellInfo_properPlmn _ hchanged, hentry, TapiCellInfo.plmn, plmnDec_plmnId hplmnId] at hcell
  constructor
  · intro hzero
    rw [Plmn.digits, Plmn.mccDigits, hzero, List.cons_append] at hcell
    exact decimal_digitsNat_ne (List.cons_ne_nil _ _) hcell
  · by_contra hthree
    rw [not_or, not_not] at hthree
    obtain ⟨e, he⟩ := Option.ne_none_iff_exists'.mp hthree.1
    have hlength := (decimal_length_le (by norm_num)).mpr (plmnDec_entry_lt hmcc hmnc hthree.2)
    rw [show decimal entry.plmnDec = _ from hentry, List.length_map, Plmn.digits, Plmn.mccDigits,
      Plmn.mncDigits, he] at hlength
    exact absurd hlength (Nat.not_succ_le_self 5)

/-- **The formatters agree** on the networks whose digits do not begin with a zero, unless three digits
of the network within the country do. -/
theorem formattersAgree_iff (p : Plmn) :
    FormattersAgree p ↔ p.mcc1 ≠ 0 ∧ (p.mnc3 = none ∨ p.mnc1 ≠ 0) := by
  refine ⟨FormattersAgree.leading, ?_⟩
  rintro ⟨hcountry, hnetwork⟩ s cellInfo entry hchanged hplmnId hmcc hmnc
  have hdigits := (decimal_digitsNat hcountry ([p.mcc2, p.mcc3] ++ p.mncDigits)).1
  have hentry : entry.netSelect.plmn = p.digits.map digitChar := by
    change decimal entry.plmnDec = _
    rw [plmnDec_entry hmcc hmnc hnetwork]
    exact hdigits
  rw [ipcCellInfo_properPlmn s hchanged, hentry, TapiCellInfo.plmn, plmnDec_plmnId hplmnId]
  exact ⟨hdigits, rfl⟩

/-- The network 310 020 is printed as `310020` and as `31020`. -/
theorem formattersAgree_three_digits : ¬∀ p, FormattersAgree p := by
  intro h
  have hnetwork := (h ⟨3, 1, 0, 0, 2, some 0⟩).leading.2
  exact absurd hnetwork (by decide)

end Mocha.Ril
