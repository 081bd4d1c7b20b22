import Mocha.Ril.SmsDeliver

/-! The two addresses in the PDU of an incoming message. The length of the service centre's counts
octets, that of the originator's digits. -/
namespace Mocha.Ril
open Mocha.Lib

/-- The reading of the SMSC in `ril_request_send_sms_complete`: the number, and what follows. -/
def readSmsc (smsc : List UInt8) : Option (CString × List UInt8) := do
  let length : UInt8 ← smsc[0]?
  let octets ← readAt smsc 2 (length.toNat - 1)
  return (bufferString (bcd2ascii octets), smsc.drop (1 + length.toNat))

/-- The reading of the destination there. -/
def readAddress (pdu : List UInt8) : Option (CString × List UInt8) := do
  let length : UInt8 ← pdu[0]?
  let octets ← readAt pdu 2 (addressOctets length.toNat)
  return (bufferString (bcd2ascii octets), pdu.drop (2 + addressOctets length.toNat))

/-- The PDU of an incoming message reads as the number of the service centre, the PDU type, the number
of the originator, and the fields that were written behind it. -/
def AddressesRead (info : TapiNettextInfo) (pdu : CString) (smsc oa : CString) : Prop :=
  ∃ unsol fields data type message rest, info.afterOa = some (unsol, fields) ∧
    string2data pdu = some data ∧ string2data info.pduType = some type ∧
      string2data fields = some rest ∧ readSmsc data = some (smsc, type ++ message) ∧
        readAddress message = some (oa, rest)

section Numbers

variable {ds : List (Fin 10)}

/-- A number with a filler behind an odd number of digits. -/
def paddedDigits (ds : List (Fin 10)) : CString :=
  ds.map digitChar ++ if 0 < ds.length % 2 then [0x46] else []

theorem padNumber_digits {n : ℕ} (h : ds.length % 2 = 1 → ds.length + 2 ≤ n) :
    padNumber n (ds.map digitChar) = some (paddedDigits ds) := by
  unfold padNumber paddedDigits
  rw [List.length_map]
  split_ifs
  · rfl
  · omega
  · rw [List.append_nil]

theorem paddedDigits_length (ds : List (Fin 10)) :
    (paddedDigits ds).length = (semiOctets ds).length * 2 := by
  rw [semiOctets_length, paddedDigits, List.length_append, List.length_map]
  split_ifs
  · rw [List.length_singleton]
    omega
  · rw [List.length_nil]
    omega

theorem hexDigit_digitChar (d : Fin 10) : hexDigit? (digitChar d) = some (UInt8.ofNat d) := by
  revert d
  decide

/-- Swapped pairs of digits are read as semi-octets. -/
theorem string2dataLoop_swapPairs (ds : List (Fin 10)) (s : CString) :
    string2dataLoop (swapPairs (paddedDigits ds) ++ s) 0 0 =
      semiOctets ds ++ string2dataLoop s 0 0 := by
  have hpair : ∀ d e : Fin 10, ((UInt8.ofNat e &&& 0x0f) <<< 4 ||| (UInt8.ofNat d &&& 0x0f)) =
      UInt8.ofNat (16 * e + d) := by decide
  have hlast : ∀ d : Fin 10, (((0xF : UInt8) &&& 0x0f) <<< 4 ||| (UInt8.ofNat d &&& 0x0f)) =
      UInt8.ofNat (16 * 0xF + d) := by decide
  induction ds using semiOctets.induct with
  | case1 => rfl
  | case2 d =>
    have hfiller : hexDigit? 0x46 = some 0xF := by decide
    show string2dataLoop (0x46 :: digitChar d :: s) 0 0 = _
    rw [string2dataLoop_pair hfiller (hexDigit_digitChar d), hlast]
    rfl
  | case3 d e ds ih =>
    have hpadded : paddedDigits (d :: e :: ds) = digitChar d :: digitChar e :: paddedDigits ds := by
      unfold paddedDigits
      rw [List.length_cons, List.length_cons, Nat.add_assoc, Nat.add_mod_right]
      rfl
    rw [hpadded, swapPairs, List.cons_append, List.cons_append,
      string2dataLoop_pair (hexDigit_digitChar e) (hexDigit_digitChar d), ih, hpair]
    rfl

theorem arrayString_digits {n : ℕ} {a : List.Vector UInt8 n}
    (ha : bufferString a.toList = ds.map digitChar) (h : ds.length < n) :
    arrayString a = some (ds.map digitChar) := by
  unfold arrayString
  rw [ha]
  exact if_pos (by rwa [List.length_map])

theorem bufferString_semiOctets (ds : List (Fin 10)) :
    bufferString (bcd2ascii (semiOctets ds)) = ds.map digitChar := by
  rw [bcd2ascii_semiOctets, List.replicate_succ]
  exact bufferString_digits ds _

end Numbers

section Fields

variable {info : TapiNettextInfo}

theorem sprintf02x_length {n : ℕ} {s : CString} (h : sprintf02x n = some s) : s.length = 2 := by
  unfold sprintf02x at h
  split_ifs at h
  obtain rfl := Option.some_inj.mp h
  rfl

theorem timeStamp_length {time : UInt32} {s : CString} (h : info.timeStamp time = some s) :
    s.length = 14 := by
  obtain ⟨timeZone, htimeZone, hs⟩ := Option.bind_eq_some_iff.mp h
  obtain rfl := Option.some_inj.mp hs
  have hlength : timeZone.length = 2 := by
    unfold sprintf02d at htimeZone
    split_ifs at htimeZone
    · obtain rfl := Option.some_inj.mp htimeZone
      rfl
    · obtain rfl := Option.some_inj.mp htimeZone
      rfl
  rw [swapPairs_length, List.length_append, hlength]
  rfl

theorem data2string_even {data : List UInt8} {s : CString} (h : data2string data = some s) :
    s.length % 2 = 0 := by
  unfold data2string at h
  split_ifs at h
  obtain rfl := Option.some_inj.mp h
  rw [hexBytes_length]
  exact Nat.mul_mod_right ..

variable {n : ℕ} {body : List UInt8} {userData : TpUserData}

theorem unicodeUserData_length {dcs : ℕ} {nUdh : UInt8}
    (h : unicodeUserData dcs nUdh n body = some userData) :
    userData.tpUdl.length = 2 ∧ userData.tpUd.length % 2 = 0 := by
  obtain ⟨octets, -, h⟩ := Option.bind_eq_some_iff.mp h
  obtain ⟨message, hmessage, h⟩ := Option.bind_eq_some_iff.mp h
  obtain ⟨udl, hudl, h⟩ := Option.bind_eq_some_iff.mp h
  obtain rfl := Option.some_inj.mp h
  have heven := data2string_even hmessage
  refine ⟨sprintf02x_length hudl, ?_⟩
  dsimp only
  split_ifs
  · rw [List.length_append, show (cString "05").length = 2 by decide, Nat.add_mod_left]
    exact heven
  · exact heven

theorem gsm7PartUserData_length (h : gsm7PartUserData n body = some userData) :
    userData.tpUdl.length = 2 ∧ userData.tpUd.length % 2 = 0 := by
  obtain ⟨text, -, h⟩ := Option.bind_eq_some_iff.mp h
  split_ifs at h
  obtain ⟨messageTmp, -, h⟩ := Option.bind_eq_some_iff.mp h
  split_ifs at h
  obtain ⟨tpUd, htpUd, h⟩ := Option.bind_eq_some_iff.mp h
  obtain ⟨udl, hudl, h⟩ := Option.bind_eq_some_iff.mp h
  obtain rfl := Option.some_inj.mp h
  exact ⟨sprintf02x_length hudl, data2string_even htpUd⟩

theorem gsm7UserData_length (h : gsm7UserData n body = some userData) :
    userData.tpUdl.length = 2 ∧ userData.tpUd.length % 2 = 0 := by
  obtain ⟨octets, -, h⟩ := Option.bind_eq_some_iff.mp h
  obtain ⟨messageTmp, -, h⟩ := Option.bind_eq_some_iff.mp h
  obtain ⟨tpUd, htpUd, h⟩ := Option.bind_eq_some_iff.mp h
  obtain ⟨udl, hudl, h⟩ := Option.bind_eq_some_iff.mp h
  obtain rfl := Option.some_inj.mp h
  exact ⟨sprintf02x_length hudl, data2string_even htpUd⟩

/-- The user data fill whole octets. -/
theorem tpUserData_length (h : info.tpUserData = some userData) :
    userData.tpUdl.length = 2 ∧ userData.tpUd.length % 2 = 0 := by
  unfold TapiNettextInfo.tpUserData at h
  by_cases halphabet : info.alphabetType = 3 ∨ info.msgType = 0x10
  · rw [if_pos halphabet] at h
    exact unicodeUserData_length h
  rw [if_neg halphabet] at h
  by_cases hudh : info.nUdh = 1
  · rw [if_pos hudh] at h
    exact gsm7PartUserData_length h
  · rw [if_neg hudh] at h
    exact gsm7UserData_length h

/-- So do the fields behind TP-OA, of which there is one. -/
theorem afterOa_length {unsol : SmsUnsol} {fields : CString}
    (h : info.afterOa = some (unsol, fields)) : 0 < fields.length ∧ fields.length % 2 = 0 := by
  obtain ⟨tpScts, htpScts, h⟩ := Option.bind_eq_some_iff.mp h
  have hscts := timeStamp_length htpScts
  by_cases hreport : info.dischargeTime ≠ 0
  · rw [if_pos hreport] at h
    obtain ⟨dischargeTime, hdischarge, h⟩ := Option.bind_eq_some_iff.mp h
    obtain ⟨-, rfl⟩ := Prod.mk.inj (Option.some_inj.mp h)
    have hstatus : (if info.statusReport = 0 then cString "00" else cString "01").length = 2 := by
      split_ifs <;> decide
    rw [List.length_append, List.length_append, hscts, timeStamp_length hdischarge, hstatus]
    decide
  · rw [if_neg hreport] at h
    obtain ⟨userData, huserData, h⟩ := Option.bind_eq_some_iff.mp h
    obtain ⟨tpDcs, htpDcs, h⟩ := Option.bind_eq_some_iff.mp h
    obtain ⟨-, rfl⟩ := Prod.mk.inj (Option.some_inj.mp h)
    obtain ⟨hudl, hud⟩ := tpUserData_length huserData
    have hpid : (cString "00").length = 2 := by decide
    rw [List.length_append, List.length_append, List.length_append, List.length_append, hpid,
      sprintf02x_length htpDcs, hscts, hudl]
    omega

theorem sca_eq {ds : List (Fin 10)} (h : bufferString info.smsc.toList = ds.map digitChar)
    (hpos : 0 < ds.length) (hle : ds.length ≤ 22) : info.sca = some
      (hexByte (UInt8.ofNat ((semiOctets ds).length + 1)) ++ hexByte 0x91 ++
        swapPairs (paddedDigits ds)) := by
  have hlength := semiOctets_length ds
  have hpositive : 0 < (paddedDigits ds).length := by
    rw [paddedDigits_length]
    omega
  unfold TapiNettextInfo.sca
  rw [arrayString_digits h (by omega), Option.bind_eq_bind, Option.bind_some,
    padNumber_digits (by omega), Option.bind_some, if_pos hpositive, paddedDigits_length,
    Nat.mul_div_cancel _ (by norm_num), sprintf02x, if_pos (by omega)]
  rfl

theorem tpOa_eq {ds : List (Fin 10)} (h : bufferString info.szFromNumber.toList = ds.map digitChar)
    (hle : ds.length ≤ 20) (hton : info.tonFromNumber ≠ 5) : ∃ toa, info.tpOa = some
      (hexByte (UInt8.ofNat ds.length) ++ hexByte toa ++ swapPairs (paddedDigits ds)) := by
  refine ⟨if info.tonFromNumber = 1 then 0x91 else 0x81, ?_⟩
  unfold TapiNettextInfo.tpOa
  rw [arrayString_digits h (by omega), Option.bind_eq_bind, Option.bind_some, if_neg hton,
    padNumber_digits (by omega), Option.bind_some, List.length_map, sprintf02x, if_pos (by omega),
    Option.bind_some]
  split_ifs
  · rfl
  · rfl

theorem pduType_eq (info : TapiNettextInfo) : ∃ type : List UInt8, 0 < type.length ∧
    info.pduType = type.flatMap hexByte := by
  unfold TapiNettextInfo.pduType
  split_ifs
  · exact ⟨[0x44], by decide, by decide⟩
  · exact ⟨[0x04], by decide, by decide⟩
  · exact ⟨[0x06, 0x00], by decide, by decide⟩

end Fields

/-- The reading of an address ends where the next field begins. -/
theorem readSmsc_octets {ds : List (Fin 10)} (hle : ds.length ≤ 22) (toa : UInt8) (rest : List UInt8) :
    readSmsc (UInt8.ofNat ((semiOctets ds).length + 1) :: toa :: (semiOctets ds ++ rest)) =
      some (ds.map digitChar, rest) := by
  have hlength := semiOctets_length ds
  have hnat : (UInt8.ofNat ((semiOctets ds).length + 1)).toNat = (semiOctets ds).length + 1 :=
    toNat_ofNat_le (by omega)
  have hread : readAt (UInt8.ofNat ((semiOctets ds).length + 1) :: toa :: (semiOctets ds ++ rest)) 2
      ((semiOctets ds).length + 1 - 1) = some (semiOctets ds) :=
    readAt_middle [_, toa] (semiOctets ds) rest rfl rfl
  unfold readSmsc
  rw [List.getElem?_cons_zero, Option.bind_eq_bind, Option.bind_some, hnat, hread,
    Option.bind_eq_bind, Option.bind_some, bufferString_semiOctets, Nat.add_comm 1,
    List.drop_succ_cons, List.drop_succ_cons, List.drop_left]
  rfl

theorem readAddress_octets {ds : List (Fin 10)} (hle : ds.length ≤ 20) (toa : UInt8)
    (rest : List UInt8) :
    readAddress (UInt8.ofNat ds.length :: toa :: (semiOctets ds ++ rest)) =
      some (ds.map digitChar, rest) := by
  have hnat : (UInt8.ofNat ds.length).toNat = ds.length := toNat_ofNat_le (by omega)
  have hcount : (semiOctets ds).length = addressOctets ds.length := by
    rw [semiOctets_length, addressOctets]
    split_ifs <;> omega
  have hread : readAt (UInt8.ofNat ds.length :: toa :: (semiOctets ds ++ rest)) 2
      (addressOctets ds.length) = some (semiOctets ds) :=
    readAt_middle [_, toa] (semiOctets ds) rest rfl hcount
  unfold readAddress
  rw [List.getElem?_cons_zero, Option.bind_eq_bind, Option.bind_some, hnat, hread,
    Option.bind_eq_bind, Option.bind_some, bufferString_semiOctets, Nat.add_comm 2,
    List.drop_succ_cons, List.drop_succ_cons, ← hcount, List.drop_left]
  rfl

/-- **Both addresses are read back** from the PDU of an incoming message, whatever their parity, and
each length octet leads to the field behind its address. -/
theorem ipcIncomingSms_addresses {info : TapiNettextInfo} {smsc oa : List (Fin 10)}
    (hsmsc : bufferString info.smsc.toList = smsc.map digitChar)
    (hoa : bufferString info.szFromNumber.toList = oa.map digitChar)
    (hsmscPos : 0 < smsc.length) (hsmscLe : smsc.length ≤ 22) (hoaLe : oa.length ≤ 20)
    (hton : info.tonFromNumber ≠ 5) {unsol : SmsUnsol} {pdu : CString}
    (hpdu : ipcIncomingSms info = some (unsol, pdu)) :
    AddressesRead info pdu (smsc.map digitChar) (oa.map digitChar) := by
  obtain ⟨sca, tpOa, fields, hsca, htpOa, hfields, rfl⟩ := ipcIncomingSms_fields hpdu
  obtain ⟨toa, htoa⟩ := tpOa_eq hoa hoaLe hton
  obtain ⟨type, htypePos, htype⟩ := pduType_eq info
  obtain ⟨hfieldsPos, hfieldsEven⟩ := afterOa_length hfields
  obtain rfl := Option.some_inj.mp (hsca.symm.trans (sca_eq hsmsc hsmscPos hsmscLe))
  obtain rfl := Option.some_inj.mp (htpOa.symm.trans htoa)
  have htypeLength : info.pduType.length = 2 * type.length := htype ▸ hexBytes_length type
  have htypeRead : string2data info.pduType = some type := htype ▸ string2data_hexBytes htypePos
  set pdu := hexByte (UInt8.ofNat ((semiOctets smsc).length + 1)) ++ hexByte 0x91 ++
    swapPairs (paddedDigits smsc) ++ info.pduType ++ (hexByte (UInt8.ofNat oa.length) ++
      hexByte toa ++ swapPairs (paddedDigits oa)) ++ fields with hpdu
  have hlength : pdu.length = 8 + 2 * (semiOctets smsc).length + 2 * type.length +
      2 * (semiOctets oa).length + fields.length := by
    rw [hpdu]
    simp only [List.length_append, swapPairs_length, paddedDigits_length, htypeLength, hexByte,
      List.length_cons, List.length_nil]
    ring
  have hdata : string2dataLoop pdu 0 0 = UInt8.ofNat ((semiOctets smsc).length + 1) :: 0x91 ::
      (semiOctets smsc ++ (type ++ (UInt8.ofNat oa.length :: toa ::
        (semiOctets oa ++ string2dataLoop fields 0 0)))) := by
    rw [hpdu, htype]
    simp only [List.append_assoc, string2dataLoop_hexByte, string2dataLoop_swapPairs,
      string2dataLoop_hexBytes]
  refine ⟨unsol, fields, _, type, _, _, hfields, string2data_of_even (by omega) (by omega), htypeRead,
    string2data_of_even hfieldsPos hfieldsEven, ?_, readAddress_octets hoaLe toa _⟩
  rw [hdata]
  exact readSmsc_octets hsmscLe 0x91 _

/-- Two odd numbers. -/
theorem ipcIncomingSms_addresses_odd :
    let info : TapiNettextInfo := { TapiNettextInfo.zero with
      smsc := ⟨[0x34, 0x35, 0x36] ++ List.replicate 21 0, rfl⟩
      szFromNumber := ⟨[0x31, 0x32, 0x33] ++ List.replicate 18 0, rfl⟩
      messageLength := 1
      messageBody := ⟨0x41 :: List.replicate 159 0, rfl⟩ }
    AddressesRead info (cString "039154F604038121F30000071010000000000141")
      ([4, 5, 6].map digitChar) ([1, 2, 3].map digitChar) := by
  intro info
  have hpdu : ipcIncomingSms info =
      some (.newSms, cString "039154F604038121F30000071010000000000141") := by
    decide +kernel
  exact ipcIncomingSms_addresses (by decide) (by decide) (by decide) (by decide) (by decide)
    (by decide) hpdu

end Mocha.Ril
