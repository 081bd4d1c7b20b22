import Mocha.Ril.SmsDeliver
import Mocha.Ril.SmsSubmit

/-! The user data of an incoming message, sent back: what `ipc_incoming_sms` encodes is decoded again by
`ril_request_send_sms_complete`. -/
namespace Mocha.Ril
open Mocha.Lib

namespace TapiNettextInfo

variable (info : TapiNettextInfo)

/-- The bytes of the message. -/
def body : List UInt8 := info.messageBody.toList.take info.messageLength.toNat

/-- The text, behind the header if there is one. -/
def text : List UInt8 := if info.nUdh = 1 then info.body.drop 5 else info.body

/-- A message up to the limit of TP-UD, which the header shares. -/
structure WithinLimit : Prop where
  notMms : info.alphabetType ≠ 3 → info.msgType ≠ 0x10
  header : info.nUdh = 1 → 5 ≤ info.messageLength.toNat
  unicode : info.alphabetType = 3 →
    info.messageLength.toNat + (if info.nUdh = 1 then 1 else 0) ≤ 140
  gsm7 : info.alphabetType ≠ 3 →
    info.messageLength.toNat + (if info.nUdh = 1 then 2 else 0) ≤ 160
  septets : info.alphabetType ≠ 3 → IsDigits 128 info.text

/-- The user data of the incoming message, behind the header of an outgoing one, are converted back to
the message. -/
def RoundTrip (t : RilToken) (scTime : UInt32) (h : SubmitHeader) (c : ServiceCentre) : Prop :=
  ∃ userData data mess, info.tpUserData = some userData ∧
    string2data (userData.tpUdl ++ userData.tpUd) = some data ∧
      Sends (smsInfo t (h.octets (info.nUdh = 1) (if info.alphabetType = 3 then 8 else 0) ++ data)
        c.octets) scTime mess ∧ mess.messageLength = info.messageLength ∧ mess.body = info.body

/-- The body of the packet that is made of the user data. -/
def bodyBack (t : RilToken) (scTime : UInt32) (h : SubmitHeader) (c : ServiceCentre) :
    Option (List UInt8) := do
  let userData ← info.tpUserData
  let data ← string2data (userData.tpUdl ++ userData.tpUd)
  let mess ← (smsInfo t (h.octets (info.nUdh = 1) (if info.alphabetType = 3 then 8 else 0) ++ data)
    c.octets).nettext scTime
  return mess.body

/-- The text is not cut at a null character: behind the first one there are only more of them. There is
one behind a text that has none. -/
def NullTerminated : Prop :=
  let chars := bufferString (info.messageBody.toList.drop 5)
  chars.length ≤ info.text.length ∧
    info.text = chars ++ List.replicate (info.text.length - chars.length) 0

variable {info} {t : RilToken} {scTime : UInt32} {h : SubmitHeader} {c : ServiceCentre}

theorem RoundTrip.bodyBack (hround : info.RoundTrip t scTime h c) :
    info.bodyBack t scTime h c = some info.body := by
  obtain ⟨userData, data, mess, huserData, hdata, hsends, -, hbody⟩ := hround
  rw [TapiNettextInfo.bodyBack, huserData, Option.bind_eq_bind, Option.bind_some, hdata,
    Option.bind_eq_bind, Option.bind_some, hsends.2, Option.bind_eq_bind, Option.bind_some, hbody]
  rfl

end TapiNettextInfo

/-- The PDU of a message ends in its user data. -/
theorem ipcIncomingSms_userData {info : TapiNettextInfo} {pdu : CString}
    (hpdu : ipcIncomingSms info = some (.newSms, pdu)) : ∃ fields userData,
      info.tpUserData = some userData ∧ pdu = fields ++ (userData.tpUdl ++ userData.tpUd) := by
  obtain ⟨sca, tpOa, rest, -, -, hrest, rfl⟩ := ipcIncomingSms_fields hpdu
  obtain ⟨tpScts, -, hrest⟩ := Option.bind_eq_some_iff.mp hrest
  dsimp only at hrest
  by_cases hdischarge : info.dischargeTime ≠ 0
  · rw [if_pos hdischarge] at hrest
    obtain ⟨dischargeTime, -, hrest⟩ := Option.bind_eq_some_iff.mp hrest
    cases (Prod.mk.inj (Option.some_inj.mp hrest)).1
  · rw [if_neg hdischarge] at hrest
    obtain ⟨userData, huserData, hrest⟩ := Option.bind_eq_some_iff.mp hrest
    obtain ⟨tpDcs, -, hrest⟩ := Option.bind_eq_some_iff.mp hrest
    obtain ⟨-, rfl⟩ := Prod.mk.inj (Option.some_inj.mp hrest)
    refine ⟨sca ++ info.pduType ++ tpOa ++ (cString "00" ++ tpDcs ++ tpScts), userData, huserData, ?_⟩
    simp only [List.append_assoc]

section Encoder

variable {info : TapiNettextInfo} {u : UserData} {userData : TpUserData}

/-- The user data of an incoming message are encoded as those of `u`. -/
def EncodesAs (userData : TpUserData) (u : UserData) : Prop :=
  userData.tpUdl = hexByte (UInt8.ofNat u.udl) ∧ userData.tpUd = u.octets.flatMap hexByte

theorem eq_leBytes {l : List UInt8} {n v : ℕ} (hlength : l.length = n) (hvalue : radixNat 256 l = v) :
    l = leBytes n v := by
  rw [← leBytes_leNat l, ← radixNat_256, hlength, hvalue]

/-- Encoded user data are decoded. -/
theorem roundTrip_of_encodesAs (hu : u.Fits) (huserData : info.tpUserData = some userData)
    (hencodes : EncodesAs userData u) (hheader : u.header.isSome = decide (info.nUdh = 1))
    (hdcs : u.dcs = if info.alphabetType = 3 then 8 else 0) (t : RilToken) (scTime : UInt32)
    (h : SubmitHeader) (c : ServiceCentre) :
    info.RoundTrip t scTime h c ↔
      UInt8.ofNat u.body.length = info.messageLength ∧ u.body = info.body := by
  obtain ⟨mess, hsends, hconverted⟩ := sends_tpdu t scTime h c hu
  have hdata : string2data (userData.tpUdl ++ userData.tpUd) =
      some (UInt8.ofNat u.udl :: u.octets) := by
    rw [hencodes.1, hencodes.2, ← List.flatMap_cons]
    exact string2data_hexBytes (Nat.succ_pos _)
  have hbody : mess.body = u.body := by
    rw [TapiNettextInfo.body, hconverted.messageLength, toNat_ofNat_le hu.body_length_le]
    exact hconverted.messageBody.take
  rw [hheader, hdcs] at hsends
  constructor
  · rintro ⟨userData', data, mess', huserData', hdata', hsends', hlength, hbody'⟩
    obtain rfl : userData' = userData := Option.some_inj.mp (huserData'.symm.trans huserData)
    obtain rfl : data = _ := Option.some_inj.mp (hdata'.symm.trans hdata)
    obtain rfl : mess' = mess := Option.some_inj.mp (hsends'.2.symm.trans hsends.2)
    exact ⟨hconverted.messageLength.symm.trans hlength, hbody.symm.trans hbody'⟩
  · rintro ⟨hlength, heq⟩
    exact ⟨userData, _, mess, huserData, hdata, hsends, hconverted.messageLength.trans hlength,
      hbody.trans heq⟩

theorem data2string_eq {data : List UInt8} (h : data ≠ []) :
    data2string data = some (data.flatMap hexByte) :=
  if_neg fun h0 => h (List.eq_nil_of_length_eq_zero h0)

theorem sprintf02x_eq {n : ℕ} (h : n ≤ 160) : sprintf02x n = some (hexByte (UInt8.ofNat n)) :=
  if_pos (by omega)

variable {n : ℕ} {body : List UInt8}

theorem gsm7UserData_encodes {septets : List UInt8} (hseptets : IsDigits 128 septets)
    (hne : septets ≠ []) (hle : septets.length ≤ 160)
    (hread : readAt body 0 septets.length = some septets) :
    ∃ userData, gsm7UserData septets.length body = some userData ∧
      EncodesAs userData ⟨none, .gsm7 septets hseptets⟩ := by
  obtain ⟨gsm7, hgsm7, hlength, hvalue⟩ := ascii2gsm7_spec hseptets
  have hgsm7Ne : gsm7 ≠ [] := by
    have hpos := List.length_pos_iff.mpr hne
    apply List.ne_nil_of_length_pos
    omega
  refine ⟨⟨0, hexByte (UInt8.ofNat septets.length), gsm7.flatMap hexByte⟩, ?_, rfl,
    congrArg (·.flatMap hexByte) (eq_leBytes hlength hvalue)⟩
  rw [gsm7UserData, hread, Option.bind_eq_bind, Option.bind_some, hgsm7, Option.bind_some,
    data2string_eq hgsm7Ne, Option.bind_some, sprintf02x_eq hle]
  rfl

/-- The seven characters in front of the text make room for the header and the fill bit. -/
theorem gsm7PartUserData_encodes {header : List.Vector UInt8 5} {chars septets : List UInt8}
    (hchars : strncatChars (body.drop 5) (n + 2) = some chars) (hheader : body.take 5 = header.toList)
    (hn : 5 ≤ n) (hle : n + 2 ≤ 160) (hfits : chars.length ≤ n - 5)
    (hseptets : septets = chars ++ List.replicate (n - 5 - chars.length) 0)
    (hdigits : IsDigits 128 septets) :
    ∃ userData, gsm7PartUserData n body = some userData ∧
      EncodesAs userData ⟨some header, .gsm7 septets hdigits⟩ := by
  have hsize : septets.length = n - 5 := by
    rw [hseptets, List.length_append, List.length_replicate]
    omega
  have hzeros : IsDigits 128 (cString "0000000") := by decide
  have hmessage : (cString "0000000" ++ chars ++ List.replicate (n + 3 - (7 + chars.length)) 0).take
      (n + 2) = cString "0000000" ++ septets := by
    have hsplit : List.replicate (n + 3 - (7 + chars.length)) (0 : UInt8) =
        List.replicate (n - 5 - chars.length) 0 ++ [0] := by
      rw [← List.replicate_succ']
      congr 1
      omega
    have hseven : (cString "0000000").length = 7 := by decide
    rw [hsplit, List.append_assoc, ← List.append_assoc chars, ← hseptets, ← List.append_assoc]
    apply List.take_left'
    rw [List.length_append, hseven, hsize]
    omega
  obtain ⟨gsm7, hgsm7, hlength, hvalue⟩ := ascii2gsm7_spec (hzeros.append hdigits)
  have hseven : (cString "0000000").length = 7 := by decide
  rw [List.length_append, hseven, hsize] at hlength
  have hrest : gsm7.drop 6 = leBytes ((7 * septets.length + 8) / 8) (2 * radixNat 128 septets) := by
    apply eq_leBytes
    · rw [List.length_drop, hlength, hsize]
      omega
    · have hfirst : radixNat 128 (cString "0000000") < 256 ^ 6 := by decide
      rw [radixNat_drop (by norm_num) (by omega) (isDigits_256 gsm7), hvalue, radixNat_append, hseven,
        show 128 ^ 7 * radixNat 128 septets = 256 ^ 6 * (2 * radixNat 128 septets) by ring,
        Nat.add_mul_div_left _ _ (by norm_num), Nat.div_eq_of_lt hfirst, zero_add]
  have hudl : UserData.udl ⟨some header, .gsm7 septets hdigits⟩ = n + 2 := by
    show septets.length + 7 = n + 2
    omega
  refine ⟨⟨0, hexByte (UInt8.ofNat (n + 2)), (5 :: body.take 5 ++ gsm7.drop 6).flatMap hexByte⟩, ?_,
    ?_, ?_⟩
  · rw [gsm7PartUserData, hchars, Option.bind_eq_bind, Option.bind_some, if_neg (by omega)]
    dsimp only
    rw [hmessage, hgsm7, Option.bind_some, if_neg (by omega),
      data2string_eq (List.append_ne_nil_of_left_ne_nil (List.cons_ne_nil _ _) _), Option.bind_some,
      sprintf02x_eq hle]
    rfl
  · rw [hudl]
  · rw [hheader, hrest]
    rfl

theorem unicodeUserData_encodes (dcs : ℕ) {octets : List UInt8} (hne : octets ≠ [])
    (hle : octets.length ≤ 160) (hread : readAt body 0 octets.length = some octets) {nUdh : UInt8}
    (hnUdh : nUdh ≠ 1) : ∃ userData, unicodeUserData dcs nUdh octets.length body = some userData ∧
      EncodesAs userData ⟨none, .ucs2 octets⟩ := by
  refine ⟨⟨dcs, hexByte (UInt8.ofNat octets.length), octets.flatMap hexByte⟩, ?_, rfl, rfl⟩
  rw [unicodeUserData, hread, Option.bind_eq_bind, Option.bind_some, data2string_eq hne,
    Option.bind_some]
  dsimp only
  rw [if_neg hnUdh, if_neg hnUdh, sprintf02x_eq hle]
  rfl

theorem unicodeUserData_part_encodes (dcs : ℕ) {header : List.Vector UInt8 5} {octets : List UInt8}
    (hn : n = octets.length + 5) (hle : n + 1 ≤ 160)
    (hread : readAt body 0 n = some (header.toList ++ octets)) :
    ∃ userData, unicodeUserData dcs 1 n body = some userData ∧
      EncodesAs userData ⟨some header, .ucs2 octets⟩ := by
  have hlength := header.toList_length
  have hne : header.toList ++ octets ≠ [] := by
    apply List.ne_nil_of_length_pos
    rw [List.length_append]
    omega
  have hudl : UserData.udl ⟨some header, .ucs2 octets⟩ = n + 1 := by
    show octets.length + (header.toList.length + 1) = n + 1
    omega
  have hfive : cString "05" = hexByte 5 := by decide
  refine ⟨⟨dcs, hexByte (UInt8.ofNat (n + 1)), hexByte 5 ++ (header.toList ++ octets).flatMap hexByte⟩,
    ?_, ?_, rfl⟩
  · rw [unicodeUserData, hread, Option.bind_eq_bind, Option.bind_some, data2string_eq hne,
      Option.bind_some]
    dsimp only
    rw [if_pos rfl, if_pos rfl, sprintf02x_eq hle, hfive]
    rfl
  · rw [hudl]

end Encoder

section Messages

variable {info : TapiNettextInfo}

theorem body_length (h : info.messageLength.toNat ≤ 160) :
    info.body.length = info.messageLength.toNat := by
  rw [TapiNettextInfo.body, List.length_take_of_le]
  rwa [List.Vector.toList_length]

theorem readAt_body (h : info.messageLength.toNat ≤ 160) :
    readAt info.messageBody.toList 0 info.messageLength.toNat = some info.body := by
  unfold readAt
  rw [List.Vector.toList_length, if_pos (by omega), List.drop_zero]
  rfl

theorem ofNat_messageLength (info : TapiNettextInfo) :
    UInt8.ofNat info.messageLength.toNat = info.messageLength := UInt8.ofNat_toNat

/-- Nothing is passed on of an empty message: its string is null. -/
theorem tpUserData_empty (hempty : info.messageLength = 0) (hnUdh : info.nUdh ≠ 1) :
    info.tpUserData = none := by
  have hread : readAt info.messageBody.toList 0 info.messageLength.toNat = some [] := by
    rw [hempty]
    exact if_pos (Nat.zero_le _)
  unfold TapiNettextInfo.tpUserData
  by_cases halphabet : info.alphabetType = 3 ∨ info.msgType = 0x10
  · rw [if_pos halphabet, unicodeUserData, hread]
    rfl
  · rw [if_neg halphabet, if_neg hnUdh, gsm7UserData, hread]
    rfl

/-- What `strncat` takes of the text of a part. -/
theorem bufferString_text_take (n : ℕ) : bufferString ((info.messageBody.toList.drop 5).take n) =
    (bufferString (info.messageBody.toList.drop 5)).take n := by
  rw [bufferString, bufferString, List.take_takeWhile]

variable (hlimit : info.WithinLimit)

include hlimit

theorem TapiNettextInfo.WithinLimit.length_le : info.messageLength.toNat ≤ 160 := by
  by_cases halphabet : info.alphabetType = 3
  · have hle := hlimit.unicode halphabet
    omega
  · have hle := hlimit.gsm7 halphabet
    omega

variable (t : RilToken) (scTime : UInt32) (h : SubmitHeader) (c : ServiceCentre)

/-- A message without a header is sent back, unless it is empty. -/
theorem roundTrip_whole (hnUdh : info.nUdh ≠ 1) :
    info.RoundTrip t scTime h c ↔ info.messageLength ≠ 0 := by
  by_cases hempty : info.messageLength = 0
  · refine iff_of_false ?_ (not_not.mpr hempty)
    rintro ⟨userData, -, -, huserData, -⟩
    rw [tpUserData_empty hempty hnUdh] at huserData
    cases huserData
  refine iff_of_true ?_ hempty
  have hle := hlimit.length_le
  have hlength := body_length hle
  have hread : readAt info.messageBody.toList 0 info.body.length = some info.body := by
    rw [hlength]
    exact readAt_body hle
  have hne : info.body ≠ [] := by
    apply List.ne_nil_of_length_pos
    rw [hlength]
    exact Nat.pos_of_ne_zero fun h0 => hempty (UInt8.toNat_inj.mp h0)
  by_cases halphabet : info.alphabetType = 3
  · obtain ⟨userData, huserData, hencodes⟩ := unicodeUserData_encodes _ hne (by omega) hread hnUdh
    have hfits : UserData.Fits ⟨none, .ucs2 info.body⟩ := by
      have hunicode := hlimit.unicode halphabet
      rw [if_neg hnUdh] at hunicode
      exact hlength.trans_le hunicode
    refine (roundTrip_of_encodesAs hfits ?_ hencodes (decide_eq_false hnUdh).symm
      (if_pos halphabet).symm t scTime h c).mpr ⟨?_, rfl⟩
    · rw [TapiNettextInfo.tpUserData, if_pos (.inl halphabet), ← hlength,
        huserData]
    · exact (congrArg UInt8.ofNat hlength).trans (ofNat_messageLength info)
  · have hseptets : IsDigits 128 info.body := by
      have hseptets := hlimit.septets halphabet
      rwa [TapiNettextInfo.text, if_neg hnUdh] at hseptets
    obtain ⟨userData, huserData, hencodes⟩ :=
      gsm7UserData_encodes hseptets hne (by omega) hread
    have hfits : UserData.Fits ⟨none, .gsm7 info.body hseptets⟩ := hlength.trans_le hle
    refine (roundTrip_of_encodesAs hfits ?_ hencodes (decide_eq_false hnUdh).symm
      (if_neg halphabet).symm t scTime h c).mpr ⟨?_, rfl⟩
    · rw [TapiNettextInfo.tpUserData, if_neg fun h => h.elim halphabet (hlimit.notMms halphabet), if_neg hnUdh,
        ← hlength, huserData]
    · exact (congrArg UInt8.ofNat hlength).trans (ofNat_messageLength info)

theorem body_eq_header_append (hnUdh : info.nUdh = 1) : ∃ header : List.Vector UInt8 5,
    info.messageBody.toList.take 5 = header.toList ∧ info.body = header.toList ++ info.text ∧
      info.text.length + 5 = info.messageLength.toNat := by
  have hle := hlimit.length_le
  have hheader := hlimit.header hnUdh
  have hlength := body_length hle
  have hfive : (info.messageBody.toList.take 5).length = 5 := by
    rw [List.length_take, List.Vector.toList_length]
    rfl
  have htake : info.body.take 5 = info.messageBody.toList.take 5 := by
    rw [TapiNettextInfo.body, List.take_take, min_eq_left hheader]
  refine ⟨⟨_, hfive⟩, rfl, ?_, ?_⟩
  · rw [List.Vector.toList_mk, TapiNettextInfo.text, if_pos hnUdh, ← htake, List.take_append_drop]
  · rw [TapiNettextInfo.text, if_pos hnUdh, List.length_drop, hlength]
    omega

/-- A part in Unicode is sent back. -/
theorem roundTrip_unicode_part (hnUdh : info.nUdh = 1) (halphabet : info.alphabetType = 3) :
    info.RoundTrip t scTime h c := by
  obtain ⟨header, -, hbody, hlength⟩ := body_eq_header_append hlimit hnUdh
  have hunicode := hlimit.unicode halphabet
  rw [if_pos hnUdh] at hunicode
  obtain ⟨userData, huserData, hencodes⟩ := unicodeUserData_part_encodes _ hlength.symm (by omega)
    ((readAt_body hlimit.length_le).trans (congrArg some hbody))
  have hfits : UserData.Fits ⟨some header, .ucs2 info.text⟩ := by
    show info.text.length + (header.toList.length + 1) ≤ 140
    rw [header.toList_length]
    omega
  refine (roundTrip_of_encodesAs hfits ?_ hencodes (decide_eq_true hnUdh).symm
    (if_pos halphabet).symm t scTime h c).mpr ⟨?_, hbody.symm⟩
  · rw [TapiNettextInfo.tpUserData, if_pos (.inl halphabet), hnUdh, huserData]
  · have hsize : (header.toList ++ info.text).length = info.messageLength.toNat := by
      rw [List.length_append, header.toList_length, Nat.add_comm, hlength]
    exact (congrArg UInt8.ofNat hsize).trans (ofNat_messageLength info)

theorem tpUserData_gsm7_part (hnUdh : info.nUdh = 1) (halphabet : info.alphabetType ≠ 3) :
    info.tpUserData = gsm7PartUserData info.messageLength.toNat info.messageBody.toList := by
  have hgsm7 : ¬(info.alphabetType = 3 ∨ info.msgType = 0x10) := fun h =>
    h.elim halphabet (hlimit.notMms halphabet)
  rw [TapiNettextInfo.tpUserData, if_neg hgsm7, if_pos hnUdh]

/-- A text that is longer than it says leaves no room for its terminator. -/
theorem tpUserData_long (hnUdh : info.nUdh = 1) (halphabet : info.alphabetType ≠ 3)
    (hlong : info.text.length < (bufferString (info.messageBody.toList.drop 5)).length) :
    info.tpUserData = none := by
  obtain ⟨header, -, -, hlength⟩ := body_eq_header_append hlimit hnUdh
  rw [tpUserData_gsm7_part hlimit hnUdh halphabet, gsm7PartUserData]
  cases hcopied : strncatChars (info.messageBody.toList.drop 5) (info.messageLength.toNat + 2) with
  | none => rfl
  | some copied =>
    have hcopiedLength : info.text.length < copied.length := by
      unfold strncatChars at hcopied
      dsimp only at hcopied
      split_ifs at hcopied
      rw [← Option.some_inj.mp hcopied, bufferString_text_take, List.length_take]
      omega
    exact if_pos (by omega)

/-- A part whose text fits is encoded as one whose text goes on with zeros. -/
theorem tpUserData_short (hnUdh : info.nUdh = 1) (halphabet : info.alphabetType ≠ 3)
    {header : List.Vector UInt8 5} (hheader : info.messageBody.toList.take 5 = header.toList)
    {chars septets : List UInt8} (hchars : bufferString (info.messageBody.toList.drop 5) = chars)
    (hfits : chars.length ≤ info.text.length)
    (hseptets : septets = chars ++ List.replicate (info.text.length - chars.length) 0)
    (hdigits : IsDigits 128 septets) : ∃ userData, info.tpUserData = some userData ∧
      EncodesAs userData ⟨some header, .gsm7 septets hdigits⟩ := by
  obtain ⟨-, -, -, hlength⟩ := body_eq_header_append hlimit hnUdh
  have hgsm7 := hlimit.gsm7 halphabet
  rw [if_pos hnUdh] at hgsm7
  have hsource : (info.messageBody.toList.drop 5).length = 155 := by
    rw [List.length_drop, List.Vector.toList_length]
  have hcopied : strncatChars (info.messageBody.toList.drop 5) (info.messageLength.toNat + 2) =
      some chars := by
    unfold strncatChars
    dsimp only
    rw [bufferString_text_take, hchars, List.take_of_length_le (by omega), if_pos (.inl (by omega))]
  have hmessageLength : info.messageLength.toNat - 5 = info.text.length := by omega
  rw [tpUserData_gsm7_part hlimit hnUdh halphabet]
  exact gsm7PartUserData_encodes hcopied hheader (hlimit.header hnUdh) hgsm7 (hmessageLength ▸ hfits)
    (by rw [hmessageLength]; exact hseptets) hdigits

/-- The text up to its first null character consists of septets. -/
theorem isDigits_chars (hnUdh : info.nUdh = 1) (halphabet : info.alphabetType ≠ 3)
    (hfits : (bufferString (info.messageBody.toList.drop 5)).length ≤ info.text.length) :
    IsDigits 128 (bufferString (info.messageBody.toList.drop 5)) := by
  have htext : info.text = (info.messageBody.toList.drop 5).take (info.messageLength.toNat - 5) := by
    rw [TapiNettextInfo.text, if_pos hnUdh, TapiNettextInfo.body, List.drop_take]
  have hsize : info.text.length ≤ info.messageLength.toNat - 5 := by
    rw [htext]
    exact List.length_take_le ..
  have hstart : bufferString (info.messageBody.toList.drop 5) <+: info.messageBody.toList.drop 5 :=
    List.takeWhile_prefix _
  have hsub : bufferString (info.messageBody.toList.drop 5) <+: info.text := by
    rw [htext]
    exact List.prefix_take_iff.mpr ⟨hstart, hfits.trans hsize⟩
  exact (hlimit.septets halphabet).sublist hsub.sublist

/-- A part in GSM7 is sent back if its text is not cut. -/
theorem roundTrip_gsm7_part (hnUdh : info.nUdh = 1) (halphabet : info.alphabetType ≠ 3) :
    info.RoundTrip t scTime h c ↔ info.NullTerminated := by
  obtain ⟨header, hheader, hbody, hlength⟩ := body_eq_header_append hlimit hnUdh
  have hgsm7 := hlimit.gsm7 halphabet
  rw [if_pos hnUdh] at hgsm7
  have hcharsDigits := isDigits_chars hlimit hnUdh halphabet
  unfold TapiNettextInfo.NullTerminated
  dsimp only
  generalize hchars : bufferString (info.messageBody.toList.drop 5) = chars at hcharsDigits
  by_cases hfits : chars.length ≤ info.text.length
  · rw [and_iff_right hfits]
    generalize hseptets : chars ++ List.replicate (info.text.length - chars.length) 0 = septets
    have hdigits : IsDigits 128 septets :=
      hseptets ▸ (hcharsDigits hfits).append (.zeros (by norm_num) _)
    have hsize : septets.length = info.text.length := by
      rw [← hseptets, List.length_append, List.length_replicate]
      omega
    obtain ⟨userData, huserData, hencodes⟩ :=
      tpUserData_short hlimit hnUdh halphabet hheader hchars hfits hseptets.symm hdigits
    have hu : UserData.Fits ⟨some header, .gsm7 septets hdigits⟩ := by
      show septets.length + 7 ≤ 160
      omega
    rw [roundTrip_of_encodesAs hu huserData hencodes (decide_eq_true hnUdh).symm
      (if_neg halphabet).symm t scTime h c, hbody]
    have hbodySize : (header.toList ++ septets).length = info.messageLength.toNat := by
      rw [List.length_append, header.toList_length, hsize, Nat.add_comm, hlength]
    have hlengthEq := (congrArg UInt8.ofNat hbodySize).trans (ofNat_messageLength info)
    exact (and_iff_right hlengthEq).trans ((List.append_right_inj _).trans eq_comm)
  · refine iff_of_false ?_ fun h => hfits h.1
    rintro ⟨userData, -, -, huserData, -⟩
    rw [tpUserData_long hlimit hnUdh halphabet (hchars ▸ not_le.mp hfits)] at huserData
    cases huserData

/-- **A message is sent back** if and only if it is not empty, and, where it is a part in GSM7, its text
is not cut at a null character. -/
theorem roundTrip_iff : info.RoundTrip t scTime h c ↔
    (info.nUdh ≠ 1 → info.messageLength ≠ 0) ∧
      (info.nUdh = 1 → info.alphabetType ≠ 3 → info.NullTerminated) := by
  by_cases hnUdh : info.nUdh = 1
  · by_cases halphabet : info.alphabetType = 3
    · refine iff_of_true (roundTrip_unicode_part hlimit t scTime h c hnUdh halphabet) ?_
      exact ⟨fun h => absurd hnUdh h, fun _ h => absurd halphabet h⟩
    · rw [roundTrip_gsm7_part hlimit t scTime h c hnUdh halphabet]
      exact ⟨fun h => ⟨fun h' => absurd hnUdh h', fun _ _ => h⟩, fun h => h.2 hnUdh halphabet⟩
  · rw [roundTrip_whole hlimit t scTime h c hnUdh]
    exact ⟨fun h => ⟨fun _ => h, fun h' => absurd h' hnUdh⟩, fun h => h.1 hnUdh⟩

omit hlimit

/-- The second part of two, with the text "Hi". -/
theorem roundTrip_part : TapiNettextInfo.RoundTrip { TapiNettextInfo.zero with
    nUdh := 1
    messageLength := 7
    messageBody := ⟨[0, 3, 1, 2, 2, 0x48, 0x69] ++ List.replicate 153 0, rfl⟩ } 1 0
    ⟨false, 0, [1, 2, 3], 0x91, 0, by decide⟩ ⟨[4, 5], 0x91, by decide, by decide⟩ := by
  refine (roundTrip_iff ?_ ..).mpr ⟨fun h => absurd rfl h, fun _ _ => ?_⟩
  · constructor
    case notMms => decide
    case header => decide
    case unicode => decide
    case gsm7 => decide
    case septets => decide
  · unfold TapiNettextInfo.NullTerminated
    decide

/-- Of the text "@A", whose first septet is 0, two septets 0 come back. -/
theorem not_roundTrip_at : ¬∀ (info : TapiNettextInfo) (t : RilToken) (scTime : UInt32)
    (h : SubmitHeader) (c : ServiceCentre), info.WithinLimit → info.RoundTrip t scTime h c := by
  intro h
  have hback := h
    { TapiNettextInfo.zero with
      nUdh := 1
      messageLength := 7
      messageBody := ⟨[0, 3, 1, 2, 2, 0, 0x41] ++ List.replicate 153 0, rfl⟩ } 1 0
    ⟨false, 0, [1, 2, 3], 0x91, 0, by decide⟩ ⟨[4, 5], 0x91, by decide, by decide⟩
    (by
      constructor
      case notMms => decide
      case header => decide
      case unicode => decide
      case gsm7 => decide
      case septets => decide)
  exact absurd hback.bodyBack (by decide +kernel)

end Messages

end Mocha.Ril
