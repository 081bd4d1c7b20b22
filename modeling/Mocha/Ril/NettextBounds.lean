import Mocha.Lib.Access
import Mocha.Ril.Gsm7Access
import Mocha.Ril.Nettext

/-! The bytes that `ril_request_send_sms_complete` reads and writes when it converts a PDU. Three
octets of the PDU and one of the SMSC say where they are. -/
namespace Mocha.Ril
open Mocha.Lib Mocha.Lib.Access

/-- The buffers of the conversion: the arguments, the decoded text, and the arrays of
`tapiNettextInfo`. -/
inductive NettextBuffer
  | pdu
  | smsc
  | message
  | szToNumber
  | SMSC
  | messageBody
deriving DecidableEq, Repr

/-- `buf[i]`. Behind the end it is taken for zero: the access is listed as one that is not inside. -/
def byteAt (buf : List UInt8) (i : ℕ) : UInt8 := buf[i]?.getD 0

/-- `pdu_tp_udl_index` -/
def pduTpUdlIndex (pdu : List UInt8) : ℕ :=
  let pduTpDaIndex := 2
  let pduTpDaLen := (byteAt pdu pduTpDaIndex).toNat
  let pduTpUdlIndex := pduTpDaIndex + pduTpDaLen / 2 + 4
  if 0 < pduTpDaLen % 2 then pduTpUdlIndex + 1 else pduTpUdlIndex

/-- What follows `pdu_tp_ud_len`. -/
def pduTpUd (pdu : List UInt8) : List UInt8 := pdu.drop (pduTpUdlIndex pdu + 1)

/-- `send_msg_type` -/
def multiPart (pdu : List UInt8) : Bool := byteAt pdu 0 = 0x41 ∨ byteAt pdu 0 = 0x61

/-- The sizes of the buffers; `message` holds the whole septets of the octets it is decoded from. -/
def NettextBuffer.size (pdu smsc : List UInt8) : NettextBuffer → ℕ
  | .pdu => pdu.length
  | .smsc => smsc.length
  | .message => 8 * (pduTpUd pdu).length / 7
  | .szToNumber => 24
  | .SMSC => 24
  | .messageBody => 160

/-- The accesses of `bcd2ascii(out, in + off, size)`. -/
def bcd2asciiAccesses (out inBuf : NettextBuffer) (off : ℕ) (size : ℤ) : List (Access NettextBuffer) :=
  [⟨inBuf, off, size⟩, ⟨out, 0, 2 * size.toNat + 1⟩]

/-- The accesses of `gsm72ascii(pdu + pdu_tp_ud_index, &message, pdu_size - pdu_tp_ud_index)`. -/
def gsm72asciiAccesses (pdu : List UInt8) : List (Access NettextBuffer) :=
  ⟨.pdu, pduTpUdlIndex pdu + 1, pdu.length - (pduTpUdlIndex pdu + 1)⟩ ::
    (gsm72asciiUpdates (pduTpUd pdu) 0 0).map fun p => ⟨.message, p.1, 1⟩

/-- The accesses for the user data. -/
def userDataAccesses (pdu : List UInt8) : List (Access NettextBuffer) :=
  let pduTpUdLen := (byteAt pdu (pduTpUdlIndex pdu)).toNat
  let pduTpUdIndex := pduTpUdlIndex pdu + 1
  if byteAt pdu (pduTpUdlIndex pdu - 1) = 8 then
    if multiPart pdu then memcpy .messageBody 0 .pdu (pduTpUdIndex + 1) (pduTpUdLen - 1)
    else memcpy .messageBody 0 .pdu pduTpUdIndex pduTpUdLen
  else gsm72asciiAccesses pdu ++
    if multiPart pdu then
      memcpy .messageBody 0 .pdu (pduTpUdIndex + 1) 5 ++
        memcpy .messageBody 5 .message 7 (pduTpUdLen - 7)
    else memcpy .messageBody 0 .message 0 pduTpUdLen

/-- The accesses of the conversion, in the order of the code. The number of the part and that of the
parts are read for the log. -/
def nettextAccesses (pdu smsc : List UInt8) : List (Access NettextBuffer) :=
  let pduTpDaIndex := 2
  let pduTpDaLen := (byteAt pdu pduTpDaIndex).toNat
  let pduTpUdIndex := pduTpUdlIndex pdu + 1
  [byte .pdu 0, byte .pdu pduTpDaIndex, byte .pdu (pduTpUdlIndex pdu)] ++
    (if multiPart pdu then [byte .pdu (pduTpUdIndex + 5), byte .pdu (pduTpUdIndex + 4)] else []) ++
    byte .pdu (pduTpDaIndex + 1) ::
    bcd2asciiAccesses .szToNumber .pdu (pduTpDaIndex + 2) (addressOctets pduTpDaLen) ++
    [byte .smsc 1, byte .smsc 0] ++
    bcd2asciiAccesses .SMSC .smsc 2 ((byteAt smsc 0).toNat - 1) ++
    byte .pdu (pduTpUdlIndex pdu - 1) :: userDataAccesses pdu

/-- The conversion reads and writes inside the buffers, and no length is negative. -/
def ConvertsInBounds (pdu smsc : List UInt8) : Prop :=
  AllInside (NettextBuffer.size pdu smsc) (nettextAccesses pdu smsc)

/-- The message is answered by the error path. -/
def RefusedByError (s : SmsData) (info : RilRequestSendSmsInfo) : Prop :=
  ∃ fuel s' out, rilRequestSendSmsComplete fuel s info = some (s', out) ∧
    .complete ⟨info.token, .smsSendFailRetry, none⟩ ∈ out

/-- The user data are as long as their length says, and fit into `messageBody`. -/
def UserDataFits (pdu : List UInt8) : Prop :=
  let pduTpUdLen := (byteAt pdu (pduTpUdlIndex pdu)).toNat
  if byteAt pdu (pduTpUdlIndex pdu - 1) = 8 then
    pduTpUdLen ≤ (pduTpUd pdu).length ∧
      if multiPart pdu then 1 ≤ pduTpUdLen ∧ pduTpUdLen ≤ 161 else pduTpUdLen ≤ 160
  else
    UnusedBitsZero (pduTpUd pdu) ∧
      if multiPart pdu then
        7 ≤ pduTpUdLen ∧ pduTpUdLen ≤ 162 ∧ (pduTpUdLen = 7 ∨ pduTpUdLen ≤ 8 * (pduTpUd pdu).length / 7)
      else pduTpUdLen ≤ 160 ∧ pduTpUdLen ≤ 8 * (pduTpUd pdu).length / 7

/-- The lengths in a PDU and an SMSC agree with their sizes and with the arrays. -/
structure LengthsFit (pdu smsc : List UInt8) : Prop where
  udl : pduTpUdlIndex pdu < pdu.length
  da : (byteAt pdu 2).toNat ≤ 22
  parts : multiPart pdu → 6 ≤ (pduTpUd pdu).length
  smscToa : 2 ≤ smsc.length
  smscPos : 1 ≤ (byteAt smsc 0).toNat
  smscLe : (byteAt smsc 0).toNat ≤ 12
  smscRead : (byteAt smsc 0).toNat + 1 ≤ smsc.length
  userData : UserDataFits pdu

section Bounds

variable {pdu smsc : List UInt8}

theorem pduTpUdlIndex_eq (pdu : List UInt8) :
    pduTpUdlIndex pdu = 6 + addressOctets (byteAt pdu 2).toNat := by
  unfold pduTpUdlIndex addressOctets
  dsimp only
  split_ifs <;> omega

theorem pduTpUd_length (pdu : List UInt8) :
    (pduTpUd pdu).length = pdu.length - (pduTpUdlIndex pdu + 1) := List.length_drop

theorem allInside_bcd2ascii {size : NettextBuffer → ℕ} {out inBuf : NettextBuffer} {off : ℕ} {n : ℤ} :
    AllInside size (bcd2asciiAccesses out inBuf off n) ↔
      0 ≤ n ∧ (n = 0 ∨ off + n ≤ size inBuf) ∧ 2 * n + 1 ≤ size out := by
  rw [bcd2asciiAccesses, allInside_cons, allInside_singleton, inside_iff, inside_iff]
  dsimp only
  omega

/-- The updates of the decoded text as accesses. -/
theorem allInside_updates (updates : List (ℤ × UInt8)) :
    AllInside (NettextBuffer.size pdu smsc) (updates.map fun p => ⟨.message, p.1, 1⟩) ↔
      InBuffer (8 * (pduTpUd pdu).length / 7) updates := by
  unfold AllInside InBuffer
  rw [List.forall_mem_map]
  apply forall₂_congr
  intro p hp
  rw [inside_iff]
  dsimp only [NettextBuffer.size]
  omega

theorem allInside_gsm72ascii (hudl : pduTpUdlIndex pdu < pdu.length) :
    AllInside (NettextBuffer.size pdu smsc) (gsm72asciiAccesses pdu) ↔ UnusedBitsZero (pduTpUd pdu) := by
  have hupdates := inBuffer_gsm72asciiUpdates (i := 0) (pduTpUd pdu)
  rw [Nat.zero_add] at hupdates
  rw [gsm72asciiAccesses, allInside_cons, allInside_updates]
  refine (and_iff_right ?_).trans hupdates
  rw [inside_iff]
  dsimp only [NettextBuffer.size]
  omega

/-- The user data of a PDU that reaches to their length, and in a part to the text. -/
theorem allInside_userData (smsc : List UInt8) (hudl : pduTpUdlIndex pdu < pdu.length)
    (hparts : multiPart pdu → 6 ≤ (pduTpUd pdu).length) :
    AllInside (NettextBuffer.size pdu smsc) (userDataAccesses pdu) ↔ UserDataFits pdu := by
  have hlength := pduTpUd_length pdu
  unfold userDataAccesses UserDataFits
  extract_lets pduTpUdLen pduTpUdIndex
  cases hmulti : multiPart pdu with
  | false =>
    simp only [Bool.false_eq_true, if_false]
    split_ifs with hdcs
    · rw [allInside_memcpy]
      dsimp only [NettextBuffer.size, pduTpUdIndex]
      omega
    · rw [allInside_append, allInside_gsm72ascii hudl, allInside_memcpy]
      apply and_congr_right
      intro _
      dsimp only [NettextBuffer.size]
      omega
  | true =>
    have hsix := hparts hmulti
    simp only [if_true]
    split_ifs with hdcs
    · rw [allInside_memcpy]
      dsimp only [NettextBuffer.size, pduTpUdIndex]
      omega
    · rw [allInside_append, allInside_append, allInside_gsm72ascii hudl, allInside_memcpy,
        allInside_memcpy]
      apply and_congr_right
      intro _
      dsimp only [NettextBuffer.size, pduTpUdIndex]
      omega

theorem allInside_parts : AllInside (NettextBuffer.size pdu smsc)
    (if multiPart pdu then
      [byte .pdu (pduTpUdlIndex pdu + 1 + 5), byte .pdu (pduTpUdlIndex pdu + 1 + 4)] else []) ↔
      (multiPart pdu → 6 ≤ (pduTpUd pdu).length) := by
  have hlength := pduTpUd_length pdu
  split_ifs with hmulti
  · rw [forall_prop_of_true hmulti]
    simp only [allInside_cons, allInside_nil, inside_byte, NettextBuffer.size, and_true]
    omega
  · exact iff_of_true allInside_nil fun h => absurd h hmulti

/-- **The lengths decide** whether the conversion stays inside its buffers. -/
theorem convertsInBounds_iff_lengthsFit (pdu smsc : List UInt8) :
    ConvertsInBounds pdu smsc ↔ LengthsFit pdu smsc := by
  have hindex := pduTpUdlIndex_eq pdu
  have hnumber : 2 * addressOctets (byteAt pdu 2).toNat + 1 ≤ 24 ↔ (byteAt pdu 2).toNat ≤ 22 := by
    unfold addressOctets
    split_ifs <;> omega
  unfold ConvertsInBounds nettextAccesses
  simp only [allInside_append, allInside_cons, allInside_nil, inside_byte, allInside_bcd2ascii,
    allInside_parts, NettextBuffer.size]
  constructor
  · rintro ⟨⟨⟨⟨⟨⟨-, -, hudl, -⟩, hparts⟩, -, -, -, hda⟩, htoa, -⟩, hpos, hread, hle⟩, -, huserData⟩
    exact {
      udl := hudl
      da := hnumber.mp (by omega)
      parts := hparts
      smscToa := htoa
      smscPos := by omega
      smscLe := by omega
      smscRead := by omega
      userData := (allInside_userData smsc hudl hparts).mp huserData }
  · intro h
    have hda := hnumber.mpr h.da
    have huserData := (allInside_userData smsc h.udl h.parts).mpr h.userData
    obtain ⟨hudl, -, hparts, htoa, hpos, hle, hread, -⟩ := h
    exact ⟨⟨⟨⟨⟨⟨by omega, by omega, hudl, trivial⟩, hparts⟩, by omega, by omega, by omega, by omega⟩,
      htoa, by omega, trivial⟩, by omega, by omega, by omega⟩, by omega, huserData⟩

end Bounds

section Result

variable {pdu smsc : List UInt8}

theorem getElem?_byteAt {buf : List UInt8} {i : ℕ} (h : i < buf.length) :
    buf[i]? = some (byteAt buf i) := by
  rw [byteAt, List.getElem?_eq_getElem h, Option.getD_some]

theorem exists_readAt (l : List UInt8) (off n : ℕ) (h : off + n ≤ l.length) :
    ∃ bytes, readAt l off n = some bytes ∧ bytes.length = n := by
  refine ⟨_, if_pos h, ?_⟩
  rw [List.length_take, List.length_drop]
  omega

theorem exists_memcpyAt {n : ℕ} (dst : List.Vector UInt8 n) (off : ℕ) (src : List UInt8)
    (h : off + src.length ≤ n) : ∃ dst', memcpyAt dst off src = some dst' :=
  ⟨_, dif_pos h⟩

/-- A number of at most eleven octets is converted into an array of 24 characters. -/
theorem exists_bcd2ascii (octets : List UInt8) (h : octets.length ≤ 11) :
    ∃ number, memcpyAt (.replicate 24 0) 0 (bcd2ascii octets) = some (number : List.Vector UInt8 24) :=
  exists_memcpyAt _ _ _ (by rw [bcd2ascii_length]; omega)

/-- The user data are converted where they fit. -/
theorem exists_nettextBody_single {dcs udLen : UInt8} {ud : List UInt8} (hle : udLen.toNat ≤ 160)
    (hucs2 : dcs = 8 → udLen.toNat ≤ ud.length)
    (hgsm7 : dcs ≠ 8 → UnusedBitsZero ud ∧ udLen.toNat ≤ 8 * ud.length / 7) :
    ∃ body, nettextBody false dcs udLen ud = some body := by
  unfold nettextBody
  simp only [Bool.false_eq_true, if_false]
  split_ifs with hdcs
  · have hlength := hucs2 hdcs
    obtain ⟨text, hread, htext⟩ := exists_readAt ud 0 udLen.toNat (by omega)
    obtain ⟨messageBody, hbody⟩ := exists_memcpyAt (.replicate 160 0) 0 text (by omega)
    rw [hread, Option.bind_eq_bind, Option.bind_some, hbody]
    exact ⟨_, rfl⟩
  · obtain ⟨hzero, hlength⟩ := hgsm7 hdcs
    obtain ⟨message, hmessage, hmessageLength, -⟩ := gsm72ascii_spec ((unusedBitsZero_iff ud).mp hzero)
    obtain ⟨text, hread, htext⟩ := exists_readAt message 0 udLen.toNat (by omega)
    obtain ⟨messageBody, hbody⟩ := exists_memcpyAt (.replicate 160 0) 0 text (by omega)
    rw [hmessage, Option.bind_eq_bind, Option.bind_some, hread, Option.bind_eq_bind, Option.bind_some,
      hbody]
    exact ⟨_, rfl⟩

/-- The text of a part begins behind seven septets, which there have to be. -/
theorem exists_nettextBody_part {dcs udLen : UInt8} {ud : List UInt8} (hseven : 7 ≤ ud.length)
    (hucs2 : dcs = 8 → 1 ≤ udLen.toNat ∧ udLen.toNat ≤ 161 ∧ udLen.toNat ≤ ud.length)
    (hgsm7 : dcs ≠ 8 → UnusedBitsZero ud ∧ 7 ≤ udLen.toNat ∧ udLen.toNat ≤ 162 ∧
      udLen.toNat ≤ 8 * ud.length / 7) :
    ∃ body, nettextBody true dcs udLen ud = some body := by
  unfold nettextBody
  simp only [if_true]
  split_ifs with hdcs hzero hshort
  · obtain ⟨hpos, -, -⟩ := hucs2 hdcs
    rw [hzero] at hpos
    exact absurd hpos (by decide)
  · obtain ⟨hpos, hle, hlength⟩ := hucs2 hdcs
    obtain ⟨text, hread, htext⟩ := exists_readAt ud 1 (udLen.toNat - 1) (by omega)
    obtain ⟨messageBody, hbody⟩ := exists_memcpyAt (.replicate 160 0) 0 text (by omega)
    rw [hread, Option.bind_eq_bind, Option.bind_some, hbody]
    exact ⟨_, rfl⟩
  · obtain ⟨-, hpos, -⟩ := hgsm7 hdcs
    rw [UInt8.lt_iff_toNat_lt] at hshort
    exact absurd hshort hpos.not_gt
  · obtain ⟨hzero, hpos, hle, hlength⟩ := hgsm7 hdcs
    obtain ⟨message, hmessage, hmessageLength, -⟩ := gsm72ascii_spec ((unusedBitsZero_iff ud).mp hzero)
    obtain ⟨header, hreadHeader, hheader⟩ := exists_readAt ud 1 5 (by omega)
    obtain ⟨body, hbody⟩ := exists_memcpyAt (.replicate 160 0) 0 header (by omega)
    obtain ⟨text, hread, htext⟩ :=
      exists_readAt message 7 (udLen.toNat - 7) (by omega)
    obtain ⟨messageBody, hmessageBody⟩ := exists_memcpyAt body 5 text (by omega)
    simp only [hmessage, hreadHeader, hbody, hread, hmessageBody, Option.bind_eq_bind, Option.bind_some]
    exact ⟨_, rfl⟩

theorem exists_nettextBody (h : UserDataFits pdu)
    (hparts : multiPart pdu → 7 ≤ (pduTpUd pdu).length) :
    ∃ body, nettextBody (multiPart pdu) (byteAt pdu (pduTpUdlIndex pdu - 1))
      (byteAt pdu (pduTpUdlIndex pdu)) (pduTpUd pdu) = some body := by
  unfold UserDataFits at h
  dsimp only at h
  cases hmulti : multiPart pdu with
  | false =>
    rw [hmulti] at h
    simp only [Bool.false_eq_true, if_false] at h
    split_ifs at h with hdcs
    · exact exists_nettextBody_single h.2 (fun _ => h.1) fun hne => absurd hdcs hne
    · exact exists_nettextBody_single h.2.1 (fun heq => absurd heq hdcs) fun _ => ⟨h.1, h.2.2⟩
  | true =>
    have hseven := hparts hmulti
    rw [hmulti] at h
    simp only [if_true] at h
    split_ifs at h with hdcs
    · exact exists_nettextBody_part hseven (fun _ => ⟨h.2.1, h.2.2, h.1⟩) fun hne => absurd hdcs hne
    · obtain ⟨hzero, hpos, hle, hlength⟩ := h
      exact exists_nettextBody_part hseven (fun heq => absurd heq hdcs)
        fun _ => ⟨hzero, hpos, hle, by omega⟩

/-- **The conversion has a result** where the lengths fit, if a part goes on behind its header. -/
theorem exists_nettextOfPdu (scTime : UInt32) (h : LengthsFit pdu smsc)
    (hparts : multiPart pdu → 7 ≤ (pduTpUd pdu).length) :
    ∃ mess, nettextOfPdu scTime pdu smsc = some mess := by
  have hindex := pduTpUdlIndex_eq pdu
  obtain ⟨body, hbody⟩ := exists_nettextBody h.userData hparts
  obtain ⟨hudl, hda, -, htoa, hpos, hle, hread, -⟩ := h
  have hda' : addressOctets (byteAt pdu 2).toNat ≤ 11 := by
    unfold addressOctets
    split_ifs <;> omega
  obtain ⟨octets, hoctets, hlength⟩ := exists_readAt pdu (2 + 2)
    (addressOctets (byteAt pdu 2).toNat) (by omega)
  obtain ⟨szToNumber, hnumber⟩ := exists_bcd2ascii octets (by omega)
  obtain ⟨smscOctets, hsmscOctets, hsmscLength⟩ := exists_readAt smsc 2
    ((byteAt smsc 0).toNat - 1) (by omega)
  obtain ⟨smscNumber, hsmsc⟩ := exists_bcd2ascii smscOctets (by omega)
  have hpdu : ∀ i, i < 7 → pdu[i]? = some (byteAt pdu i) := fun i hi => getElem?_byteAt (by omega)
  have hudl' := getElem?_byteAt hudl
  have hdcs : pdu[pduTpUdlIndex pdu - 1]? = some (byteAt pdu (pduTpUdlIndex pdu - 1)) :=
    getElem?_byteAt (by omega)
  have hsmsc' : ∀ i, i < 2 → smsc[i]? = some (byteAt smsc i) := fun i hi => getElem?_byteAt (by omega)
  have hudlIndex : (if 0 < (byteAt pdu 2).toNat % 2 then 2 + (byteAt pdu 2).toNat / 2 + 4 + 1
      else 2 + (byteAt pdu 2).toNat / 2 + 4) = pduTpUdlIndex pdu := rfl
  have hmulti : decide (byteAt pdu 0 = 0x41 ∨ byteAt pdu 0 = 0x61) = multiPart pdu := rfl
  rw [pduTpUd] at hbody
  unfold nettextOfPdu
  simp only [hpdu 0 (by omega), hpdu 2 (by omega), hpdu (2 + 1) (by omega), hudlIndex, hudl', hdcs,
    hoctets, hnumber, hsmsc' 0 (by omega), hsmsc' 1 (by omega), hsmscOctets, hsmsc, hmulti, hbody,
    Option.bind_eq_bind, Option.bind_some, Option.pure_def]
  exact ⟨_, rfl⟩

end Result

section Checks

variable {s : SmsData} {info : RilRequestSendSmsInfo}

/-- The error path is taken for what the two checks refuse only. -/
theorem not_refusedByError (hchecks : info.refused = false) : ¬RefusedByError s info := by
  rintro ⟨fuel, s', out, hcomplete, hmem⟩
  cases fuel with
  | zero => cases hcomplete
  | succ fuel =>
    rw [rilRequestSendSmsComplete, if_neg (by rw [hchecks]; decide)] at hcomplete
    obtain ⟨-, rfl⟩ := Prod.mk.inj (Option.some.inj hcomplete)
    simp at hmem

/-- The message that is made of a PDU and an SMSC, with their sizes. -/
def sendSmsInfoOf (t : RilToken) (pdu smsc : List UInt8) : RilRequestSendSmsInfo :=
  ⟨some pdu, pdu.length, some smsc, smsc.length, t⟩

/-- **A message that passes the checks** is converted inside the buffers, or answered by the error
path, just when its lengths fit. -/
theorem convertsInBounds_or_refused_iff (s : SmsData) (t : RilToken) (pdu smsc : List UInt8)
    (hchecks : (sendSmsInfoOf t pdu smsc).refused = false) :
    ConvertsInBounds pdu smsc ∨ RefusedByError s (sendSmsInfoOf t pdu smsc) ↔ LengthsFit pdu smsc := by
  rw [or_iff_left (not_refusedByError hchecks)]
  exact convertsInBounds_iff_lengthsFit pdu smsc

/-- A PDU with the letter A, to a number of two digits, and the number of a service centre. -/
theorem convertsInBounds_or_refused_letter :
    ConvertsInBounds [0x01, 0x00, 0x02, 0x81, 0x21, 0x00, 0x00, 0x01, 0x41] [0x02, 0x91, 0x21] ∨
      RefusedByError .init (sendSmsInfoOf 1 [0x01, 0x00, 0x02, 0x81, 0x21, 0x00, 0x00, 0x01, 0x41]
        [0x02, 0x91, 0x21]) := by
  apply (convertsInBounds_or_refused_iff .init 1 _ _ (by decide)).mpr
  have huserData : UserDataFits [0x01, 0x00, 0x02, 0x81, 0x21, 0x00, 0x00, 0x01, 0x41] := by
    unfold UserDataFits
    dsimp only
    rw [if_neg (by decide), if_neg (by decide)]
    refine ⟨?_, by decide, by decide⟩
    intro c hc
    obtain rfl := Option.some.inj hc
    decide
  exact {
    udl := by decide
    da := by decide
    parts := fun hmulti => absurd hmulti (by decide)
    smscToa := by decide
    smscPos := by decide
    smscLe := by decide
    smscRead := by decide
    userData := huserData }

/-- The same PDU with no service centre, as an SMSC of a single null octet says. -/
theorem not_convertsInBounds_or_refused : ¬∀ (s : SmsData) (t : RilToken) (pdu smsc : List UInt8),
    (sendSmsInfoOf t pdu smsc).refused = false →
      ConvertsInBounds pdu smsc ∨ RefusedByError s (sendSmsInfoOf t pdu smsc) := by
  intro h
  have hchecks : (sendSmsInfoOf 1 [0x01, 0x00, 0x02, 0x81, 0x21, 0x00, 0x00, 0x01, 0x41]
      [0x00]).refused = false := by decide
  rcases h .init 1 _ _ hchecks with hbounds | hrefused
  · have hsmsc := ((convertsInBounds_iff_lengthsFit _ _).mp hbounds).smscToa
    exact absurd hsmsc (by decide)
  · exact not_refusedByError hchecks hrefused

end Checks

end Mocha.Ril
