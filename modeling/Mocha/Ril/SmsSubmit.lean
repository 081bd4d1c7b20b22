import Mocha.Ril.Nettext

/-! Outgoing messages: the packet for the modem against the message that its PDU was built from. -/
namespace Mocha.Ril
open Mocha.Lib

/-- The request with which a PDU is sent. -/
def smsInfo (t : RilToken) (pdu smsc : List UInt8) : RilRequestSendSmsInfo :=
  ⟨some pdu, pdu.length, some smsc, smsc.length, t⟩

/-- `ril_request_send_sms_complete` sends a message, as the packet `mess`. -/
def Sends (info : RilRequestSendSmsInfo) (scTime : UInt32) (mess : TapiNettextInfo) : Prop :=
  (∀ fuel s, rilRequestSendSmsComplete (fuel + 1) s info =
    some (s, [.tapiNettextSetNetBurst 0, .tapiNettextSend info])) ∧ info.nettext scTime = some mess

/-- The type of number in a type-of-address octet. -/
def typeOfNumber (toa : UInt8) : UInt8 := toa >>> 4 &&& 7

/-- The fields of a packet are those of the message. -/
structure CarriesFields (m : SmsSubmit) (mess : TapiNettextInfo) : Prop where
  szToNumber : bufferString mess.szToNumber.toList = m.header.number.map digitChar
  lengthToNumber : mess.lengthToNumber.toNat = m.header.number.length
  tonToNumber : mess.tonToNumber = typeOfNumber m.header.toa
  smsc : bufferString mess.smsc.toList = m.centre.number.map digitChar
  lengthSmsc : mess.lengthSmsc.toNat = m.centre.number.length
  bSrr : mess.bSrr = if m.header.statusReport then 1 else 0
  nUdh : mess.nUdh = if m.userData.header.isSome then 1 else 0
  alphabetType : mess.alphabetType = m.userData.alphabetType
  messageLength : mess.messageLength.toNat = m.userData.body.length
  messageBody : mess.messageBody.toList.take mess.messageLength.toNat = m.userData.body

section

variable {h : SubmitHeader} {c : ServiceCentre} {u : UserData}

theorem UserData.Fits.octets_length_le (hu : u.Fits) : u.octets.length ≤ 140 := by
  have hle := hu.udl_le
  obtain ⟨header, text⟩ := u
  cases text with
  | gsm7 septets hseptets =>
    cases header with
    | none =>
      have hudl : septets.length ≤ 160 := hle
      simp only [UserData.octets, leBytes_length]
      omega
    | some header =>
      have hudl : septets.length + 7 ≤ 160 := hle
      simp only [UserData.octets, List.length_append, List.length_cons, leBytes_length,
        header.toList_length]
      omega
  | ucs2 octets =>
    have hudl : octets.length + (UserData.headerOctets ⟨header, .ucs2 octets⟩).length ≤ 140 := hu
    rw [UserData.octets, List.length_append]
    omega

theorem UserData.Fits.body_length_le (hu : u.Fits) : u.body.length ≤ 160 := by
  have hle := hu.udl_le
  obtain ⟨header, text⟩ := u
  cases header with
  | none => cases text with
    | gsm7 septets _ => exact hle
    | ucs2 octets => exact hle
  | some header => cases text with
    | gsm7 septets _ =>
      have hudl : septets.length + 7 ≤ 160 := hle
      rw [UserData.body, List.length_append, Option.elim_some, header.toList_length]
      dsimp only
      omega
    | ucs2 octets =>
      have hudl : octets.length + (header.toList.length + 1) ≤ 160 := hle
      rw [UserData.body, List.length_append, Option.elim_some]
      dsimp only
      omega

theorem centre_octets_length (c : ServiceCentre) : c.octets.length ≤ 12 := by
  have hle := c.number_le
  simp only [ServiceCentre.octets, List.length_append, List.length_cons, List.length_nil,
    semiOctets_length]
  omega

/-- **A message that fits is sent**, as the packet that its PDU is converted to. -/
theorem sends_tpdu (t : RilToken) (scTime : UInt32) (h : SubmitHeader) (c : ServiceCentre)
    (hu : u.Fits) : ∃ mess, Sends (smsInfo t
      (h.octets u.header.isSome u.dcs ++ UInt8.ofNat u.udl :: u.octets) c.octets) scTime mess ∧
        Converted h c u mess := by
  obtain ⟨mess, hmess, hconverted⟩ := nettextOfPdu_octets scTime h c hu
  refine ⟨mess, ⟨?_, hmess⟩, hconverted⟩
  intro fuel s
  rw [rilRequestSendSmsComplete, if_neg]
  rw [RilRequestSendSmsInfo.refused, decide_eq_true_iff]
  have hh := h.number_le
  have hsmsc := centre_octets_length c
  have hoctets := hu.octets_length_le
  have hpdu : (h.octets u.header.isSome u.dcs ++ UInt8.ofNat u.udl :: u.octets).length ≤ 157 := by
    rw [List.length_append, submitHeader_length, semiOctets_length, List.length_cons]
    omega
  rintro (h0 | h0 | h0 | h0 | h0)
  · cases h0
  · cases List.eq_nil_of_length_eq_zero h0
  · cases h0
  · cases List.eq_nil_of_length_eq_zero h0
  · dsimp only [smsInfo] at h0
    omega

theorem tonToNumber_iff (toa : UInt8) :
    (if toa = 0x91 then 1 else 0) = typeOfNumber toa ↔ toa = 0x91 ∨ typeOfNumber toa = 0 := by
  by_cases htoa : toa = 0x91
  · subst htoa
    exact iff_of_true rfl (.inl rfl)
  · rw [if_neg htoa, or_iff_right htoa, eq_comm]

end

/-- **The packet carries the fields of the message** if and only if the number of the service centre
has no filler, and the type of the destination's number is international, as 0x91 says, or unknown. -/
theorem carriesFields_iff (m : SmsSubmit) (t : RilToken) (scTime : UInt32) :
    (∃ mess, Sends (smsInfo t m.tpdu m.centre.octets) scTime mess ∧ CarriesFields m mess) ↔
      m.centre.number.length % 2 = 0 ∧
        (m.header.toa = 0x91 ∨ typeOfNumber m.header.toa = 0) := by
  obtain ⟨mess, hsends, hconverted⟩ := sends_tpdu t scTime m.header m.centre m.fits
  have hnumber := m.header.number_le
  have hcentre := m.centre.number_le
  have hbody := m.fits.body_length_le
  have hton := hconverted.tonToNumber
  have hlengthSmsc : mess.lengthSmsc.toNat = (m.centre.number.length + 1) / 2 * 2 := by
    rw [hconverted.lengthSmsc, semiOctets_length, toNat_ofNat_le (by omega)]
  constructor
  · rintro ⟨mess', hsends', hfields⟩
    obtain rfl : mess' = mess := Option.some_inj.mp (hsends'.2.symm.trans hsends.2)
    constructor
    · have hlength := hfields.lengthSmsc
      omega
    · exact (tonToNumber_iff _).mp (hton.symm.trans hfields.tonToNumber)
  · rintro ⟨heven, htoa⟩
    have hlength : mess.messageLength.toNat = m.userData.body.length := by
      rw [hconverted.messageLength, toNat_ofNat_le hbody]
    refine ⟨mess, hsends, ?_⟩
    constructor
    case szToNumber => exact hconverted.number.bufferString (by omega)
    case lengthToNumber => rw [hconverted.lengthToNumber, toNat_ofNat_le (by omega)]
    case tonToNumber => exact hton.trans ((tonToNumber_iff _).mpr htoa)
    case smsc => exact hconverted.smsc.bufferString (by omega)
    case lengthSmsc => omega
    case bSrr => exact hconverted.bSrr
    case nUdh => exact hconverted.nUdh
    case alphabetType => exact hconverted.alphabetType
    case messageLength => exact hlength
    case messageBody =>
      rw [hlength]
      exact hconverted.messageBody.take

/-- Three digits of the service centre are passed on with the length 4. -/
theorem not_carriesFields_oddCentre :
    ¬∀ (m : SmsSubmit) (t : RilToken) (scTime : UInt32),
      ∃ mess, Sends (smsInfo t m.tpdu m.centre.octets) scTime mess ∧ CarriesFields m mess := by
  intro h
  obtain ⟨mess, hsends, hfields⟩ := h
    { header := ⟨false, 0, [1, 2, 3], 0x91, 0, by decide⟩
      centre := ⟨[4, 5, 6], 0x91, by decide, by decide⟩
      userData := ⟨none, .ucs2 [0, 0x41]⟩
      number_pos := by decide
      fits := (by decide : 2 ≤ 140) } 1 0
  have hlength := congrArg (Option.map fun mess => mess.lengthSmsc.toNat) hsends.2
  rw [Option.map_some, hfields.lengthSmsc] at hlength
  exact absurd hlength (by decide)

end Mocha.Ril
