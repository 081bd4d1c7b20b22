import Mocha.Ril.DeliverBounds

/-! The strings of the arrays are those of the message as it is put together from its fields. -/
namespace Mocha.Ril
open Mocha.Lib Mocha.Lib.StringOp

section Numbers

theorem padNumber_eq_some {n : ℕ} {number s : CString} (h : padNumber n number = some s) :
    s = padded number ∧ (0 < number.length % 2 → number.length + 2 ≤ n) := by
  unfold padNumber at h
  unfold padded
  split_ifs at h ⊢ with hodd hfits
  · exact ⟨(Option.some.inj h).symm, fun _ => hfits⟩
  · exact ⟨(Option.some.inj h).symm, fun hpos => absurd hpos hodd⟩

theorem sprintf02x_eq_some {n : ℕ} {s : CString} (h : sprintf02x n = some s) : s = format02x n := by
  unfold sprintf02x at h
  unfold format02x
  split_ifs at h with hlt
  rw [if_pos hlt]
  exact (Option.some.inj h).symm

theorem format02d_twoDigits : ∀ n < 100, format02d (n : ℕ) = twoDigits n := by decide +kernel

theorem format02d_negative : ∀ n < 9, format02d (Int.negSucc n) = [0x2D, 0x30 + UInt8.ofNat (n + 1)] := by
  decide +kernel

theorem sprintf02d_eq_some {n : ℤ} {s : CString} (h : sprintf02d n = some s) :
    s = format02d n ∧ -9 ≤ n ∧ n ≤ 99 := by
  unfold sprintf02d at h
  split_ifs at h with hpos hneg
  · obtain ⟨m, rfl⟩ := Int.eq_ofNat_of_zero_le hpos.1
    refine ⟨?_, by omega, hpos.2⟩
    rw [format02d_twoDigits m (by omega)]
    exact (Option.some.inj h).symm
  · refine ⟨?_, hneg.1, by omega⟩
    cases n with
    | ofNat m => exact absurd hneg.2 (by simp)
    | negSucc m =>
      rw [format02d_negative m (by omega)]
      exact (Option.some.inj h).symm

/-- The octets are those of the model that follows the writes inside the buffer only. -/
theorem ascii2gsm7_eq_some {ascii enc : List UInt8} (h : ascii2gsm7 ascii = some enc) :
    ascii2gsm7Octets ascii = enc := by
  rw [ascii2gsm7_updates] at h
  unfold ascii2gsm7Octets
  generalize List.replicate ((7 * ascii.length + 7) / 8) (0 : UInt8) = start at h ⊢
  generalize ascii2gsm7Updates ascii 0 = updates at h ⊢
  induction updates generalizing start with
  | nil => exact Option.some.inj h
  | cons p updates ih =>
    rw [updateAll, List.foldlM_cons, Option.bind_eq_bind] at h
    obtain ⟨enc', hor, hrest⟩ := Option.bind_eq_some_iff.mp h
    rw [List.foldl_cons]
    have henc : start.modify p.1.toNat (· ||| p.2) = enc' := by
      unfold orAt at hor
      split_ifs at hor with hzero
      · obtain rfl := Option.some.inj hor
        rw [hzero]
        simp only [UInt8.or_zero]
        exact List.modify_id ..
      · exact Option.some.inj hor
    rw [henc]
    exact ih enc' hrest

end Numbers

section Fields

variable {info : TapiNettextInfo}

theorem arrayString_eq_some {n : ℕ} {a : List.Vector UInt8 n} {s : CString} (h : arrayString a = some s) :
    s = bufferString a.toList := by
  unfold arrayString at h
  dsimp only at h
  split_ifs at h
  exact (Option.some.inj h).symm

/-- SCA, which leaves room for the `F`. -/
theorem sca_eq_some {sca : CString} (h : info.sca = some sca) :
    written (on .pdu info.scaOps) = sca ∧ info.smscLength ≠ 23 := by
  obtain ⟨number, hnumber, h⟩ := Option.bind_eq_some_iff.mp h
  obtain rfl := arrayString_eq_some hnumber
  obtain ⟨numberSmsc, hpad, h⟩ := Option.bind_eq_some_iff.mp h
  obtain ⟨rfl, hroom⟩ := padNumber_eq_some hpad
  refine ⟨?_, fun hlast => ?_⟩
  · rw [on_pdu_scaOps]
    split_ifs at h ⊢
    · obtain ⟨len, hlen, h⟩ := Option.bind_eq_some_iff.mp h
      obtain rfl := sprintf02x_eq_some hlen
      obtain rfl := Option.some.inj h
      simp only [written_cons, text, Option.getD_some, written_swapOps, List.append_assoc]
    · obtain rfl := Option.some.inj h
      rfl
  · change (bufferString info.smsc.toList).length = 23 at hlast
    omega

theorem data2string_pos {data : List UInt8} {string : CString} (h : data2string data = some string) :
    0 < data.length := by
  unfold data2string at h
  split_ifs at h with hzero
  exact Nat.pos_of_ne_zero hzero

/-- TP-OA, whose text is not null. -/
theorem tpOa_eq_some {tpOa : CString} (h : info.tpOa = some tpOa) :
    written (on .pdu info.oaOps) = tpOa ∧ (info.tonFromNumber = 5 → 0 < info.fromLength) := by
  obtain ⟨numberOa, hnumber, h⟩ := Option.bind_eq_some_iff.mp h
  obtain rfl := arrayString_eq_some hnumber
  rw [on_pdu_oaOps]
  by_cases hton : info.tonFromNumber = 5
  · rw [if_pos hton] at h ⊢
    obtain ⟨numberTmp, htmp, h⟩ := Option.bind_eq_some_iff.mp h
    obtain ⟨number, hstring, h⟩ := Option.bind_eq_some_iff.mp h
    obtain ⟨len, hlen, h⟩ := Option.bind_eq_some_iff.mp h
    obtain rfl := sprintf02x_eq_some hlen
    obtain rfl := Option.some.inj h
    have hoctets := ascii2gsm7_eq_some htmp
    have hpos := data2string_pos (hoctets ▸ hstring)
    rw [ascii2gsm7Octets_length] at hpos
    refine ⟨?_, fun _ => ?_⟩
    · simp only [written_cons, written_nil, text, Option.getD_some, List.append_assoc,
        hoctets, hstring, List.append_nil]
    · change 0 < (bufferString info.szFromNumber.toList).length
      omega
  · rw [if_neg hton] at h ⊢
    obtain ⟨number, hpad, h⟩ := Option.bind_eq_some_iff.mp h
    obtain ⟨rfl, -⟩ := padNumber_eq_some hpad
    obtain ⟨len, hlen, h⟩ := Option.bind_eq_some_iff.mp h
    obtain rfl := sprintf02x_eq_some hlen
    obtain rfl := Option.some.inj h
    refine ⟨?_, fun heq => absurd heq hton⟩
    simp only [written_cons, text, Option.getD_some, written_swapOps, List.append_assoc]

theorem timeStamp_eq_some {time : UInt32} {tpScts : CString} (h : info.timeStamp time = some tpScts) :
    info.tpScts time = tpScts ∧
      -9 ≤ info.timeZone.toInt32.toInt ∧ info.timeZone.toInt32.toInt ≤ 99 := by
  obtain ⟨timeZone, hzone, h⟩ := Option.bind_eq_some_iff.mp h
  obtain ⟨rfl, hlow, hhigh⟩ := sprintf02d_eq_some hzone
  refine ⟨?_, hlow, hhigh⟩
  rw [TapiNettextInfo.tpScts, List.take_of_length_le]
  · exact Option.some.inj h
  · exact (timeText_length (format02d_zone ⟨hlow, hhigh⟩) time).le

/-- What the branches for the user data agree on. -/
structure UserDataOps.Agrees (ops : UserDataOps) (userData : TpUserData) : Prop where
  dcs : ops.dcs = userData.dcs
  tpUdl : format02x ops.messageLength = userData.tpUdl
  tpUd : ops.tpUd = some userData.tpUd

variable {n : ℕ} {body : List UInt8} {userData : TpUserData}

theorem readAt_zero_eq_some {l bytes : List UInt8} (h : readAt l 0 n = some bytes) : bytes = l.take n := by
  unfold readAt at h
  split_ifs at h
  exact (Option.some.inj h).symm

theorem unicodeUserData_agrees {dcs : ℕ} {nUdh : UInt8}
    (h : unicodeUserData dcs nUdh n body = some userData) :
    (unicodeOps dcs nUdh n body).Agrees userData ∧ 0 < n := by
  obtain ⟨bytes, hread, h⟩ := Option.bind_eq_some_iff.mp h
  obtain rfl := readAt_zero_eq_some hread
  obtain ⟨message, hmessage, h⟩ := Option.bind_eq_some_iff.mp h
  obtain ⟨tpUdl, htpUdl, h⟩ := Option.bind_eq_some_iff.mp h
  obtain rfl := sprintf02x_eq_some htpUdl
  obtain rfl := Option.some.inj h
  have hpos := data2string_pos hmessage
  rw [List.length_take] at hpos
  refine ⟨?_, by omega⟩
  unfold unicodeOps
  rw [hmessage]
  split_ifs with hnUdh
  · exact ⟨rfl, rfl, rfl⟩
  · exact ⟨rfl, rfl, rfl⟩

theorem gsm7UserData_agrees (h : gsm7UserData n body = some userData) :
    (gsm7Ops n body).Agrees userData ∧ 0 < n := by
  obtain ⟨bytes, hread, h⟩ := Option.bind_eq_some_iff.mp h
  obtain rfl := readAt_zero_eq_some hread
  obtain ⟨messageTmp, htmp, h⟩ := Option.bind_eq_some_iff.mp h
  obtain ⟨tpUd, htpUd, h⟩ := Option.bind_eq_some_iff.mp h
  obtain ⟨tpUdl, htpUdl, h⟩ := Option.bind_eq_some_iff.mp h
  obtain rfl := sprintf02x_eq_some htpUdl
  obtain rfl := Option.some.inj h
  obtain rfl := ascii2gsm7_eq_some htmp
  have hpos := data2string_pos htpUd
  rw [ascii2gsm7Octets_length, List.length_take] at hpos
  exact ⟨⟨rfl, rfl, htpUd⟩, by omega⟩

theorem take_append_zeros {l : List UInt8} {k k' : ℕ} (h : n ≤ l.length + k) (h' : n ≤ l.length + k') :
    (l ++ List.replicate k 0).take n = (l ++ List.replicate k' 0).take n := by
  rw [List.take_append, List.take_append, List.take_replicate, List.take_replicate]
  congr 2
  omega

theorem gsm7PartUserData_agrees (h : gsm7PartUserData n body = some userData) :
    (gsm7PartOps n body).Agrees userData ∧ ∃ i, 5 ≤ i ∧ i ≤ n ∧ body[i]? = some 0 := by
  obtain ⟨text, htext, h⟩ := Option.bind_eq_some_iff.mp h
  dsimp only at h
  split_ifs at h with hroom
  obtain ⟨messageTmp, htmp, h⟩ := Option.bind_eq_some_iff.mp h
  split_ifs at h with hshort
  obtain ⟨tpUd, htpUd, h⟩ := Option.bind_eq_some_iff.mp h
  obtain ⟨tpUdl, htpUdl, h⟩ := Option.bind_eq_some_iff.mp h
  obtain rfl := sprintf02x_eq_some htpUdl
  obtain rfl := Option.some.inj h
  have hseven : (cString "0000000").length = 7 := rfl
  -- `calloc` has put more zeros behind the text than are packed.
  have hmessage : (cString "0000000" ++ text ++ List.replicate (n + 2) 0).take (n + 2) =
      (cString "0000000" ++ text ++ List.replicate (n + 3 - (7 + text.length)) 0).take (n + 2) := by
    apply take_append_zeros
    · omega
    · rw [List.length_append, hseven]
      omega
  have hoctets := ascii2gsm7_eq_some htmp
  constructor
  · refine ⟨rfl, rfl, ?_⟩
    unfold gsm7PartOps
    simp only [htext, Option.getD_some, hmessage, hoctets]
    exact htpUd
  · rw [← gsm7PartOps_fits]
    exact ⟨rfl, gsm7PartOps_message.mpr ⟨text, htext, by omega⟩, Option.some_ne_none _⟩

theorem tpUserData_agrees (h : info.tpUserData = some userData) :
    info.userDataOps.Agrees userData ∧ info.TextFits := by
  unfold TapiNettextInfo.tpUserData at h
  unfold TapiNettextInfo.userDataOps TapiNettextInfo.TextFits
  by_cases hunicode : info.alphabetType = 3 ∨ info.msgType = 0x10
  · have hwhole : ¬(¬(info.alphabetType = 3 ∨ info.msgType = 0x10) ∧ info.nUdh = 1) :=
      fun hpart => hpart.1 hunicode
    rw [if_pos hunicode] at h ⊢
    rw [if_neg hwhole]
    exact unicodeUserData_agrees h
  · rw [if_neg hunicode] at h ⊢
    by_cases hnUdh : info.nUdh = 1
    · rw [if_pos hnUdh] at h ⊢
      rw [if_pos ⟨hunicode, hnUdh⟩]
      exact gsm7PartUserData_agrees h
    · rw [if_neg hnUdh] at h ⊢
      rw [if_neg fun hpart => hnUdh hpart.2]
      exact gsm7UserData_agrees h

/-- What stands behind TP-OA, for a status report. -/
theorem afterOa_report {unsol : SmsUnsol} {rest : CString} (h : info.afterOa = some (unsol, rest))
    (hreport : info.dischargeTime ≠ 0) : written (on .pdu info.statusOps) = rest := by
  obtain ⟨tpScts, htime, h⟩ := Option.bind_eq_some_iff.mp h
  obtain ⟨rfl, -⟩ := timeStamp_eq_some htime
  rw [if_pos hreport] at h
  obtain ⟨dischargeTime, hdischarge, h⟩ := Option.bind_eq_some_iff.mp h
  obtain ⟨rfl, -⟩ := timeStamp_eq_some hdischarge
  obtain ⟨-, rfl⟩ := Prod.mk.inj (Option.some.inj h)
  simp only [on_pdu_statusOps, written_cons, written_nil, text, Option.getD_some, List.append_assoc,
    List.append_nil]

/-- What stands behind TP-OA, for a message. -/
theorem afterOa_message {unsol : SmsUnsol} {rest : CString} (h : info.afterOa = some (unsol, rest))
    (hmessage : info.dischargeTime = 0) :
    cString "00" ++ written (on .pdu info.messageOps) = rest ∧ info.TextFits := by
  obtain ⟨tpScts, htime, h⟩ := Option.bind_eq_some_iff.mp h
  obtain ⟨rfl, -⟩ := timeStamp_eq_some htime
  rw [if_neg (not_not.mpr hmessage)] at h
  obtain ⟨userData, huserData, h⟩ := Option.bind_eq_some_iff.mp h
  obtain ⟨hagrees, htext⟩ := tpUserData_agrees huserData
  obtain ⟨tpDcs, htpDcs, h⟩ := Option.bind_eq_some_iff.mp h
  obtain rfl := sprintf02x_eq_some htpDcs
  obtain ⟨-, rfl⟩ := Prod.mk.inj (Option.some.inj h)
  refine ⟨?_, htext⟩
  simp only [on_pdu_messageOps, written_cons, written_nil, text, hagrees.dcs, hagrees.tpUdl,
    hagrees.tpUd, Option.getD_some, List.append_assoc, List.append_nil]

end Fields

section Pdu

variable {info : TapiNettextInfo} {unsol : SmsUnsol} {pdu : CString}

theorem ipcIncomingSms_length (h : ipcIncomingSms info = some (unsol, pdu)) : pdu.length < smsPduSize := by
  obtain ⟨sca, -, h⟩ := Option.bind_eq_some_iff.mp h
  obtain ⟨tpOa, -, h⟩ := Option.bind_eq_some_iff.mp h
  obtain ⟨⟨unsol', rest⟩, -, h⟩ := Option.bind_eq_some_iff.mp h
  dsimp only at h
  split_ifs at h with hlength
  obtain ⟨-, rfl⟩ := Prod.mk.inj (Option.some.inj h)
  exact hlength

/-- What is appended to the PDU are its fields. -/
theorem written_pdu (h : ipcIncomingSms info = some (unsol, pdu)) : written (info.opsOn .pdu) = pdu := by
  obtain ⟨sca, tpOa, rest, hsca, htpOa, hrest, rfl⟩ := ipcIncomingSms_fields h
  obtain ⟨hscaWritten, -⟩ := sca_eq_some hsca
  obtain ⟨htpOaWritten, -⟩ := tpOa_eq_some htpOa
  have hhead : written (on .pdu info.scaOps ++ [append .pdu info.pduType] ++ on .pdu info.oaOps) =
      sca ++ info.pduType ++ tpOa := by
    rw [written_append, written_append, hscaWritten, htpOaWritten, written_cons, written_nil,
      List.append_nil]
    rfl
  unfold TapiNettextInfo.opsOn
  dsimp only
  rw [written_append, hhead]
  congr 1
  by_cases hreport : info.dischargeTime ≠ 0
  · rw [if_pos hreport]
    exact afterOa_report hrest hreport
  · rw [if_neg hreport, written_cons]
    exact (afterOa_message hrest (not_not.mp hreport)).1

/-- **The PDU of a message that is followed to its end** is the string that its array holds then. -/
theorem run_ipcIncomingSms (hbounded : info.Bounded) (h : ipcIncomingSms info = some (unsol, pdu)) :
    ∃ strings, run (SmsBuffer.size info.messageLength.toNat) info.smsStrings info.smsOps = some strings ∧
      strings .pdu = pdu := by
  obtain ⟨sca, tpOa, rest, hsca, htpOa, hrest, -⟩ := ipcIncomingSms_fields h
  obtain ⟨-, hsmsc⟩ := sca_eq_some hsca
  obtain ⟨-, hnumber⟩ := tpOa_eq_some htpOa
  obtain ⟨tpScts, htime, -⟩ := Option.bind_eq_some_iff.mp hrest
  obtain ⟨-, hzone⟩ := timeStamp_eq_some htime
  have hprinted := format02d_zone hzone
  have htext : info.dischargeTime = 0 → info.TextFits := fun hmessage =>
    (afterOa_message hrest hmessage).2
  have hpdu : runOn smsPduSize [] (info.opsOn .pdu) = some pdu := by
    rw [runOn_appends (opsOn_pdu_appends hbounded hnumber hprinted htext) (Nat.succ_pos _),
      written_pdu h, List.nil_append, List.length_nil, Nat.zero_add, if_pos (ipcIncomingSms_length h)]
  have hfits : info.DeliverFits := {
    smsc := hsmsc
    number := hnumber
    timeZone := hzone
    text := htext
    total := fun hmessage =>
      (runsOn_pdu_message hbounded hnumber hprinted hmessage (htext hmessage)).mp
        (Option.isSome_of_eq_some hpdu) }
  obtain ⟨strings, hrun⟩ := Option.isSome_iff_exists.mp ((run_smsOps_isSome_iff hbounded).mpr hfits)
  have hstring := run_eq_some_iff.mp hrun .pdu
  rw [on_smsOps] at hstring
  exact ⟨strings, hrun, Option.some.inj (hstring.symm.trans hpdu)⟩

end Pdu

end Mocha.Ril
