import Mocha.Ril.DeliverUserData

/-! The arrays of `ipc_incoming_sms`, one by one, and the packets whose strings they have room for. -/
namespace Mocha.Ril
open Mocha.Lib Mocha.Lib.StringOp

section Lengths

variable (info : TapiNettextInfo)

/-- The characters of the number of the service centre. -/
def TapiNettextInfo.smscLength : ℕ := (bufferString info.smsc.toList).length

/-- The characters of the number of the sender. -/
def TapiNettextInfo.fromLength : ℕ := (bufferString info.szFromNumber.toList).length

/-- The length of SCA. -/
def TapiNettextInfo.scaLength : ℕ :=
  if 0 < info.smscLength then 4 + (info.smscLength + info.smscLength % 2) else 2

/-- The length of TP-OA. -/
def TapiNettextInfo.oaLength : ℕ :=
  if info.tonFromNumber = 5 then 4 + 2 * ((7 * info.fromLength + 7) / 8)
  else 4 + (info.fromLength + info.fromLength % 2)

/-- What the arrays have room for. -/
structure TapiNettextInfo.DeliverFits : Prop where
  smsc : info.smscLength ≠ 23
  number : info.tonFromNumber = 5 → 0 < info.fromLength
  timeZone : -9 ≤ info.timeZone.toInt32.toInt ∧ info.timeZone.toInt32.toInt ≤ 99
  text : info.dischargeTime = 0 → info.TextFits
  total : info.dischargeTime = 0 → info.scaLength + info.oaLength + info.tpUdLength ≤ 377

/-- The numbers end inside their fields, and the message is not longer than its own. -/
structure TapiNettextInfo.Bounded : Prop where
  smsc : info.smscLength < 24
  szFromNumber : info.fromLength < 21
  messageLength : info.messageLength.toNat ≤ 160

end Lengths

section Fragments

variable {info : TapiNettextInfo}

theorem written_swapOps_length (b : SmsBuffer) (number : CString) :
    (written (swapOps b number)).length = number.length := by
  rw [written_swapOps, swapPairs_length]

theorem TapiNettextInfo.padded_smsc_length (info : TapiNettextInfo) :
    (padded (bufferString info.smsc.toList)).length = info.smscLength + info.smscLength % 2 :=
  padded_length _

/-! The lengths that are printed have two digits each. -/

theorem sca_printed (h : info.smscLength < 24) :
    (format02x ((padded (bufferString info.smsc.toList)).length / 2 + 1)).length = 2 := by
  have hpadded := info.padded_smsc_length
  exact format02x_length (by omega)

theorem oa_printed_septets (h : info.fromLength < 21) :
    (format02x ((bufferString info.szFromNumber.toList).length * 7 * 2 / 8 +
      if 0 < (bufferString info.szFromNumber.toList).length * 7 * 2 % 8 then 1 else 0)).length = 2 := by
  change (bufferString info.szFromNumber.toList).length < 21 at h
  apply format02x_length
  split_ifs <;> omega

theorem oa_printed_digits (h : info.fromLength < 21) :
    (format02x (bufferString info.szFromNumber.toList).length).length = 2 := by
  change (bufferString info.szFromNumber.toList).length < 21 at h
  exact format02x_length (by omega)

theorem scaOps_pdu (h : info.smscLength < 24) : Appends .pdu (on .pdu info.scaOps) ∧
    (written (on .pdu info.scaOps)).length = info.scaLength := by
  have hpadded := info.padded_smsc_length
  have hpos : 0 < (padded (bufferString info.smsc.toList)).length ↔ 0 < info.smscLength := by omega
  have hlen := sca_printed h
  have hninetyOne : (cString "91").length = 2 := rfl
  unfold TapiNettextInfo.scaLength
  rw [on_pdu_scaOps, if_congr hpos rfl rfl]
  split_ifs with hsmsc
  · constructor
    · exact appends_cons.mpr (appends_cons.mpr (appends_swapOps _ _))
    · simp only [written_cons, text, Option.getD_some, List.length_append, written_swapOps_length, hlen,
        hninetyOne]
      omega
  · exact ⟨appends_cons.mpr appends_nil, rfl⟩

theorem oaOps_pdu (h : info.fromLength < 21) (hnumber : info.tonFromNumber = 5 → 0 < info.fromLength) :
    Appends .pdu (on .pdu info.oaOps) ∧ (written (on .pdu info.oaOps)).length = info.oaLength := by
  have hpadded : (padded (bufferString info.szFromNumber.toList)).length =
      info.fromLength + info.fromLength % 2 := padded_length _
  unfold TapiNettextInfo.oaLength
  rw [on_pdu_oaOps]
  by_cases hton : info.tonFromNumber = 5
  · have hoctets := ascii2gsm7Octets_length (bufferString info.szFromNumber.toList)
    have hpos : 0 < (bufferString info.szFromNumber.toList).length := hnumber hton
    obtain ⟨number, hnumber, hlength⟩ :=
      data2string_length (ascii2gsm7Octets (bufferString info.szFromNumber.toList)) (by omega)
    have hlen := oa_printed_septets h
    have hconst : (cString "D0").length = 2 := rfl
    rw [if_pos hton, if_pos hton, hnumber]
    constructor
    · exact appends_cons.mpr (appends_cons.mpr (appends_cons.mpr appends_nil))
    · simp only [written_cons, written_nil, text, Option.getD_some, List.length_append, hlen, hconst,
        hlength, hoctets, List.length_nil]
      unfold TapiNettextInfo.fromLength
      omega
  · have hlen := oa_printed_digits h
    have hconst : (if info.tonFromNumber = 1 then cString "91" else cString "81").length = 2 := by
      split_ifs <;> rfl
    rw [if_neg hton, if_neg hton]
    constructor
    · exact appends_cons.mpr (appends_cons.mpr (appends_swapOps _ _))
    · simp only [written_cons, text, Option.getD_some, List.length_append, hlen, hconst,
        written_swapOps_length, hpadded]
      omega

theorem strftime_length (tm : Tm) : (strftime tm).length = 12 := rfl

theorem timeText_length (hzone : (format02d info.timeZone.toInt32.toInt).length = 2) (time : UInt32) :
    (info.timeText time).length = 14 := by
  rw [TapiNettextInfo.timeText, List.length_append, strftime_length, hzone]

theorem tpScts_length (hzone : (format02d info.timeZone.toInt32.toInt).length = 2) (time : UInt32) :
    (info.tpScts time).length = 14 := by
  rw [TapiNettextInfo.tpScts, swapPairs_length, List.length_take_of_le]
  exact (timeText_length hzone time).ge

theorem statusOps_pdu (hzone : (format02d info.timeZone.toInt32.toInt).length = 2) :
    Appends .pdu (on .pdu info.statusOps) ∧ (written (on .pdu info.statusOps)).length = 30 := by
  have hstatus : (if info.statusReport = 0 then cString "00" else cString "01").length = 2 := by
    split_ifs <;> rfl
  rw [on_pdu_statusOps]
  constructor
  · exact appends_cons.mpr (appends_cons.mpr (appends_cons.mpr appends_nil))
  · simp only [written_cons, written_nil, text, Option.getD_some, List.length_append, List.length_nil,
      tpScts_length hzone, hstatus]

theorem userDataOps_printed (h : info.messageLength.toNat ≤ 160) :
    info.userDataOps.dcs ≤ 8 ∧ info.userDataOps.messageLength ≤ 162 := by
  unfold TapiNettextInfo.userDataOps unicodeOps gsm7PartOps gsm7Ops
  split_ifs <;> constructor <;> dsimp only <;> omega

/-- TP-DCS and TP-UDL take two characters each. -/
theorem messageOps_printed (h : info.messageLength.toNat ≤ 160) :
    (format02x (if info.bFlash = 1 ∧ info.classType = 0 then info.userDataOps.dcs + 0x10
      else info.userDataOps.dcs)).length = 2 ∧ (format02x info.userDataOps.messageLength).length = 2 := by
  obtain ⟨hdcs, hudl⟩ := userDataOps_printed h
  constructor
  · apply format02x_length
    split_ifs <;> omega
  · exact format02x_length (by omega)

theorem messageOps_pdu (hzone : (format02d info.timeZone.toInt32.toInt).length = 2)
    (hlength : info.messageLength.toNat ≤ 160) {tpUd : CString}
    (htpUd : info.userDataOps.tpUd = some tpUd) : Appends .pdu (on .pdu info.messageOps) ∧
      (written (on .pdu info.messageOps)).length = 18 + tpUd.length := by
  obtain ⟨hdcs, hudl⟩ := messageOps_printed hlength
  rw [on_pdu_messageOps, htpUd]
  constructor
  · exact appends_cons.mpr (appends_cons.mpr (appends_cons.mpr (appends_cons.mpr appends_nil)))
  · simp only [written_cons, written_nil, text, Option.getD_some, List.length_append, List.length_nil,
      tpScts_length hzone, hdcs, hudl]
    omega

end Fragments

section Bounds

variable {info : TapiNettextInfo}

/-- The operations on the array `b` stay inside it. -/
def TapiNettextInfo.RunsOn (info : TapiNettextInfo) (b : SmsBuffer) : Prop :=
  (runOn (b.size info.messageLength.toNat) (info.smsStrings b) (info.opsOn b)).isSome

theorem opsOn_smsc (info : TapiNettextInfo) :
    info.opsOn .smsc = padOps .smsc (bufferString info.smsc.toList) := by
  simp [TapiNettextInfo.opsOn, TapiNettextInfo.scaOps]

theorem opsOn_szFromNumber (info : TapiNettextInfo) :
    info.opsOn .szFromNumber = if info.tonFromNumber = 5 then []
      else padOps .szFromNumber (bufferString info.szFromNumber.toList) := by
  simp [TapiNettextInfo.opsOn, TapiNettextInfo.oaOps]

theorem runsOn_smsc (h : info.smscLength < 24) : info.RunsOn .smsc ↔ info.smscLength ≠ 23 := by
  unfold TapiNettextInfo.RunsOn
  rw [opsOn_smsc]
  refine (runOn_padOps h).trans ?_
  change (0 < info.smscLength % 2 → info.smscLength + 1 < 24) ↔ _
  omega

theorem runsOn_szFromNumber (h : info.fromLength < 21) : info.RunsOn .szFromNumber := by
  unfold TapiNettextInfo.RunsOn
  rw [opsOn_szFromNumber]
  split_ifs with hton
  · rfl
  · refine (runOn_padOps h).mpr ?_
    change 0 < info.fromLength % 2 → info.fromLength + 1 < 21
    omega

theorem timeStampOps_c (time : UInt32) :
    on .c (info.timeStampOps time) = [print .c (format02d info.timeZone.toInt32.toInt)] := by
  simp [TapiNettextInfo.timeStampOps]

/-- What is printed into `c` in front of the time zone has two characters. -/
theorem head_c (hsmsc : info.smscLength < 24) (hfrom : info.fromLength < 21) :
    ∀ op ∈ on .c info.scaOps ++ on .c info.oaOps, ∃ t, op = print .c t ∧ t.length = 2 := by
  rw [List.forall_mem_append]
  constructor
  · have hsca : on .c info.scaOps = if 0 < (padded (bufferString info.smsc.toList)).length then
        [print .c (format02x ((padded (bufferString info.smsc.toList)).length / 2 + 1))] else [] := by
      simp [TapiNettextInfo.scaOps]
    rw [hsca]
    split_ifs
    · rw [List.forall_mem_singleton]
      exact ⟨_, rfl, sca_printed hsmsc⟩
    · exact fun op hop => absurd hop List.not_mem_nil
  · have hoa : on .c info.oaOps = if info.tonFromNumber = 5 then
          [print .c (format02x ((bufferString info.szFromNumber.toList).length * 7 * 2 / 8 +
            if 0 < (bufferString info.szFromNumber.toList).length * 7 * 2 % 8 then 1 else 0))]
        else [print .c (format02x (bufferString info.szFromNumber.toList).length)] := by
      simp [TapiNettextInfo.oaOps]
    rw [hoa]
    by_cases hton : info.tonFromNumber = 5
    · rw [if_pos hton, List.forall_mem_singleton]
      exact ⟨_, rfl, oa_printed_septets hfrom⟩
    · rw [if_neg hton, List.forall_mem_singleton]
      exact ⟨_, rfl, oa_printed_digits hfrom⟩

theorem runsOn_c (hsmsc : info.smscLength < 24) (hfrom : info.fromLength < 21) : info.RunsOn .c ↔
    -9 ≤ info.timeZone.toInt32.toInt ∧ info.timeZone.toInt32.toInt ≤ 99 := by
  have hprints : ∀ op ∈ info.opsOn .c, ∃ t, op = print .c t ∧
      (t.length = 2 ∨ t = format02d info.timeZone.toInt32.toInt) := by
    intro op hop
    simp only [TapiNettextInfo.opsOn, timeStampOps_c] at hop
    rcases List.mem_append.mp hop with hop | hop
    · rcases List.mem_append.mp hop with hop | hop
      · obtain ⟨t, rfl, ht⟩ := head_c hsmsc hfrom op hop
        exact ⟨t, rfl, Or.inl ht⟩
      · exact ⟨_, List.mem_singleton.mp hop, Or.inr rfl⟩
    · split_ifs at hop
      · exact ⟨_, List.mem_singleton.mp hop, Or.inr rfl⟩
      · exact absurd hop List.not_mem_nil
  have hzone : print .c (format02d info.timeZone.toInt32.toInt) ∈ info.opsOn .c := by
    simp only [TapiNettextInfo.opsOn, timeStampOps_c]
    exact List.mem_append_left _ (List.mem_append_right _ (List.mem_singleton_self _))
  have hruns : info.RunsOn .c ↔ ∀ op ∈ info.opsOn .c, op.text.length < 3 := by
    apply runOn_prints
    intro op hop
    obtain ⟨t, ht, -⟩ := hprints op hop
    exact ⟨t, ht⟩
  rw [hruns, ← (format02d_length _).2]
  constructor
  · intro h
    exact h _ hzone
  · intro h op hop
    obtain ⟨t, rfl, ht | rfl⟩ := hprints op hop
    · exact ht.trans_lt (by decide)
    · exact h

section Zone

variable (hzone : (format02d info.timeZone.toInt32.toInt).length = 2)

include hzone

theorem timeStampOps_buf (s : CString) (time : UInt32) :
    runOn 50 s (on .buf (info.timeStampOps time)) = some (info.timeText time) := by
  have hstrftime := strftime_length (gmtime time.toInt32.toInt)
  have hops : on .buf (info.timeStampOps time) = [print .buf (strftime (gmtime time.toInt32.toInt)),
      append .buf (format02d info.timeZone.toInt32.toInt)] := by
    simp [TapiNettextInfo.timeStampOps]
  rw [hops, runOn, List.foldlM_cons, execOn, if_pos (by rw [hstrftime]; decide), Option.bind_eq_bind,
    Option.bind_some, List.foldlM_cons, execOn, if_pos (by rw [hstrftime, hzone]; decide)]
  rfl

theorem timeStampOps_tpScts (time : UInt32) :
    runOn 15 [] (on .tpScts (info.timeStampOps time)) = some (info.tpScts time) := by
  have hlength := tpScts_length hzone time
  have hwritten : written (swapOps .tpScts ((info.timeText time).take 14)) = info.tpScts time :=
    written_swapOps ..
  have hops : on .tpScts (info.timeStampOps time) = swapOps .tpScts ((info.timeText time).take 14) := by
    simp [TapiNettextInfo.timeStampOps]
  rw [hops, runOn_appends (appends_swapOps _ _) (by decide), hwritten, List.length_nil, hlength,
    if_pos (by decide)]
  rfl

theorem runsOn_buf : info.RunsOn .buf := by
  unfold TapiNettextInfo.RunsOn TapiNettextInfo.opsOn
  dsimp only [SmsBuffer.size]
  rw [runOn_append, timeStampOps_buf hzone, Option.bind_eq_bind, Option.bind_some]
  split_ifs
  · rw [statusOps_on (by decide) (by decide), timeStampOps_buf hzone]
    rfl
  · rfl

theorem runsOn_tpScts : info.RunsOn .tpScts := by
  have hstatus : on .tpScts info.statusOps =
      print .tpScts [] :: on .tpScts (info.timeStampOps info.dischargeTime) := by
    simp [TapiNettextInfo.statusOps]
  unfold TapiNettextInfo.RunsOn TapiNettextInfo.opsOn
  dsimp only [SmsBuffer.size, TapiNettextInfo.smsStrings]
  rw [runOn_append, timeStampOps_tpScts hzone, Option.bind_eq_bind, Option.bind_some]
  split_ifs
  · rw [hstatus, runOn, List.foldlM_cons, execOn, if_pos (by decide), Option.bind_eq_bind,
      Option.bind_some, ← runOn, timeStampOps_tpScts hzone]
    rfl
  · rfl

end Zone

/-- TP-DCS and TP-UDL are printed into arrays of their own. -/
theorem runsOn_printed (h : info.messageLength.toNat ≤ 160) : info.RunsOn .tpDcs ∧ info.RunsOn .tpUdl := by
  obtain ⟨hdcs, hudl⟩ := messageOps_printed h
  have hprint : ∀ (b : SmsBuffer) (t : CString), t.length = 2 → (runOn 3 [] [print b t]).isSome := by
    intro b t ht
    rw [runOn_prints fun op hop => ⟨t, List.mem_singleton.mp hop⟩, List.forall_mem_singleton]
    exact ht.trans_lt (by decide)
  have htpDcs : on .tpDcs info.messageOps = [print .tpDcs (format02x
      (if info.bFlash = 1 ∧ info.classType = 0 then info.userDataOps.dcs + 0x10
        else info.userDataOps.dcs))] := by
    simp [TapiNettextInfo.messageOps, userDataOps_on]
  have htpUdl : on .tpUdl info.messageOps =
      [print .tpUdl (format02x info.userDataOps.messageLength)] := by
    simp [TapiNettextInfo.messageOps, userDataOps_on]
  unfold TapiNettextInfo.RunsOn TapiNettextInfo.opsOn
  dsimp only
  rw [htpDcs, htpUdl]
  by_cases hreport : info.dischargeTime ≠ 0
  · rw [if_pos hreport, if_pos hreport]
    exact ⟨rfl, rfl⟩
  · rw [if_neg hreport, if_neg hreport]
    exact ⟨hprint _ _ hdcs, hprint _ _ hudl⟩

/-- A status report has no user data. -/
theorem runsOn_report (hreport : info.dischargeTime ≠ 0) : info.RunsOn .tpUd ∧ info.RunsOn .message := by
  unfold TapiNettextInfo.RunsOn TapiNettextInfo.opsOn
  dsimp only
  rw [if_pos hreport, if_pos hreport]
  exact ⟨rfl, rfl⟩

theorem runsOn_userData (hmessage : info.dischargeTime = 0) (h : info.messageLength.toNat ≤ 160) :
    info.RunsOn .tpUd ∧ info.RunsOn .message ∧ info.userDataOps.tpUd ≠ none ↔ info.TextFits := by
  rw [← userDataOps_fits h]
  unfold TapiNettextInfo.RunsOn TapiNettextInfo.opsOn
  dsimp only
  rw [if_neg (not_not.mpr hmessage), if_neg (not_not.mpr hmessage)]
  rfl

/-- No null pointer is appended to the PDU. -/
theorem runsOn_pdu_not_null (h : info.RunsOn .pdu) : (info.tonFromNumber = 5 → 0 < info.fromLength) ∧
    (info.dischargeTime = 0 → info.userDataOps.tpUd ≠ none) := by
  have hnull : append .pdu none ∉ info.opsOn .pdu := by
    intro hmem
    unfold TapiNettextInfo.RunsOn at h
    rw [runOn_null hmem] at h
    cases h
  constructor
  · intro hton
    by_contra hempty
    have hnil : bufferString info.szFromNumber.toList = [] :=
      List.eq_nil_of_length_eq_zero (Nat.eq_zero_of_not_pos hempty)
    apply hnull
    have hoa : append .pdu none ∈ on .pdu info.oaOps := by
      rw [on_pdu_oaOps, hnil, if_pos hton]
      decide
    exact List.mem_append_left _ (List.mem_append_right _ hoa)
  · intro hmessage hnone
    apply hnull
    have hud : append .pdu none ∈ on .pdu info.messageOps := by
      simp [on_pdu_messageOps, hnone]
    refine List.mem_append_right _ ?_
    rw [if_neg (not_not.mpr hmessage)]
    exact List.mem_cons_of_mem _ hud

theorem pduType_length (info : TapiNettextInfo) :
    info.pduType.length = if info.dischargeTime = 0 then 2 else 4 := by
  unfold TapiNettextInfo.pduType
  split_ifs <;> rfl

/-- The head of the PDU, up to TP-OA. -/
theorem pduHead (hbounded : info.Bounded) (hnumber : info.tonFromNumber = 5 → 0 < info.fromLength) :
    Appends .pdu (on .pdu info.scaOps ++ [append .pdu info.pduType] ++ on .pdu info.oaOps) ∧
      (written (on .pdu info.scaOps ++ [append .pdu info.pduType] ++ on .pdu info.oaOps)).length =
        info.scaLength + info.pduType.length + info.oaLength := by
  obtain ⟨hsca, hscaLength⟩ := scaOps_pdu hbounded.smsc
  obtain ⟨hoa, hoaLength⟩ := oaOps_pdu hbounded.szFromNumber hnumber
  constructor
  · rw [appends_append, appends_append]
    exact ⟨⟨hsca, appends_cons.mpr appends_nil⟩, hoa⟩
  · rw [written_append, written_append, List.length_append, List.length_append, hscaLength, hoaLength,
      written_cons, written_nil, List.append_nil]
    rfl

theorem opsOn_pdu_appends (hbounded : info.Bounded)
    (hnumber : info.tonFromNumber = 5 → 0 < info.fromLength)
    (hzone : (format02d info.timeZone.toInt32.toInt).length = 2)
    (htext : info.dischargeTime = 0 → info.TextFits) : Appends .pdu (info.opsOn .pdu) := by
  have hhead := (pduHead hbounded hnumber).1
  unfold TapiNettextInfo.opsOn
  dsimp only
  by_cases hreport : info.dischargeTime ≠ 0
  · rw [if_pos hreport]
    exact appends_append.mpr ⟨hhead, (statusOps_pdu hzone).1⟩
  · obtain ⟨tpUd, htpUd, -⟩ := userDataOps_tpUd hbounded.messageLength (htext (not_not.mp hreport))
    rw [if_neg hreport]
    exact appends_append.mpr
      ⟨hhead, appends_cons.mpr (messageOps_pdu hzone hbounded.messageLength htpUd).1⟩

/-- A status report is shorter than its array. -/
theorem runsOn_pdu_report (hbounded : info.Bounded)
    (hnumber : info.tonFromNumber = 5 → 0 < info.fromLength)
    (hzone : (format02d info.timeZone.toInt32.toInt).length = 2) (hreport : info.dischargeTime ≠ 0) :
    info.RunsOn .pdu := by
  have happends := opsOn_pdu_appends hbounded hnumber hzone fun hmessage => absurd hmessage hreport
  have hheadLength := (pduHead hbounded hnumber).2
  have hstatusLength := (statusOps_pdu hzone).2
  have htype := pduType_length info
  rw [if_neg hreport] at htype
  have hsca : info.scaLength ≤ 28 := by
    have hle := hbounded.smsc
    unfold TapiNettextInfo.scaLength
    split_ifs <;> omega
  have hoa : info.oaLength ≤ 40 := by
    have hle := hbounded.szFromNumber
    unfold TapiNettextInfo.oaLength
    split_ifs <;> omega
  unfold TapiNettextInfo.RunsOn
  rw [runOn_appends happends (Nat.succ_pos _), Option.isSome_ite]
  unfold TapiNettextInfo.opsOn
  dsimp only
  rw [if_pos hreport, written_append, List.length_append, hheadLength, hstatusLength, htype]
  change 0 + _ < 400
  omega

theorem runsOn_pdu_message (hbounded : info.Bounded)
    (hnumber : info.tonFromNumber = 5 → 0 < info.fromLength)
    (hzone : (format02d info.timeZone.toInt32.toInt).length = 2) (hmessage : info.dischargeTime = 0)
    (htext : info.TextFits) :
    info.RunsOn .pdu ↔ info.scaLength + info.oaLength + info.tpUdLength ≤ 377 := by
  have happends := opsOn_pdu_appends hbounded hnumber hzone fun _ => htext
  have hheadLength := (pduHead hbounded hnumber).2
  obtain ⟨tpUd, htpUd, htpUdLength⟩ := userDataOps_tpUd hbounded.messageLength htext
  have hopsLength := (messageOps_pdu hzone hbounded.messageLength htpUd).2
  have htype := pduType_length info
  rw [if_pos hmessage] at htype
  have hpid : (cString "00").length = 2 := rfl
  unfold TapiNettextInfo.RunsOn
  rw [runOn_appends happends (Nat.succ_pos _), Option.isSome_ite]
  unfold TapiNettextInfo.opsOn
  dsimp only
  rw [if_neg (not_not.mpr hmessage), written_append, List.length_append, hheadLength, htype,
    written_cons, List.length_append, hopsLength, text, Option.getD_some, hpid, htpUdLength]
  change 0 + _ < 400 ↔ _
  omega

/-- **The arrays have room** for the strings of a packet just when the packet fits. -/
theorem run_smsOps_isSome_iff (hbounded : info.Bounded) :
    (run (SmsBuffer.size info.messageLength.toNat) info.smsStrings info.smsOps).isSome ↔
      info.DeliverFits := by
  have hruns : (run (SmsBuffer.size info.messageLength.toNat) info.smsStrings info.smsOps).isSome ↔
      ∀ b, info.RunsOn b := by
    rw [run_isSome_iff]
    simp only [on_smsOps, TapiNettextInfo.RunsOn]
  rw [hruns]
  constructor
  · intro h
    have hzone := (runsOn_c hbounded.smsc hbounded.szFromNumber).mp (h .c)
    obtain ⟨hnumber, htpUd⟩ := runsOn_pdu_not_null (h .pdu)
    have htext : info.dischargeTime = 0 → info.TextFits := fun hmessage =>
      (runsOn_userData hmessage hbounded.messageLength).mp ⟨h .tpUd, h .message, htpUd hmessage⟩
    exact {
      smsc := (runsOn_smsc hbounded.smsc).mp (h .smsc)
      number := hnumber
      timeZone := hzone
      text := htext
      total := fun hmessage => (runsOn_pdu_message hbounded hnumber (format02d_zone hzone) hmessage
        (htext hmessage)).mp (h .pdu) }
  · intro h
    have hzone := format02d_zone h.timeZone
    obtain ⟨htpDcs, htpUdl⟩ := runsOn_printed hbounded.messageLength
    obtain ⟨hpdu, htpUd, hmessage⟩ : info.RunsOn .pdu ∧ info.RunsOn .tpUd ∧ info.RunsOn .message := by
      by_cases hdischarge : info.dischargeTime = 0
      · have htext := h.text hdischarge
        obtain ⟨htpUd, hmessage, -⟩ := (runsOn_userData hdischarge hbounded.messageLength).mpr htext
        exact ⟨(runsOn_pdu_message hbounded h.number hzone hdischarge htext).mpr (h.total hdischarge),
          htpUd, hmessage⟩
      · exact ⟨runsOn_pdu_report hbounded h.number hzone hdischarge, runsOn_report hdischarge⟩
    intro b
    cases b with
    | pdu => exact hpdu
    | c => exact (runsOn_c hbounded.smsc hbounded.szFromNumber).mpr h.timeZone
    | buf => exact runsOn_buf hzone
    | tpScts => exact runsOn_tpScts hzone
    | tpDcs => exact htpDcs
    | tpUdl => exact htpUdl
    | message => exact hmessage
    | tpUd => exact htpUd
    | smsc => exact (runsOn_smsc hbounded.smsc).mpr h.smsc
    | szFromNumber => exact runsOn_szFromNumber hbounded.szFromNumber

end Bounds

section Packet

variable {packet : NettextPacket}

/-- `ipc_incoming_sms` stays inside its arrays, appends no null string, and changes no byte of the packet
outside the two numbers. -/
def BuildsInBounds (packet : NettextPacket) : Prop :=
  let info := TapiNettextInfo.ofPacket packet
  (run (SmsBuffer.size info.messageLength.toNat) info.smsStrings info.smsOps).isSome ∧
    ∀ i, ¬(8 ≤ i ∧ i < 29) → ¬(64 ≤ i ∧ i < 88) →
      (info.smsOps.foldl (store SmsBuffer.offset) packet.toList)[i]? = packet.toList[i]?

theorem smsBuffer_layout (messageLength : ℕ) :
    Layout (SmsBuffer.size messageLength) SmsBuffer.offset tapiNettextInfoSize where
  inside := by
    intro b off hb
    cases b <;> cases hb <;> simp only [SmsBuffer.size, tapiNettextInfoSize] <;> omega
  apart := by
    intro b b' off off' hb hb' hne
    cases b <;> cases hb <;> cases b' <;> cases hb' <;> simp_all [SmsBuffer.size]

theorem zero_not_mem_bufferString (l : List UInt8) : 0 ∉ bufferString l := by
  intro hmem
  have hne := List.all_eq_true.mp List.all_takeWhile 0 hmem
  exact of_decide_eq_true hne rfl

/-- A number that ends in its field is the string that stands there. -/
theorem holdsAt_array {off n : ℕ} (hin : off + n ≤ tapiNettextInfoSize)
    (h : (bufferString (packet.array off n hin).toList).length < n) :
    HoldsAt packet.toList off (bufferString (packet.array off n hin).toList) := by
  have harray : ∀ i, i < n → (packet.array off n hin).toList[i]? = packet.toList[off + i]? := by
    intro i hi
    rw [NettextPacket.array, List.Vector.toList_mk, List.getElem?_take_of_lt hi, List.getElem?_drop]
  have hlength : (packet.array off n hin).toList.length = n := List.Vector.toList_length _
  refine ⟨zero_not_mem_bufferString _, ?_⟩
  intro i hi
  rw [← harray i (by omega)]
  rcases Nat.lt_or_ge i (bufferString (packet.array off n hin).toList).length with hlt | hge
  · rw [List.getElem?_append_left hlt, List.getElem?_eq_getElem hlt]
    exact List.prefix_iff_getElem?.mp (List.takeWhile_prefix _) i hlt
  · obtain rfl : i = (bufferString (packet.array off n hin).toList).length := by omega
    rw [getElem?_bufferString (by omega), List.getElem?_append_right le_rfl, Nat.sub_self]
    rfl

theorem represents_packet (hbounded : (TapiNettextInfo.ofPacket packet).Bounded) (messageLength : ℕ) :
    Represents (SmsBuffer.size messageLength) SmsBuffer.offset packet.toList
      (TapiNettextInfo.ofPacket packet).smsStrings := by
  intro b off hb
  cases b <;> cases hb
  case smsc => exact ⟨holdsAt_array (by decide) hbounded.smsc, hbounded.smsc⟩
  case szFromNumber => exact ⟨holdsAt_array (by decide) hbounded.szFromNumber, hbounded.szFromNumber⟩

/-- An `F` is all that is written to the packet. -/
theorem smsOps_packet (info : TapiNettextInfo) :
    ∀ op ∈ info.smsOps, SmsBuffer.offset op.buffer ≠ none → 0 ∉ op.text := by
  intro op hop hoff
  have hpad : ∀ b number, op ∈ padOps b number → 0 ∉ op.text := by
    intro b number hmem
    unfold padOps at hmem
    split_ifs at hmem
    · obtain rfl := List.mem_singleton.mp hmem
      exact (by decide : 0 ∉ cString "F")
    · exact absurd hmem List.not_mem_nil
  have hon : op ∈ info.opsOn op.buffer := by
    rw [← on_smsOps]
    exact mem_on hop
  cases hbuffer : op.buffer <;> rw [hbuffer] at hoff hon
  case smsc =>
    rw [opsOn_smsc] at hon
    exact hpad _ _ hon
  case szFromNumber =>
    rw [opsOn_szFromNumber] at hon
    split_ifs at hon
    · exact absurd hon List.not_mem_nil
    · exact hpad _ _ hon
  all_goals exact absurd rfl hoff

/-- **A packet is converted inside the arrays**, and keeps what is not one of its numbers, just when
it fits. -/
theorem buildsInBounds_iff (packet : NettextPacket)
    (hbounded : (TapiNettextInfo.ofPacket packet).Bounded) :
    BuildsInBounds packet ↔ (TapiNettextInfo.ofPacket packet).DeliverFits := by
  rw [← run_smsOps_isSome_iff hbounded]
  refine and_iff_left_of_imp ?_
  intro hrun i hfrom hsmsc
  obtain ⟨strings, hstrings⟩ := Option.isSome_iff_exists.mp hrun
  have hlayout := smsBuffer_layout (TapiNettextInfo.ofPacket packet).messageLength.toNat
  rw [← packet.toList_length] at hlayout
  obtain ⟨-, hframe⟩ := foldl_store_represents hlayout (represents_packet hbounded _) hstrings
    (smsOps_packet _)
  apply hframe
  intro b off hb
  cases b <;> cases hb
  case smsc =>
    dsimp only [SmsBuffer.size]
    omega
  case szFromNumber =>
    dsimp only [SmsBuffer.size]
    omega

/-- The letter A from the number 123. -/
theorem buildsInBounds_letter : BuildsInBounds ⟨List.replicate 8 0 ++ [0x31, 0x32, 0x33] ++
    List.replicate 138 0 ++ [1, 0x41] ++ List.replicate 159 0, by
      simp only [List.length_append, List.length_replicate, List.length_cons, List.length_nil,
        tapiNettextInfoSize]⟩ := by
  apply (buildsInBounds_iff _ ⟨by decide, by decide, by decide⟩).mpr
  constructor
  case text =>
    intro _
    unfold TapiNettextInfo.TextFits
    rw [if_neg (by decide)]
    decide
  all_goals decide

/-- A message with no text: what is appended to the PDU is null. -/
theorem not_buildsInBounds_empty : (¬∀ packet : NettextPacket,
    (TapiNettextInfo.ofPacket packet).Bounded → BuildsInBounds packet) ∧
      ¬BuildsInBounds (.replicate 310 0) := by
  have hbounded : (TapiNettextInfo.ofPacket (.replicate 310 0)).Bounded :=
    ⟨by decide, by decide, by decide⟩
  have hnot : ¬BuildsInBounds (.replicate 310 0) := by
    rintro ⟨hrun, -⟩
    have hfits := (run_smsOps_isSome_iff hbounded).mp hrun
    have htext := hfits.text (by decide)
    unfold TapiNettextInfo.TextFits at htext
    rw [if_neg (by decide)] at htext
    exact absurd htext (by decide)
  exact ⟨fun h => hnot (h _ hbounded), hnot⟩

end Packet

end Mocha.Ril
