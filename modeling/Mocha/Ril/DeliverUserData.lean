import Mocha.Ril.DeliverOps

/-! The user data of an incoming message: the strings that `ipc_incoming_sms` allocates for them. -/
namespace Mocha.Ril
open Mocha.Lib Mocha.Lib.StringOp

section Lengths

variable (info : TapiNettextInfo)

/-- The length of TP-UD. -/
def TapiNettextInfo.tpUdLength : ℕ :=
  let messageLength := info.messageLength.toNat
  if info.alphabetType = 3 ∨ info.msgType = 0x10 then
    2 * messageLength + if info.nUdh = 1 then 2 else 0
  else if info.nUdh = 1 then 2 * ((7 * (messageLength + 2) + 7) / 8)
  else 2 * ((7 * messageLength + 7) / 8)

/-- The message has a text, and that of a part in GSM7 ends where the place of its header is left. -/
def TapiNettextInfo.TextFits : Prop :=
  if ¬(info.alphabetType = 3 ∨ info.msgType = 0x10) ∧ info.nUdh = 1 then
    ∃ i, 5 ≤ i ∧ i ≤ info.messageLength.toNat ∧ info.messageBody.toList[i]? = some 0
  else 0 < info.messageLength.toNat

end Lengths

section UserData

variable {info : TapiNettextInfo}

theorem bufferString_length_le {l : List UInt8} {k : ℕ} (h : l[k]? = some 0) :
    (bufferString l).length ≤ k := by
  induction l generalizing k with
  | nil => cases h
  | cons c l ih =>
    rw [bufferString, List.takeWhile_cons]
    split_ifs with hc
    · cases k with
      | zero =>
        obtain rfl := Option.some.inj h
        cases hc
      | succ k => exact Nat.succ_le_succ (ih h)
    · exact Nat.zero_le k

theorem getElem?_bufferString {l : List UInt8} (h : (bufferString l).length < l.length) :
    l[(bufferString l).length]? = some 0 := by
  induction l with
  | nil => cases h
  | cons c l ih =>
    rw [bufferString, List.takeWhile_cons] at h ⊢
    split_ifs at h ⊢ with hc
    · exact ih (Nat.lt_of_succ_lt_succ h)
    · have hzero : c = 0 := by simpa using hc
      rw [hzero]
      rfl

/-- The text of a part has room behind the place of its header if it ends there. -/
theorem strncatChars_fits {src : List UInt8} {n : ℕ} :
    (∃ text, strncatChars src (n + 7) = some text ∧ text.length < n + 1) ↔
      ∃ i, i ≤ n ∧ src[i]? = some 0 := by
  have htake : ∀ i, i < n + 7 → (src.take (n + 7))[i]? = src[i]? := fun i hi =>
    List.getElem?_take_of_lt hi
  unfold strncatChars
  dsimp only
  constructor
  · rintro ⟨text, htext, hroom⟩
    split_ifs at htext with hends
    obtain rfl := Option.some.inj htext
    refine ⟨_, Nat.lt_succ_iff.mp hroom, ?_⟩
    rw [← htake _ (by omega)]
    apply getElem?_bufferString
    rw [List.length_take]
    omega
  · rintro ⟨i, hi, hzero⟩
    have hle := bufferString_length_le ((htake i (by omega)).trans hzero)
    obtain ⟨hsrc, -⟩ := List.getElem?_eq_some_iff.mp hzero
    exact ⟨_, if_pos (Or.inl (by omega)), by omega⟩

/-- The arrays that a branch of the user data is built in have room, and its string is not null. -/
def UserDataOps.Fits (userData : UserDataOps) (messageLength : ℕ) : Prop :=
  (runOn (SmsBuffer.size messageLength .tpUd) [] (on .tpUd userData.ops)).isSome ∧
    (runOn (SmsBuffer.size messageLength .message) [] (on .message userData.ops)).isSome ∧
      userData.tpUd ≠ none

variable {n : ℕ} {body : List UInt8}

theorem data2string_take (hbody : n ≤ body.length) (hpos : 0 < n) :
    ∃ string, data2string (body.take n) = some string ∧ string.length = 2 * n := by
  have htake : (body.take n).length = n := List.length_take_of_le hbody
  obtain ⟨string, hstring, hlength⟩ := data2string_length (body.take n) (by rwa [htake])
  exact ⟨string, hstring, by rw [hlength, htake]⟩

theorem unicodeOps_fits (dcs : ℕ) (nUdh : UInt8) (hbody : n ≤ body.length) :
    (unicodeOps dcs nUdh n body).Fits n ↔ 0 < n := by
  constructor
  · rintro ⟨htpUd, -, -⟩
    by_contra hzero
    obtain rfl : n = 0 := by omega
    have hnull : append SmsBuffer.tpUd none ∈ on .tpUd (unicodeOps dcs nUdh 0 body).ops := by
      unfold unicodeOps
      split_ifs <;> simp [buffer, data2string]
    rw [runOn_null hnull] at htpUd
    cases htpUd
  · intro hpos
    obtain ⟨message, hmessage, hlength⟩ := data2string_take hbody hpos
    have hfive : (cString "05").length = 2 := rfl
    have hsize : SmsBuffer.size n .tpUd = n * 2 + 3 := rfl
    unfold unicodeOps UserDataOps.Fits
    rw [hmessage]
    split_ifs
    · refine ⟨?_, rfl, Option.some_ne_none _⟩
      simp only [on_cons, on_nil, buffer, if_true]
      rw [runOn_appends (appends_cons.mpr (appends_cons.mpr appends_nil)) (Nat.succ_pos _), if_pos]
      · rfl
      · simp only [written_cons, written_nil, text, Option.getD_some, List.length_append,
          List.length_nil, hlength, hfive, hsize]
        omega
    · refine ⟨?_, rfl, Option.some_ne_none _⟩
      simp only [on_cons, on_nil, buffer, if_true]
      rw [runOn_appends (appends_cons.mpr appends_nil) (Nat.succ_pos _), if_pos]
      · rfl
      · simp only [written_cons, written_nil, text, Option.getD_some, List.length_append,
          List.length_nil, hlength, hsize]
        omega

theorem gsm7PartOps_message : (runOn (n + 3) [] (on .message (gsm7PartOps n body).ops)).isSome ↔
    ∃ text, strncatChars (body.drop 5) (n + 2) = some text ∧ 7 + text.length < n + 3 := by
  have hseven : (cString "0000000").length = 7 := rfl
  unfold gsm7PartOps
  simp only [on_cons, on_nil, buffer, if_true]
  cases htext : strncatChars (body.drop 5) (n + 2) with
  | none =>
    rw [runOn_null (List.mem_cons_of_mem _ List.mem_cons_self)]
    constructor
    · intro h
      cases h
    · rintro ⟨text, hsome, -⟩
      cases hsome
  | some text =>
    rw [runOn_appends (appends_cons.mpr (appends_cons.mpr appends_nil)) (Nat.succ_pos _),
      Option.isSome_ite, List.length_nil, Nat.zero_add]
    simp only [written_cons, written_nil, StringOp.text, Option.getD_some, List.length_append,
      List.length_nil, hseven, Nat.add_zero]
    constructor
    · intro hroom
      exact ⟨text, rfl, hroom⟩
    · rintro ⟨_, hsome, hroom⟩
      obtain rfl := Option.some.inj hsome
      exact hroom

theorem gsm7PartOps_fits : (gsm7PartOps n body).Fits n ↔ ∃ i, 5 ≤ i ∧ i ≤ n ∧ body[i]? = some 0 := by
  have hmessage : (gsm7PartOps n body).Fits n ↔
      ∃ text, strncatChars (body.drop 5) (n + 2) = some text ∧ 7 + text.length < n + 3 := by
    rw [← gsm7PartOps_message]
    exact (and_iff_right rfl).trans (and_iff_left (Option.some_ne_none _))
  rw [hmessage]
  rcases Nat.lt_or_ge n 5 with hlt | hge
  · constructor
    · rintro ⟨text, -, hroom⟩
      omega
    · rintro ⟨i, hfive, hi, -⟩
      omega
  · obtain ⟨k, rfl⟩ := Nat.exists_eq_add_of_le hge
    have hroom : ∀ text : CString, 7 + text.length < 5 + k + 3 ↔ text.length < k + 1 := by
      intro text
      omega
    rw [show 5 + k + 2 = k + 7 by omega]
    simp only [hroom]
    rw [strncatChars_fits]
    constructor
    · rintro ⟨i, hi, hzero⟩
      exact ⟨5 + i, by omega, by omega, by rwa [List.getElem?_drop] at hzero⟩
    · rintro ⟨i, hfive, hi, hzero⟩
      refine ⟨i - 5, by omega, ?_⟩
      rwa [List.getElem?_drop, Nat.add_sub_of_le hfive]

theorem gsm7Ops_fits (hbody : n ≤ body.length) : (gsm7Ops n body).Fits n ↔ 0 < n := by
  have hlength := ascii2gsm7Octets_length (body.take n)
  rw [List.length_take_of_le hbody] at hlength
  refine (and_iff_right rfl).trans ((and_iff_right rfl).trans ?_)
  unfold gsm7Ops data2string
  dsimp only
  split_ifs with hzero
  · exact iff_of_false (fun h => h rfl) (by omega)
  · exact iff_of_true (Option.some_ne_none _) (by omega)

/-- **The branch for the user data** goes through just when the text fits. -/
theorem userDataOps_fits (h : info.messageLength.toNat ≤ 160) :
    info.userDataOps.Fits info.messageLength.toNat ↔ info.TextFits := by
  have hbody : info.messageLength.toNat ≤ info.messageBody.toList.length := by
    rwa [List.Vector.toList_length]
  unfold TapiNettextInfo.userDataOps TapiNettextInfo.TextFits
  by_cases hunicode : info.alphabetType = 3 ∨ info.msgType = 0x10
  · have hwhole : ¬(¬(info.alphabetType = 3 ∨ info.msgType = 0x10) ∧ info.nUdh = 1) :=
      fun hpart => hpart.1 hunicode
    rw [if_pos hunicode, if_neg hwhole]
    exact unicodeOps_fits _ _ hbody
  · rw [if_neg hunicode]
    by_cases hnUdh : info.nUdh = 1
    · rw [if_pos hnUdh, if_pos ⟨hunicode, hnUdh⟩]
      exact gsm7PartOps_fits
    · rw [if_neg hnUdh, if_neg fun h => hnUdh h.2]
      exact gsm7Ops_fits hbody

theorem unicodeOps_tpUd (dcs : ℕ) (nUdh : UInt8) (hbody : n ≤ body.length) (hpos : 0 < n) :
    ∃ tpUd, (unicodeOps dcs nUdh n body).tpUd = some tpUd ∧
      tpUd.length = 2 * n + if nUdh = 1 then 2 else 0 := by
  obtain ⟨message, hmessage, hlength⟩ := data2string_take hbody hpos
  unfold unicodeOps
  rw [hmessage]
  split_ifs
  · refine ⟨_, rfl, ?_⟩
    rw [List.length_append, Option.getD_some, hlength, Nat.add_comm]
    rfl
  · exact ⟨_, rfl, hlength⟩

theorem gsm7Part_length (hbody : 5 ≤ body.length) (hn : 4 ≤ n) {text : CString} :
    (5 :: body.take 5 ++ (ascii2gsm7Octets
      ((cString "0000000" ++ text ++ List.replicate (n + 2) 0).take (n + 2))).drop 6).length =
        (7 * (n + 2) + 7) / 8 := by
  have htake : ((cString "0000000" ++ text ++ List.replicate (n + 2) 0).take (n + 2)).length = n + 2 := by
    rw [List.length_take, List.length_append, List.length_replicate]
    omega
  have hoctets := ascii2gsm7Octets_length
    ((cString "0000000" ++ text ++ List.replicate (n + 2) 0).take (n + 2))
  rw [htake] at hoctets
  rw [List.length_append, List.length_cons, List.length_drop, hoctets, List.length_take_of_le hbody]
  omega

/-- TP-UD has two characters for every octet. -/
theorem userDataOps_tpUd (h : info.messageLength.toNat ≤ 160) (hfits : info.TextFits) :
    ∃ tpUd, info.userDataOps.tpUd = some tpUd ∧ tpUd.length = info.tpUdLength := by
  have hlength : info.messageBody.toList.length = 160 := info.messageBody.toList_length
  have hbody : info.messageLength.toNat ≤ info.messageBody.toList.length := by rwa [hlength]
  unfold TapiNettextInfo.TextFits at hfits
  unfold TapiNettextInfo.userDataOps TapiNettextInfo.tpUdLength
  dsimp only
  by_cases hunicode : info.alphabetType = 3 ∨ info.msgType = 0x10
  · have hwhole : ¬(¬(info.alphabetType = 3 ∨ info.msgType = 0x10) ∧ info.nUdh = 1) :=
      fun hpart => hpart.1 hunicode
    rw [if_neg hwhole] at hfits
    rw [if_pos hunicode, if_pos hunicode]
    exact unicodeOps_tpUd _ _ hbody hfits
  · rw [if_neg hunicode, if_neg hunicode]
    by_cases hnUdh : info.nUdh = 1
    · rw [if_pos ⟨hunicode, hnUdh⟩] at hfits
      obtain ⟨i, hfive, hi, -⟩ := hfits
      rw [if_pos hnUdh, if_pos hnUdh]
      refine ⟨_, rfl, ?_⟩
      rw [hexBytes_length, gsm7Part_length (by omega) (by omega)]
    · rw [if_neg fun h => hnUdh h.2] at hfits
      have hoctets := ascii2gsm7Octets_length (info.messageBody.toList.take info.messageLength.toNat)
      rw [List.length_take_of_le hbody] at hoctets
      obtain ⟨tpUd, htpUd, htpUdLength⟩ := data2string_length
        (ascii2gsm7Octets (info.messageBody.toList.take info.messageLength.toNat)) (by omega)
      rw [if_neg hnUdh, if_neg hnUdh]
      exact ⟨tpUd, htpUd, by rw [htpUdLength, hoctets]⟩

end UserData

end Mocha.Ril
