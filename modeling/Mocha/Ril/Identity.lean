import Mocha.Lib.Run
import Mocha.Ril.Bcd
import Mocha.Ril.Request

/-! Requests for the identities and the version of the device, and the events that make these known
(`misc.c`, `pwr.c`, `sim.c` and `syssec.c`). The requests are taken to come while the client is
ready. -/
namespace Mocha.Ril
open Mocha.Lib Mocha.Ipc

def simCardNotPresent : UInt8 := 6

/-- Effects of the handlers of this module. -/
inductive IdentityEffect
  | ril (e : RilEffect)
  | tapiInit
  | protoStartup
  | simAtkOpen
  | simOpenToModem (hSim : UInt8)
  | ipcBoot8Mode (mode : ℕ)
deriving DecidableEq

def IdentityEffect.completed : IdentityEffect → Option RilToken
  | .ril e => e.completed
  | _ => none

/-- `fake_imei` -/
def fakeImei : List UInt8 := [0x08, 0x1A, 0x32, 0x54, 0x76, 0x98, 0x12, 0x34, 0x56]

/-- `load_sec_data`, for the data of the NVM. -/
def loadSecData (s : RilData) (data : List UInt8) : RilData :=
  let imei := if data.getD 137 0 = 0x08 then (data.drop 137).take 9 else fakeImei
  { s with cachedImei := imeiBcd2ascii imei }

/-- The size of `cached_sw_version`. -/
def cachedSwVersionSize : ℕ := 33

/-- `ipc_cp_system_start`, for the string at the start of the frame and the size of the frame, if the
place of its terminator is in `cached_sw_version`. -/
def cpSystemStarted (s : RilData) (desc : CString) (datasize : UInt32) :
    RilData × List IdentityEffect :=
  let version := if 32 < desc.length ∨ datasize.toNat < desc.length then
      s.cachedSwVersion.take desc.length
    else desc
  let r := rilTokensCheck { s with
    state := { s.state with powerState := .lpm, radioState := .off }
    cachedSwVersion := version }
  (r.1, [.tapiInit, .protoStartup, .simAtkOpen, .simOpenToModem 4,
    .ril (.unsolicited .responseRadioStateChanged)] ++ r.2.map .ril)

/-- `ipc_cp_system_start`; `none` where the terminator is written behind `cached_sw_version`, as it is for
a string that has been found too long. -/
def ipcCpSystemStart (s : RilData) (desc : CString) (datasize : UInt32) :
    Option (RilData × List IdentityEffect) :=
  if desc.length < cachedSwVersionSize then some (cpSystemStarted s desc datasize) else none

theorem ipcCpSystemStart_eq_some {s : RilData} {desc : CString} {datasize : UInt32}
    {r : RilData × List IdentityEffect} : ipcCpSystemStart s desc datasize = some r ↔
      cpSystemStarted s desc datasize = r ∧ desc.length < cachedSwVersionSize := by
  unfold ipcCpSystemStart
  split_ifs with h <;> simp [h]

/-- The bytes of the IMSI in a `SIM_OPEN` event. -/
def simOpenImsi (ev : SimEvent) : List UInt8 :=
  let sizeDelta := 0x473 - (ev.word32 7).toInt32.toInt
  (List.range (ev (0xAE - sizeDelta)).toNat).map fun i => ev (i + 0xB2 - sizeDelta)

/-- `ipc_sim_open`, with what stands on the stack behind an IMSI without digits. -/
def ipcSimOpen (s : RilData) (ev : SimEvent) (stack : CString) : RilData × List IdentityEffect :=
  let r :=
    if ev.eventStatus = simCardNotPresent then ipcSimStatus s .absent
    else if ev.eventStatus = simOk then ipcSimStatus s .ready
    else (s, [])
  let r := andThen r fun s =>
    rilTokensCheck { s with cachedImsi := imsiBcd2ascii stack (simOpenImsi ev) }
  (r.1, r.2.map .ril ++ [.ipcBoot8Mode 1])

/-- The three requests. -/
inductive IdentityKind
  | imei
  | imsi
  | basebandVersion
deriving DecidableEq, Repr

/-- The variable that a request waits in. -/
def RilTokens.identity (ts : RilTokens) : IdentityKind → RilToken
  | .imei => ts.getImei
  | .imsi => ts.getImsi
  | .basebandVersion => ts.basebandVersion

inductive IdentityEvent
  | request (k : IdentityKind) (t : RequestToken)
  | radioPower (t : RequestToken) (powerState : ℤ)
  | loadSecData (data : List UInt8)
  | cpSystemStart (desc : CString) (datasize : UInt32)
  | simOpen (ev : SimEvent) (stack : CString)
  | simStatus (simState : RilSimState)

def rilRequestIdentity (s : RilData) (k : IdentityKind) (t : RilToken) : RilData × List RilEffect :=
  match k with
  | .imei => rilRequestGetImei s t
  | .imsi => rilRequestGetImsi s t
  | .basebandVersion => rilRequestBasebandVersion s t

def identityHandler (s : RilData) : IdentityEvent → RilData × List IdentityEffect
  | .request k t => ((rilRequestIdentity s k t).1, (rilRequestIdentity s k t).2.map .ril)
  | .radioPower t powerState =>
    ((rilRequestRadioPower s t powerState).1, (rilRequestRadioPower s t powerState).2.map .ril)
  | .loadSecData data => (loadSecData s data, [])
  | .cpSystemStart desc datasize => cpSystemStarted s desc datasize
  | .simOpen ev stack => ipcSimOpen s ev stack
  | .simStatus simState => ((ipcSimStatus s simState).1, (ipcSimStatus s simState).2.map .ril)

abbrev IdentityStep : Step RilData (IdentityEvent × List IdentityEffect) := Step.ofFun identityHandler

/-- A token, unless it is null. -/
def slotToken (t : RilToken) : Multiset RilToken := if t = rilTokenNull then 0 else {t}

/-- The tokens that wait in one of the three variables. -/
def RilData.waiting (s : RilData) : Multiset RilToken :=
  slotToken s.tokens.getImei + slotToken s.tokens.getImsi + slotToken s.tokens.basebandVersion

/-- A handler that completes the tokens `done` on the way from `s` to `t`: these, those that wait
afterwards and the lost ones are those that waited before, and no variable gets a new token. -/
structure Settles (s t : RilData) (done : List RilToken) (lost : Multiset RilToken) : Prop where
  balance : t.waiting + done + lost = s.waiting
  slots : ∀ k, t.tokens.identity k = rilTokenNull ∨ t.tokens.identity k = s.tokens.identity k

/-- The version request that `ril_tokens_check` loses: it hands it to its handler, which stores it
again while there is no version, and then clears the variable. -/
def RilData.lostVersion (s : RilData) : Multiset RilToken :=
  if s.cachedSwVersion ≠ [] then 0 else slotToken s.tokens.basebandVersion

/-- What `ril_tokens_check` loses. -/
def RilData.lostByCheck (s : RilData) : Multiset RilToken :=
  if s.state.radioState ≠ .off then s.lostVersion else 0

/-! The three parts of `ril_tokens_check`. -/

def checkVersion (s : RilData) : RilData × List RilEffect :=
  if s.tokens.basebandVersion ≠ rilTokenNull ∧ s.state.radioState ≠ .off then
    let r := rilRequestBasebandVersion s s.tokens.basebandVersion
    ({ r.1 with tokens := { r.1.tokens with basebandVersion := rilTokenNull } }, r.2)
  else (s, [])

def checkImei (s : RilData) : RilData × List RilEffect :=
  if s.tokens.getImei ≠ rilTokenNull ∧ s.cachedImei ≠ [] then
    let r := rilRequestGetImei s s.tokens.getImei
    ({ r.1 with tokens := { r.1.tokens with getImei := rilTokenNull } }, r.2)
  else (s, [])

def checkImsi (s : RilData) : RilData × List RilEffect :=
  if s.tokens.getImsi ≠ rilTokenNull ∧ s.cachedImsi ≠ [] then
    let r := rilRequestGetImsi s s.tokens.getImsi
    ({ r.1 with tokens := { r.1.tokens with getImsi := rilTokenNull } }, r.2)
  else (s, [])

theorem rilTokensCheck_eq_parts (s : RilData) :
    rilTokensCheck s = andThen (andThen (checkVersion s) checkImei) checkImsi := rfl

section

variable {s s' t t' u : RilData} {done done' : List RilToken} {l l' : Multiset RilToken}

/-! Each variable is set without the others. -/

theorem RilTokens.identity_others_imei (ts : RilTokens) (t : RilToken) {j : IdentityKind}
    (hj : j ≠ .imei) : RilTokens.identity { ts with getImei := t } j = ts.identity j := by
  cases j with
  | imei => exact absurd rfl hj
  | imsi => rfl
  | basebandVersion => rfl

theorem RilTokens.identity_others_imsi (ts : RilTokens) (t : RilToken) {j : IdentityKind}
    (hj : j ≠ .imsi) : RilTokens.identity { ts with getImsi := t } j = ts.identity j := by
  cases j with
  | imei => rfl
  | imsi => exact absurd rfl hj
  | basebandVersion => rfl

theorem RilTokens.identity_others_version (ts : RilTokens) (t : RilToken) {j : IdentityKind}
    (hj : j ≠ .basebandVersion) :
    RilTokens.identity { ts with basebandVersion := t } j = ts.identity j := by
  cases j with
  | imei => rfl
  | imsi => rfl
  | basebandVersion => exact absurd rfl hj

theorem slotToken_null : slotToken rilTokenNull = 0 := if_pos rfl

theorem slotToken_of_ne {t : RilToken} (h : t ≠ rilTokenNull) : slotToken t = {t} := if_neg h

theorem Settles.trans (h : Settles s t done l) (h' : Settles t u done' l') :
    Settles s u (done ++ done') (l + l') where
  balance := by
    rw [← Multiset.coe_add, ← h.balance, ← h'.balance]
    abel
  slots := by
    intro k
    rcases h'.slots k with hnull | hsame
    · exact .inl hnull
    · rcases h.slots k with hnull | hsame'
      · exact .inl (hsame.trans hnull)
      · exact .inr (hsame.trans hsame')

/-- Only the tokens count. -/
theorem Settles.congr (h : Settles s t done l) (hs : s.tokens = s'.tokens)
    (ht : t.tokens = t'.tokens) : Settles s' t' done l where
  balance := by
    have hbalance := h.balance
    unfold RilData.waiting at hbalance ⊢
    rwa [hs, ht] at hbalance
  slots := by
    intro k
    have hslot := h.slots k
    rwa [hs, ht] at hslot

theorem Settles.quiet (h : t.tokens = s.tokens) : Settles s t [] 0 where
  balance := by
    rw [RilData.waiting, RilData.waiting, h, Multiset.coe_nil, add_zero, add_zero]
  slots := fun k => .inr (by rw [h])

/-- A change of one variable. -/
theorem waiting_of_others (k : IdentityKind)
    (hothers : ∀ j, j ≠ k → t.tokens.identity j = s.tokens.identity j) :
    t.waiting + slotToken (s.tokens.identity k) = s.waiting + slotToken (t.tokens.identity k) := by
  have hsum : ∀ s : RilData, s.waiting = slotToken (s.tokens.identity .imei) +
    slotToken (s.tokens.identity .imsi) + slotToken (s.tokens.identity .basebandVersion) :=
    fun _ => rfl
  rw [hsum s, hsum t]
  cases k with
  | imei =>
    rw [hothers .imsi (by decide), hothers .basebandVersion (by decide)]
    abel
  | imsi =>
    rw [hothers .imei (by decide), hothers .basebandVersion (by decide)]
    abel
  | basebandVersion =>
    rw [hothers .imei (by decide), hothers .imsi (by decide)]
    abel

/-- One variable is emptied, whose token is completed or lost. -/
theorem Settles.clear (k : IdentityKind) (hclear : t.tokens.identity k = rilTokenNull)
    (hothers : ∀ j, j ≠ k → t.tokens.identity j = s.tokens.identity j)
    (hdone : (done : Multiset RilToken) + l = slotToken (s.tokens.identity k)) :
    Settles s t done l where
  balance := by
    have hwaiting := waiting_of_others k hothers
    rw [hclear, slotToken_null, add_zero] at hwaiting
    rw [add_assoc, hdone, hwaiting]
  slots := by
    intro j
    by_cases hj : j = k
    · exact .inl (hj ▸ hclear)
    · exact .inr (hothers j hj)

theorem checkVersion_settles (s : RilData) : Settles s (checkVersion s).1
    (completedTokens (checkVersion s).2) s.lostByCheck := by
  unfold checkVersion RilData.lostByCheck RilData.lostVersion rilRequestBasebandVersion
  by_cases hradio : s.state.radioState = .off
  · rw [if_neg fun h => h.2 hradio, if_neg (not_not.mpr hradio)]
    exact .quiet rfl
  rw [if_pos hradio]
  by_cases hwaits : s.tokens.basebandVersion = rilTokenNull
  · rw [if_neg fun h => h.1 hwaits, hwaits, slotToken_null, ite_self]
    exact .quiet rfl
  rw [if_pos ⟨hwaits, hradio⟩]
  by_cases hknown : s.cachedSwVersion ≠ []
  · rw [if_pos hknown, if_pos hknown]
    exact .clear .basebandVersion rfl (fun _ => s.tokens.identity_others_version _)
      (slotToken_of_ne hwaits).symm
  · rw [if_neg hknown, if_neg hknown]
    exact .clear .basebandVersion rfl (fun _ => s.tokens.identity_others_version _) (zero_add _)

theorem checkImei_settles (s : RilData) :
    Settles s (checkImei s).1 (completedTokens (checkImei s).2) 0 := by
  unfold checkImei rilRequestGetImei
  by_cases hready : s.tokens.getImei ≠ rilTokenNull ∧ s.cachedImei ≠ []
  · rw [if_pos hready, if_pos hready.2]
    exact .clear .imei rfl (fun _ => s.tokens.identity_others_imei _)
      ((add_zero _).trans (slotToken_of_ne hready.1).symm)
  · rw [if_neg hready]
    exact .quiet rfl

theorem checkImsi_settles (s : RilData) :
    Settles s (checkImsi s).1 (completedTokens (checkImsi s).2) 0 := by
  unfold checkImsi rilRequestGetImsi
  by_cases hready : s.tokens.getImsi ≠ rilTokenNull ∧ s.cachedImsi ≠ []
  · rw [if_pos hready, if_pos hready.2]
    exact .clear .imsi rfl (fun _ => s.tokens.identity_others_imsi _)
      ((add_zero _).trans (slotToken_of_ne hready.1).symm)
  · rw [if_neg hready]
    exact .quiet rfl

/-- **The law of `ril_tokens_check`**: it completes or keeps what waits, but for a version request
while the radio is on and there is no version. -/
theorem rilTokensCheck_settles (s : RilData) : Settles s (rilTokensCheck s).1
    (completedTokens (rilTokensCheck s).2) s.lostByCheck := by
  have h := ((checkVersion_settles s).trans (checkImei_settles _)).trans (checkImsi_settles _)
  rw [add_zero, add_zero, ← completedTokens_append, ← completedTokens_append] at h
  rw [rilTokensCheck_eq_parts]
  exact h

/-- No request for the version waits after the check, unless the radio is off. -/
theorem rilTokensCheck_version (h : s.state.radioState ≠ .off) :
    (rilTokensCheck s).1.tokens.basebandVersion = rilTokenNull := by
  have hversion : (checkVersion s).1.tokens.basebandVersion = rilTokenNull := by
    unfold checkVersion
    by_cases hwaits : s.tokens.basebandVersion = rilTokenNull
    · rw [if_neg fun h => h.1 hwaits]
      exact hwaits
    · rw [if_pos ⟨hwaits, h⟩]
  have hlater := ((checkImei_settles (checkVersion s).1).trans (checkImsi_settles _)).slots
    .basebandVersion
  rcases hlater with hnull | hsame
  · exact hnull
  · exact hsame.trans hversion

/-- What a change of the SIM state loses. -/
def RilData.lostByStatus (s : RilData) : Multiset RilToken :=
  if s.state.powerState = .normal then s.lostVersion else 0

/-- The state that a change of the SIM state leaves: in normal mode no version request waits, and in
another mode the radio and the version request are as before. -/
structure StatusChanged (s t : RilData) : Prop where
  version : s.state.powerState = .normal → t.tokens.basebandVersion = rilTokenNull
  unchanged : s.state.powerState ≠ .normal → t.state.radioState = s.state.radioState ∧
    t.lostVersion = s.lostVersion

/-- With the modem in normal mode a new SIM state turns the radio on and lets the tokens be checked. -/
theorem rilStateUpdate_eq (simState : RilSimState) (h : s.state.powerState = .normal) :
    ∃ radioState packets, radioState ≠ .off ∧ completedTokens packets = [] ∧
      rilStateUpdate s simState =
        let r := rilTokensCheck { s with
          state := { s.state with simState := simState, radioState := radioState } }
        (r.1, packets ++ r.2 ++ [.unsolicited .responseRadioStateChanged]) := by
  unfold rilStateUpdate
  dsimp only
  rw [if_neg (not_not.mpr h)]
  cases simState with
  | ready => exact ⟨.simReady, _, by decide, rfl, rfl⟩
  | notReady => exact ⟨.simNotReady, _, by decide, rfl, rfl⟩
  | _ => exact ⟨.simLockedOrAbsent, _, by decide, rfl, rfl⟩

theorem rilStateUpdate_settles (s : RilData) (simState : RilSimState) :
    Settles s (rilStateUpdate s simState).1 (completedTokens (rilStateUpdate s simState).2)
        s.lostByStatus ∧
      StatusChanged s (rilStateUpdate s simState).1 := by
  unfold RilData.lostByStatus
  by_cases hpower : s.state.powerState = .normal
  · obtain ⟨radioState, packets, hradio, hpackets, heq⟩ := rilStateUpdate_eq simState hpower
    have hsettles := rilTokensCheck_settles { s with
      state := { s.state with simState := simState, radioState := radioState } }
    rw [RilData.lostByCheck, if_pos hradio] at hsettles
    rw [heq, if_pos hpower]
    refine ⟨?_, fun _ => rilTokensCheck_version hradio, fun h => absurd hpower h⟩
    rw [completedTokens_append, completedTokens_append, hpackets, List.nil_append]
    exact (List.append_nil (completedTokens _)).symm ▸ hsettles.congr rfl rfl
  · rw [if_neg hpower]
    unfold rilStateUpdate
    dsimp only
    rw [if_pos hpower]
    exact ⟨.quiet rfl, fun h => absurd h hpower, fun _ => ⟨rfl, rfl⟩⟩

theorem ipcSimStatus_settles (s : RilData) (simState : RilSimState) :
    Settles s (ipcSimStatus s simState).1 (completedTokens (ipcSimStatus s simState).2)
        s.lostByStatus ∧
      StatusChanged s (ipcSimStatus s simState).1 := by
  obtain ⟨hsettles, hversion, hunchanged⟩ := rilStateUpdate_settles s simState
  have hdone : completedTokens (ipcSimStatus s simState).2 =
      completedTokens (rilStateUpdate s simState).2 := by
    unfold ipcSimStatus
    dsimp only
    rw [completedTokens_append, completedTokens_append]
    split_ifs <;> simp [completedTokens, RilEffect.completed]
  rw [hdone]
  unfold ipcSimStatus
  dsimp only
  split_ifs
  · exact ⟨hsettles.congr rfl rfl, hversion, hunchanged⟩
  · exact ⟨hsettles, hversion, hunchanged⟩

end

end Mocha.Ril
