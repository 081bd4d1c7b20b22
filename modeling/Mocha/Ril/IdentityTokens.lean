import Mocha.Ril.Identity

/-! The tokens of the requests for the IMEI, the IMSI and the version, each of which waits in one
variable. A request that finds another one waiting takes its variable, and `ril_tokens_check` clears
the variable of the version also where there is no version yet. -/
namespace Mocha.Ril
open Mocha.Lib Mocha.Ipc

/-- The token that an event brings in, and the variable that it may have to wait in. -/
def IdentityEvent.asked : IdentityEvent → Option (Option IdentityKind × RilToken)
  | .request k t => some (some k, t.1)
  | .radioPower t _ => some (none, t.1)
  | _ => none

/-- The requests of a run. -/
def identityAsked (tr : List (IdentityEvent × List IdentityEffect)) :
    List (Option IdentityKind × RilToken) :=
  tr.flatMap fun a => a.1.asked.toList

/-- The tokens of the requests of a run. -/
def identityTokens (tr : List (IdentityEvent × List IdentityEffect)) : List RilToken :=
  tr.flatMap fun a => (a.1.asked.map Prod.snd).toList

/-- The tokens that `ril_request_complete` is called with along a run. -/
def identityCompleted (tr : List (IdentityEvent × List IdentityEffect)) : List RilToken :=
  tr.flatMap fun a => a.2.filterMap IdentityEffect.completed

/-- Every request is completed exactly once, or not yet and waits in its variable. -/
def IdentitiesKept (tr : List (IdentityEvent × List IdentityEffect)) (s : RilData) : Prop :=
  ∀ k t, (some k, t) ∈ identityAsked tr →
    (identityCompleted tr).count t = if s.tokens.identity k = t then 0 else 1

/-- Whether `ril_tokens_check` runs with the radio on. -/
def ChecksVersion (s : RilData) : IdentityEvent → Prop
  | .radioPower _ powerState =>
    s.state.powerState ≠ .off ∧ 0 < powerState ∧ s.state.simState = .ready
  | .simOpen ev _ => s.state.radioState ≠ .off ∨
    s.state.powerState = .normal ∧ (ev.eventStatus = simCardNotPresent ∨ ev.eventStatus = simOk)
  | .simStatus _ => s.state.powerState = .normal
  | _ => False

/-- The variable that an event may take or clear. -/
def IdentityEvent.kind : IdentityEvent → IdentityKind
  | .request k _ => k
  | _ => .basebandVersion

/-- Whether the data are there when an event looks for them, so that it leaves the variable alone or
completes what waits in it. -/
def FindsData (s : RilData) : IdentityEvent → Prop
  | .request .imei _ => s.cachedImei ≠ []
  | .request .imsi _ => False
  | .request .basebandVersion _ => s.cachedSwVersion ≠ []
  | e => ChecksVersion s e → s.cachedSwVersion ≠ []

/-- An event finds the data, or finds nothing that waits for them. -/
def KeepsWaiting (s : RilData) (a : IdentityEvent × List IdentityEffect) : Prop :=
  s.tokens.identity a.1.kind = rilTokenNull ∨ FindsData s a.1

instance (s : RilData) : DecidablePred (ChecksVersion s)
  | .radioPower _ powerState => inferInstanceAs
    (Decidable (s.state.powerState ≠ .off ∧ 0 < powerState ∧ s.state.simState = .ready))
  | .simOpen ev _ => inferInstanceAs (Decidable (s.state.radioState ≠ .off ∨
    s.state.powerState = .normal ∧ (ev.eventStatus = simCardNotPresent ∨ ev.eventStatus = simOk)))
  | .simStatus _ => inferInstanceAs (Decidable (s.state.powerState = .normal))
  | .request _ _ | .loadSecData _ | .cpSystemStart _ _ => inferInstanceAs (Decidable False)

instance (s : RilData) : DecidablePred (FindsData s)
  | .request .imei _ => inferInstanceAs (Decidable (s.cachedImei ≠ []))
  | .request .imsi _ => inferInstanceAs (Decidable False)
  | .request .basebandVersion _ => inferInstanceAs (Decidable (s.cachedSwVersion ≠ []))
  | .radioPower t powerState => inferInstanceAs
    (Decidable (ChecksVersion s (.radioPower t powerState) → s.cachedSwVersion ≠ []))
  | .loadSecData data => inferInstanceAs
    (Decidable (ChecksVersion s (.loadSecData data) → s.cachedSwVersion ≠ []))
  | .cpSystemStart desc datasize => inferInstanceAs
    (Decidable (ChecksVersion s (.cpSystemStart desc datasize) → s.cachedSwVersion ≠ []))
  | .simOpen ev stack => inferInstanceAs
    (Decidable (ChecksVersion s (.simOpen ev stack) → s.cachedSwVersion ≠ []))
  | .simStatus simState => inferInstanceAs
    (Decidable (ChecksVersion s (.simStatus simState) → s.cachedSwVersion ≠ []))

/-- What an event loses. -/
def RilData.lostBy (s : RilData) (e : IdentityEvent) : Multiset RilToken :=
  if FindsData s e then 0 else slotToken (s.tokens.identity e.kind)

/-- No request for an identity waits. -/
def NoneWaiting (s : RilData) : Prop := ∀ k, s.tokens.identity k = rilTokenNull

section Change

variable {s t u : RilData} {e : IdentityEvent} {out : List IdentityEffect} {lost : Multiset RilToken}

/-- What an event does to the three variables, and what it completes and loses. -/
structure TokensChange (s : RilData) (e : IdentityEvent) (t : RilData) (out : List IdentityEffect)
    (lost : Multiset RilToken) : Prop where
  balance : t.waiting + (out.filterMap IdentityEffect.completed : Multiset RilToken) + lost =
    s.waiting + ((e.asked.map Prod.snd).toList : Multiset RilToken)
  slots : ∀ k, t.tokens.identity k = rilTokenNull ∨ t.tokens.identity k = s.tokens.identity k ∨
    e.asked = some (some k, t.tokens.identity k)

theorem completed_map_ril (out : List RilEffect) :
    (out.map IdentityEffect.ril).filterMap IdentityEffect.completed = completedTokens out := by
  rw [List.filterMap_map]
  rfl

theorem Settles.change {done : List RilToken} (h : Settles s t done lost) (hasked : e.asked = none)
    (hout : out.filterMap IdentityEffect.completed = done) : TokensChange s e t out lost where
  balance := by
    rw [hout, hasked, h.balance, Option.map_none, Option.toList_none, Multiset.coe_nil, add_zero]
  slots := fun k => (h.slots k).imp_right .inl

/-- A request that is answered at once. -/
theorem TokensChange.answered {k : IdentityKind} {r : RequestToken} (h : Settles s t [] lost)
    (hout : out.filterMap IdentityEffect.completed = [r.1]) :
    TokensChange s (.request k r) t out lost where
  balance := by
    rw [hout, ← h.balance, Multiset.coe_nil, add_zero, add_right_comm]
    rfl
  slots := fun k => (h.slots k).imp_right .inl

/-- A request that takes a variable. -/
theorem TokensChange.queued {k : IdentityKind} {r : RequestToken}
    (hstored : t.tokens.identity k = r)
    (hothers : ∀ j, j ≠ k → t.tokens.identity j = s.tokens.identity j)
    (hout : out.filterMap IdentityEffect.completed = []) :
    TokensChange s (.request k r) t out (slotToken (s.tokens.identity k)) where
  balance := by
    rw [hout, Multiset.coe_nil, add_zero, waiting_of_others k hothers, hstored, slotToken_of_ne r.2]
    rfl
  slots := by
    intro j
    by_cases hj : j = k
    · exact .inr (.inr (by rw [hj, hstored, IdentityEvent.asked]))
    · exact .inr (.inl (hothers j hj))

theorem lostBy_of_checks (he : FindsData s e ↔ (ChecksVersion s e → s.cachedSwVersion ≠ []))
    (hkind : e.kind = .basebandVersion) :
    s.lostBy e = if ChecksVersion s e then s.lostVersion else 0 := by
  unfold RilData.lostBy RilData.lostVersion
  rw [hkind]
  by_cases hchecks : ChecksVersion s e
  · rw [if_pos hchecks]
    exact if_congr (he.trans (forall_prop_of_true hchecks)) rfl rfl
  · rw [if_neg hchecks, if_pos (he.mpr fun h => absurd h hchecks)]

theorem request_change (s : RilData) (k : IdentityKind) (r : RequestToken) :
    TokensChange s (.request k r) (rilRequestIdentity s k r).1
      ((rilRequestIdentity s k r).2.map .ril) (s.lostBy (.request k r)) := by
  unfold RilData.lostBy
  cases k with
  | imei =>
    dsimp only [rilRequestIdentity, rilRequestGetImei]
    by_cases hknown : s.cachedImei ≠ []
    · rw [if_pos hknown, if_pos (show FindsData s (.request .imei r) from hknown)]
      exact .answered (.quiet rfl) rfl
    · rw [if_neg hknown, if_neg (show ¬FindsData s (.request .imei r) from hknown)]
      exact .queued rfl (fun _ => s.tokens.identity_others_imei _) rfl
  | imsi =>
    dsimp only [rilRequestIdentity, rilRequestGetImsi]
    rw [if_neg (show ¬FindsData s (.request .imsi r) from id)]
    by_cases hknown : s.cachedImsi ≠ []
    · rw [if_pos hknown]
      exact .answered
        (.clear .imsi rfl (fun _ => s.tokens.identity_others_imsi _) (zero_add _)) rfl
    · rw [if_neg hknown]
      exact .queued rfl (fun _ => s.tokens.identity_others_imsi _) rfl
  | basebandVersion =>
    dsimp only [rilRequestIdentity, rilRequestBasebandVersion]
    by_cases hknown : s.cachedSwVersion ≠ []
    · rw [if_pos hknown, if_pos (show FindsData s (.request .basebandVersion r) from hknown)]
      exact .answered (.quiet rfl) rfl
    · rw [if_neg hknown, if_neg (show ¬FindsData s (.request .basebandVersion r) from hknown)]
      exact .queued rfl (fun _ => s.tokens.identity_others_version _) rfl

theorem radioPower_change (s : RilData) (r : RequestToken) (powerState : ℤ) :
    TokensChange s (.radioPower r powerState) (rilRequestRadioPower s r powerState).1
      ((rilRequestRadioPower s r powerState).2.map .ril) (s.lostBy (.radioPower r powerState)) := by
  have hiff : ChecksVersion s (.radioPower r powerState) ↔
    s.state.powerState ≠ .off ∧ 0 < powerState ∧ s.state.simState = .ready := .rfl
  -- The token of the request is completed last, after what `network_start` completes.
  have hmain : ∃ done, Settles s (rilRequestRadioPower s r powerState).1 done
      (if ChecksVersion s (.radioPower r powerState) then s.lostVersion else 0) ∧
      completedTokens (rilRequestRadioPower s r powerState).2 = done ++ [r.1] := by
    unfold rilRequestRadioPower
    dsimp only
    by_cases hoff : s.state.powerState = .off
    · rw [if_pos hoff, if_neg fun h => (hiff.mp h).1 hoff]
      exact ⟨[], .quiet rfl, rfl⟩
    by_cases hpower : powerState ≤ 0
    · rw [if_neg hoff, if_pos hpower, if_neg fun h => hpower.not_gt (hiff.mp h).2.1]
      exact ⟨[], .quiet rfl, rfl⟩
    rw [if_neg hoff, if_neg hpower]
    unfold networkStart
    dsimp only
    by_cases hready : s.state.simState = .ready
    · rw [if_pos hready, if_pos (hiff.mpr ⟨hoff, not_le.mp hpower, hready⟩)]
      obtain ⟨hsettles, -⟩ := ipcSimStatus_settles { s with
        state := { s.state with powerState := .normal, radioState := .on } } .ready
      refine ⟨_, hsettles.congr rfl rfl, ?_⟩
      simp only [completedTokens, List.filterMap_cons, List.filterMap_append, List.filterMap_nil,
        RilEffect.completed, List.nil_append]
    · rw [if_neg hready, if_neg fun h => hready (hiff.mp h).2.2]
      exact ⟨[], .quiet rfl, rfl⟩
  obtain ⟨done, hsettles, hdone⟩ := hmain
  rw [← lostBy_of_checks .rfl rfl] at hsettles
  constructor
  case balance =>
    rw [completed_map_ril, hdone, ← hsettles.balance, ← Multiset.coe_add]
    dsimp only [IdentityEvent.asked, Option.map_some, Option.toList_some]
    abel
  case slots => exact fun k => (hsettles.slots k).imp_right .inl

/-- The tokens are checked once more after a change of the SIM state. -/
theorem statusThenCheck_lost (s : RilData) (simState : RilSimState) {p : Prop} [Decidable p]
    (hp : p ↔ s.state.radioState ≠ .off ∨ s.state.powerState = .normal) :
    s.lostByStatus + (ipcSimStatus s simState).1.lostByCheck = if p then s.lostVersion else 0 := by
  obtain ⟨-, hversion, hunchanged⟩ := ipcSimStatus_settles s simState
  unfold RilData.lostByStatus RilData.lostByCheck
  by_cases hpower : s.state.powerState = .normal
  · have hnone : (ipcSimStatus s simState).1.lostVersion = 0 := by
      rw [RilData.lostVersion, hversion hpower, slotToken_null, ite_self]
    rw [hnone, ite_self, add_zero, if_pos hpower, if_pos (hp.mpr (.inr hpower))]
  · obtain ⟨hradio, hsame⟩ := hunchanged hpower
    rw [if_neg hpower, hradio, hsame, zero_add]
    exact if_congr (hp.trans (or_iff_left hpower)).symm rfl rfl

theorem ipcSimOpen_change (s : RilData) (ev : SimEvent) (stack : CString) :
    TokensChange s (.simOpen ev stack) (ipcSimOpen s ev stack).1 (ipcSimOpen s ev stack).2
      (s.lostBy (.simOpen ev stack)) := by
  have hiff : ChecksVersion s (.simOpen ev stack) ↔ s.state.radioState ≠ .off ∨
    s.state.powerState = .normal ∧ (ev.eventStatus = simCardNotPresent ∨ ev.eventStatus = simOk) :=
    .rfl
  have hcheck : ∀ (r : RilData × List RilEffect) {lost lost' : Multiset RilToken},
      Settles s r.1 (completedTokens r.2) lost → lost + r.1.lostByCheck = lost' →
      let r := andThen r fun s =>
        rilTokensCheck { s with cachedImsi := imsiBcd2ascii stack (simOpenImsi ev) }
      TokensChange s (.simOpen ev stack) r.1 (r.2.map .ril ++ [.ipcBoot8Mode 1]) lost' := by
    intro r lost lost' h hlost
    have hlater := rilTokensCheck_settles
      { r.1 with cachedImsi := imsiBcd2ascii stack (simOpenImsi ev) }
    subst hlost
    refine (h.trans (hlater.congr rfl rfl)).change rfl ?_
    rw [List.filterMap_append, completed_map_ril]
    dsimp only [andThen]
    rw [completedTokens_append]
    exact List.append_nil _
  rw [lostBy_of_checks .rfl rfl]
  unfold ipcSimOpen
  dsimp only
  by_cases habsent : ev.eventStatus = simCardNotPresent
  · rw [if_pos habsent]
    apply hcheck (ipcSimStatus s .absent) (ipcSimStatus_settles s .absent).1
    apply statusThenCheck_lost
    rw [hiff, and_iff_left (.inl habsent)]
  by_cases hok : ev.eventStatus = simOk
  · rw [if_neg habsent, if_pos hok]
    apply hcheck (ipcSimStatus s .ready) (ipcSimStatus_settles s .ready).1
    apply statusThenCheck_lost
    rw [hiff, and_iff_left (.inr hok)]
  · rw [if_neg habsent, if_neg hok]
    apply hcheck (s, []) (.quiet rfl)
    rw [zero_add]
    exact if_congr (hiff.trans (or_iff_left fun h => h.2.elim habsent hok)).symm rfl rfl

theorem cpSystemStarted_change (s : RilData) (desc : CString) (datasize : UInt32) :
    TokensChange s (.cpSystemStart desc datasize) (cpSystemStarted s desc datasize).1
      (cpSystemStarted s desc datasize).2 (s.lostBy (.cpSystemStart desc datasize)) := by
  -- The radio is off, and so the version is not looked at.
  have hcheck : ∀ t : RilData, t.tokens = s.tokens → t.state.radioState = .off →
      Settles s (rilTokensCheck t).1 (completedTokens (rilTokensCheck t).2) 0 := by
    intro t htokens hoff
    have hsettles := rilTokensCheck_settles t
    rw [RilData.lostByCheck, if_neg (not_not.mpr hoff)] at hsettles
    exact hsettles.congr htokens rfl
  rw [lostBy_of_checks .rfl rfl]
  unfold cpSystemStarted
  dsimp only
  refine Settles.change (hcheck _ rfl rfl) rfl ?_
  rw [List.filterMap_append, completed_map_ril]
  rfl

theorem identityHandler_change (s : RilData) (e : IdentityEvent) :
    TokensChange s e (identityHandler s e).1 (identityHandler s e).2 (s.lostBy e) := by
  cases e with
  | request k r => exact request_change s k r
  | radioPower r powerState => exact radioPower_change s r powerState
  | loadSecData data =>
    rw [lostBy_of_checks .rfl rfl]
    exact Settles.change (.quiet rfl) rfl rfl
  | cpSystemStart desc datasize => exact cpSystemStarted_change s desc datasize
  | simOpen ev stack => exact ipcSimOpen_change s ev stack
  | simStatus simState =>
    rw [lostBy_of_checks .rfl rfl]
    exact Settles.change (ipcSimStatus_settles s simState).1 rfl (completed_map_ril _)

theorem identityStep_change {a : IdentityEvent × List IdentityEffect} (h : IdentityStep s a u) :
    TokensChange s a.1 u a.2 (s.lostBy a.1) := by
  have hchange := identityHandler_change s a.1
  have hstep : identityHandler s a.1 = (u, a.2) := h
  rwa [hstep] at hchange

end Change

section Runs

variable {s₀ s u : RilData} {a : IdentityEvent × List IdentityEffect}
  {tr : List (IdentityEvent × List IdentityEffect)}

/-- Every request waits or is completed, and what waits in a variable is a request for it. -/
structure IdentityInv (tr : List (IdentityEvent × List IdentityEffect)) (s : RilData) : Prop where
  balance : s.waiting + (identityCompleted tr : Multiset RilToken) = identityTokens tr
  slots : ∀ k, s.tokens.identity k = rilTokenNull ∨ (some k, s.tokens.identity k) ∈ identityAsked tr

theorem identityAsked_snoc : identityAsked (tr ++ [a]) = identityAsked tr ++ a.1.asked.toList := by
  simp [identityAsked]

theorem identityCompleted_snoc : identityCompleted (tr ++ [a]) =
    identityCompleted tr ++ a.2.filterMap IdentityEffect.completed := by
  simp [identityCompleted]

theorem identityTokens_snoc :
    identityTokens (tr ++ [a]) = identityTokens tr ++ (a.1.asked.map Prod.snd).toList := by
  simp [identityTokens]

theorem identityTokens_eq_map (tr : List (IdentityEvent × List IdentityEffect)) :
    identityTokens tr = (identityAsked tr).map Prod.snd := by
  unfold identityTokens identityAsked
  rw [List.map_flatMap]
  simp only [Option.toList_map]

theorem identityStep_balance (h : IdentityStep s a u)
    (hs : s.waiting + (identityCompleted tr : Multiset RilToken) = identityTokens tr) :
    u.waiting + (identityCompleted (tr ++ [a]) : Multiset RilToken) + s.lostBy a.1 =
      identityTokens (tr ++ [a]) := by
  have hchange := (identityStep_change h).balance
  rw [identityTokens_snoc, identityCompleted_snoc, ← Multiset.coe_add, ← Multiset.coe_add, ← hs,
    add_right_comm s.waiting, ← hchange]
  abel

theorem waiting_of_slot (k : IdentityKind) (h : s.tokens.identity k ≠ rilTokenNull) :
    s.tokens.identity k ∈ s.waiting := by
  have hmem : s.tokens.identity k ∈ slotToken (s.tokens.identity k) := by
    rw [slotToken_of_ne h]
    exact Multiset.mem_singleton_self _
  unfold RilData.waiting
  rw [Multiset.mem_add, Multiset.mem_add]
  cases k with
  | imei => exact .inl (.inl hmem)
  | imsi => exact .inl (.inr hmem)
  | basebandVersion => exact .inr hmem

theorem slot_of_waiting {t : RilToken} (h : t ∈ s.waiting) :
    ∃ k, s.tokens.identity k = t ∧ t ≠ rilTokenNull := by
  have hslot : ∀ k, t ∈ slotToken (s.tokens.identity k) →
      ∃ k, s.tokens.identity k = t ∧ t ≠ rilTokenNull := by
    intro k ht
    unfold slotToken at ht
    split_ifs at ht with hnull
    · exact absurd ht (Multiset.notMem_zero t)
    · obtain rfl := Multiset.mem_singleton.mp ht
      exact ⟨k, rfl, hnull⟩
  unfold RilData.waiting at h
  rw [Multiset.mem_add, Multiset.mem_add] at h
  rcases h with (h | h) | h
  · exact hslot .imei h
  · exact hslot .imsi h
  · exact hslot .basebandVersion h

/-- A token stands for one request. -/
theorem asked_unique {j k : Option IdentityKind} {t : RilToken} (hnodup : (identityTokens tr).Nodup)
    (hj : (j, t) ∈ identityAsked tr) (hk : (k, t) ∈ identityAsked tr) : j = k := by
  rw [identityTokens_eq_map] at hnodup
  exact congrArg Prod.fst (List.inj_on_of_nodup_map hnodup hj hk rfl)

theorem token_of_asked {k : Option IdentityKind} {t : RilToken} (h : (k, t) ∈ identityAsked tr) :
    t ∈ identityTokens tr := by
  rw [identityTokens_eq_map]
  exact List.mem_map_of_mem h

theorem asked_ne_null {k : Option IdentityKind} {t : RilToken} (h : (k, t) ∈ identityAsked tr) :
    t ≠ rilTokenNull := by
  obtain ⟨b, -, hb⟩ := List.mem_flatMap.mp h
  have hasked : b.1.asked = some (k, t) := Option.mem_toList.mp hb
  cases he : b.1 with
  | request _ r | radioPower r _ =>
    rw [he] at hasked
    have hr : r.1 = t := congrArg Prod.snd (Option.some_inj.mp hasked)
    exact hr ▸ r.2
  | loadSecData | cpSystemStart | simOpen | simStatus =>
    rw [he] at hasked
    cases hasked

theorem IdentityInv.kept (hs : IdentityInv tr s) (hnodup : (identityTokens tr).Nodup) :
    IdentitiesKept tr s := by
  intro k t hasked
  obtain ⟨-, honce, hdisjoint⟩ := nodup_of_owed hs.balance.le hnodup
  by_cases hslot : s.tokens.identity k = t
  · subst hslot
    rw [if_pos rfl, List.count_eq_zero]
    exact hdisjoint _ (waiting_of_slot k (asked_ne_null hasked))
  · rw [if_neg hslot]
    apply List.count_eq_one_of_mem honce
    rcases held_or_paid hs.balance.ge (token_of_asked hasked) with hwaits | hdone
    · obtain ⟨j, rfl, hne⟩ := slot_of_waiting hwaits
      -- The token of another variable came with another request.
      have hj := (hs.slots j).resolve_left hne
      obtain rfl : j = k := Option.some_inj.mp (asked_unique hnodup hj hasked)
      exact absurd rfl hslot
    · exact hdone

theorem identityStep_inv (hs : IdentityInv tr s) (hkeeps : KeepsWaiting s a)
    (h : IdentityStep s a u) : IdentityInv (tr ++ [a]) u where
  balance := by
    have hnone : s.lostBy a.1 = 0 := by
      unfold RilData.lostBy
      rcases hkeeps with hnull | hfinds
      · rw [hnull, slotToken_null, ite_self]
      · exact if_pos hfinds
    have hbalance := identityStep_balance h hs.balance
    rwa [hnone, add_zero] at hbalance
  slots := by
    intro k
    rw [identityAsked_snoc, List.mem_append]
    rcases (identityStep_change h).slots k with hnull | hsame | hnew
    · exact .inl hnull
    · rw [hsame]
      exact (hs.slots k).imp_right .inl
    · exact .inr (.inr (Option.mem_toList.mpr hnew))

theorem keepsWaiting_of_kept (hs : IdentityInv tr s) (h : IdentityStep s a u)
    (hnodup : (identityTokens (tr ++ [a])).Nodup) (hkept : IdentitiesKept (tr ++ [a]) u) :
    KeepsWaiting s a := by
  by_contra hlost
  rw [KeepsWaiting, not_or] at hlost
  obtain ⟨hne, hmissing⟩ := hlost
  have hbalance := identityStep_balance h hs.balance
  rw [RilData.lostBy, if_neg hmissing, slotToken_of_ne hne] at hbalance
  have hasked : (some a.1.kind, s.tokens.identity a.1.kind) ∈ identityAsked (tr ++ [a]) := by
    rw [identityAsked_snoc]
    exact List.mem_append_left _ ((hs.slots _).resolve_left hne)
  have hcount := hkept _ _ hasked
  -- The lost token is accounted for once more, in its variable or among the completed ones.
  have htwice := congrArg (Multiset.count (s.tokens.identity a.1.kind)) hbalance
  rw [Multiset.count_add, Multiset.count_add, Multiset.count_singleton_self, Multiset.coe_count,
    Multiset.coe_count, hcount, List.count_eq_one_of_mem hnodup (token_of_asked hasked)] at htwice
  split_ifs at htwice with hslot
  · have hwaits := waiting_of_slot a.1.kind (hslot ▸ hne)
    rw [hslot, ← Multiset.one_le_count_iff_mem] at hwaits
    omega
  · omega

theorem noneWaiting_inv (h : NoneWaiting s₀) : IdentityInv [] s₀ where
  balance := by
    have hnone : s₀.waiting = 0 := by
      apply Multiset.eq_zero_of_forall_notMem
      intro t ht
      obtain ⟨k, rfl, hne⟩ := slot_of_waiting ht
      exact hne (h k)
    rw [hnone, zero_add]
    rfl
  slots := fun k => .inl (h k)

/-- **The runs that lose no request for an identity or a version** are those in which every event
finds the data it looks for, or nothing that waits for them. -/
theorem identitiesKept_iff (hs₀ : NoneWaiting s₀) (hnodup : (identityTokens tr).Nodup) :
    (Run IdentityStep s₀ tr s ∧ ∀ tr₁ u, tr₁ <+: tr → Run IdentityStep s₀ tr₁ u →
      IdentitiesKept tr₁ u) ↔ Run (IdentityStep.when KeepsWaiting) s₀ tr s :=
  Run.prefixes_iff (N := fun tr => (identityTokens tr).Nodup)
    (fun _ _ _ _ => Step.ofFun_deterministic)
    (nodup_of_isPrefix fun a : IdentityEvent × List IdentityEffect =>
      (a.1.asked.map Prod.snd).toList) (noneWaiting_inv hs₀)
    (fun _ _ _ _ _ hs hkeeps h => identityStep_inv hs hkeeps h)
    (fun _ _ hn hs => hs.kept hn)
    (fun _ _ _ _ hn hs h hkept => keepsWaiting_of_kept hs h hn hkept) hnodup

/-- Both requests wait until the modem starts, which tells the version. -/
theorem identitiesKept_started :
    let r := Lib.exec identityHandler .init
      [.request .imei ⟨1, by decide⟩, .request .basebandVersion ⟨2, by decide⟩, .loadSecData [],
        .cpSystemStart [0x53] 2, .radioPower ⟨3, by decide⟩ 1, .simStatus .ready]
    IdentitiesKept r.1 r.2 := by
  intro r
  have hrun : Run (IdentityStep.when KeepsWaiting) .init r.1 r.2 :=
    .cons ⟨.inl rfl, rfl⟩ (.cons ⟨.inl rfl, rfl⟩ (.cons ⟨.inr fun h => h.elim, rfl⟩
      (.cons ⟨.inr fun h => h.elim, rfl⟩ (.cons ⟨.inr fun _ => List.cons_ne_nil _ _, rfl⟩
        (.cons ⟨.inr fun _ => List.cons_ne_nil _ _, rfl⟩ .nil)))))
  have hidle : NoneWaiting .init := by
    rintro (_ | _ | _)
    · rfl
    · rfl
    · rfl
  have hnodup : (identityTokens r.1).Nodup := by decide
  exact ((identitiesKept_iff hidle hnodup).mpr hrun).2 r.1 r.2 (List.prefix_refl _) hrun.of_when

/-- The modem starts with an empty version, and when the SIM is ready the request for the version is
handed to its handler, stored again, and cleared. -/
theorem not_identitiesKept_emptyVersion :
    ¬∀ (tr : List (IdentityEvent × List IdentityEffect)) (s : RilData),
      Run IdentityStep .init tr s → (identityTokens tr).Nodup → IdentitiesKept tr s := by
  intro h
  have hkept := h _ _ (Run.exec identityHandler .init
    [.request .basebandVersion ⟨1, by decide⟩, .cpSystemStart [] 1, .radioPower ⟨2, by decide⟩ 1,
      .simStatus .ready]) (by decide)
  exact absurd (hkept .basebandVersion 1 (by decide)) (by decide)

end Runs

end Mocha.Ril
