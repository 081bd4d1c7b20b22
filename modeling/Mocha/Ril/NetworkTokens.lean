import Mocha.Ril.Network

/-! The tokens of the requests for a search and for a selection, each of which waits in one variable.
A search result is passed on whether or not a request waits for it, a selection is confirmed by two
indications of which only one looks, and a new request takes the variable in any case. -/
namespace Mocha.Ril
open Mocha.Lib

inductive NetworkEvent
  | queryAvailableNetworks (t : RequestToken)
  | setNetworkSelectionAutomatic (t : RequestToken)
  | setNetworkSelectionManual (t : RequestToken) (data : Option (CString × ℕ))
  | searchCnf (entries : List TapiNetSearchCnf)
  | selectCnf (netInfo : TapiNetworkInfo)
  | selectInd (netInfo : TapiNetworkInfo)

def networkHandler (s : RilData) : NetworkEvent → Option (RilData × List RilEffect)
  | .queryAvailableNetworks t => some (rilRequestQueryAvailableNetworks s t.1)
  | .setNetworkSelectionAutomatic t => some (rilRequestSetNetworkSelectionAutomatic s t.1)
  | .setNetworkSelectionManual t data => some (rilRequestSetNetworkSelectionManual s t.1 data)
  | .searchCnf entries => some (ipcNetworkSearchCnf s entries)
  | .selectCnf netInfo => some (ipcNetworkSelectCnf s netInfo)
  | .selectInd netInfo => ipcNetworkSelect s netInfo

/-- The token that an event brings in. -/
def NetworkEvent.token : NetworkEvent → Option RilToken
  | .queryAvailableNetworks t | .setNetworkSelectionAutomatic t | .setNetworkSelectionManual t _ =>
    some t.1
  | _ => none

/-- Whether a search is unanswered after the event. -/
def NetworkEvent.searching : NetworkEvent → Bool → Bool
  | .queryAvailableNetworks _, _ => true
  | .searchCnf _, _ => false
  | _, b => b

/-- `ril_data`, and whether a search has been requested since the last search result. -/
structure NetworkExchange where
  ril : RilData
  searching : Bool

def networkExchangeHandler (s : NetworkExchange) (e : NetworkEvent) :
    Option (NetworkExchange × List RilEffect) :=
  (networkHandler s.ril e).map fun r => (⟨r.1, e.searching s.searching⟩, r.2)

abbrev NetworkStep : Step NetworkExchange (NetworkEvent × List RilEffect) :=
  Step.ofPartial networkExchangeHandler

/-- The tokens of the requests of a run. -/
def networkIssued (tr : List (NetworkEvent × List RilEffect)) : List RilToken :=
  tr.flatMap fun a => a.1.token.toList

/-- The tokens that `ril_request_complete` is called with along a run. -/
def networkCompleted (tr : List (NetworkEvent × List RilEffect)) : List RilToken :=
  tr.flatMap fun a => completedTokens a.2

/-- Only outstanding requests are completed: of tokens that came with a request, and once. Every
request is completed, or its token is stored. -/
structure OutstandingOnly (tr : List (NetworkEvent × List RilEffect)) (s : NetworkExchange) : Prop where
  issued : ∀ t ∈ networkCompleted tr, t ∈ networkIssued tr
  nonnull : rilTokenNull ∉ networkCompleted tr
  once : (networkCompleted tr).Nodup
  kept : ∀ t ∈ networkIssued tr, t ∈ networkCompleted tr ∨
    t = s.ril.tokens.queryAvailNetworks ∨ t = s.ril.tokens.networkSelection

/-- A search result answers a request, and a request finds no other one unanswered; likewise for
selections, where an indication that comes unasked does no harm as long as its strings fit. -/
def FindsOutstanding (s : NetworkExchange) (a : NetworkEvent × List RilEffect) : Prop :=
  match a.1 with
  | .queryAvailableNetworks _ => s.searching = false
  | .setNetworkSelectionAutomatic _ => s.ril.tokens.networkSelection = rilTokenNull
  | .setNetworkSelectionManual _ data =>
    selectedNetwork s.ril data = none ∨ s.ril.tokens.networkSelection = rilTokenNull
  | .searchCnf _ => s.searching
  | .selectCnf _ => s.ril.tokens.networkSelection ≠ rilTokenNull
  | .selectInd netInfo => netInfo.Fits

/-- No request for a search or a selection waits. -/
structure NoneOutstanding (s : NetworkExchange) : Prop where
  search : s.ril.tokens.queryAvailNetworks = rilTokenNull
  selection : s.ril.tokens.networkSelection = rilTokenNull
  searching : s.searching = false

/-- The tokens of the unanswered requests. -/
def NetworkExchange.pending (s : NetworkExchange) : Multiset RilToken :=
  (if s.searching then {s.ril.tokens.queryAvailNetworks} else 0) +
    if s.ril.tokens.networkSelection = rilTokenNull then 0 else {s.ril.tokens.networkSelection}

section Change

variable {s : RilData} {e : NetworkEvent} {u : RilData} {out : List RilEffect}

/-- What an event does to the two variables, and what it completes. -/
inductive NetworkChange (s : RilData) : NetworkEvent → RilData → List RilEffect → Prop
  | searchRequested (t : RequestToken) {u : RilData} {out : List RilEffect}
      (hsearch : u.tokens.queryAvailNetworks = t)
      (hselection : u.tokens.networkSelection = s.tokens.networkSelection)
      (hout : completedTokens out = []) : NetworkChange s (.queryAvailableNetworks t) u out
  | selectionRequested (t : RequestToken) {e : NetworkEvent} {u : RilData} {out : List RilEffect}
      (he : e = .setNetworkSelectionAutomatic t ∨
        ∃ data, e = .setNetworkSelectionManual t data ∧ selectedNetwork s data ≠ none)
      (hsearch : u.tokens.queryAvailNetworks = s.tokens.queryAvailNetworks)
      (hselection : u.tokens.networkSelection = t) (hout : completedTokens out = []) :
      NetworkChange s e u out
  | refused (t : RequestToken) (data : Option (CString × ℕ)) {out : List RilEffect}
      (hdata : selectedNetwork s data = none) (hout : completedTokens out = [t.1]) :
      NetworkChange s (.setNetworkSelectionManual t data) s out
  | searched (entries : List TapiNetSearchCnf) {u : RilData} {out : List RilEffect}
      (htokens : u.tokens = s.tokens) (hout : completedTokens out = [s.tokens.queryAvailNetworks]) :
      NetworkChange s (.searchCnf entries) u out
  | selected (netInfo : TapiNetworkInfo) {e : NetworkEvent} {u : RilData} {out : List RilEffect}
      (he : e = .selectCnf netInfo ∨
        e = .selectInd netInfo ∧ s.tokens.networkSelection ≠ rilTokenNull)
      (hsearch : u.tokens.queryAvailNetworks = s.tokens.queryAvailNetworks)
      (hselection : u.tokens.networkSelection = rilTokenNull)
      (hout : completedTokens out = [s.tokens.networkSelection]) : NetworkChange s e u out
  | unasked (netInfo : TapiNetworkInfo) {u : RilData} {out : List RilEffect}
      (hnone : s.tokens.networkSelection = rilTokenNull) (htokens : u.tokens = s.tokens)
      (hout : completedTokens out = []) : NetworkChange s (.selectInd netInfo) u out

theorem completeSelection_tokens (s : RilData) (netInfo : TapiNetworkInfo) :
    (completeSelection s netInfo).1.tokens =
      { s.tokens with networkSelection := rilTokenNull } := by
  unfold completeSelection
  split_ifs
  · rfl
  · rfl

theorem completeSelection_completed (s : RilData) (netInfo : TapiNetworkInfo) :
    completedTokens (completeSelection s netInfo).2 = [s.tokens.networkSelection] := by
  unfold completeSelection
  split_ifs
  · rfl
  · rfl

theorem networkHandler_change (h : networkHandler s e = some (u, out)) : NetworkChange s e u out := by
  cases e with
  | queryAvailableNetworks t =>
    obtain ⟨rfl, rfl⟩ := Prod.mk.inj (Option.some.inj h)
    exact .searchRequested t rfl rfl rfl
  | setNetworkSelectionAutomatic t =>
    obtain ⟨rfl, rfl⟩ := Prod.mk.inj (Option.some.inj h)
    exact .selectionRequested t (.inl rfl) rfl rfl rfl
  | setNetworkSelectionManual t data =>
    have heq : rilRequestSetNetworkSelectionManual s t.1 data = (u, out) := Option.some.inj h
    unfold rilRequestSetNetworkSelectionManual at heq
    cases hdata : selectedNetwork s data with
    | none =>
      rw [hdata] at heq
      obtain ⟨rfl, rfl⟩ := Prod.mk.inj heq
      exact .refused t data hdata rfl
    | some netSelect =>
      rw [hdata] at heq
      obtain ⟨rfl, rfl⟩ := Prod.mk.inj heq
      have hknown : selectedNetwork s data ≠ none := by simp [hdata]
      exact .selectionRequested t (.inr ⟨data, rfl, hknown⟩) rfl rfl rfl
  | searchCnf entries =>
    obtain ⟨rfl, rfl⟩ := Prod.mk.inj (Option.some.inj h)
    exact .searched entries rfl rfl
  | selectCnf netInfo =>
    have heq : completeSelection s netInfo = (u, out) := Option.some.inj h
    have htokens := completeSelection_tokens s netInfo
    have hcompleted := completeSelection_completed s netInfo
    rw [heq] at htokens hcompleted
    exact .selected netInfo (.inl rfl) (by rw [htokens]) (by rw [htokens]) hcompleted
  | selectInd netInfo =>
    obtain ⟨heq, -⟩ := ipcNetworkSelect_eq_some.mp h
    unfold networkSelected at heq
    dsimp only at heq
    by_cases hnone : s.tokens.networkSelection = rilTokenNull
    · rw [if_neg (not_not.mpr hnone)] at heq
      obtain ⟨rfl, rfl⟩ := Prod.mk.inj heq
      exact .unasked netInfo hnone rfl rfl
    · rw [if_pos hnone] at heq
      obtain ⟨hu, hout⟩ := Prod.mk.inj heq
      apply NetworkChange.selected netInfo (.inr ⟨rfl, hnone⟩)
      · rw [← hu, completeSelection_tokens]
      · rw [← hu, completeSelection_tokens]
      · rw [← hout, completedTokens_append, completeSelection_completed]
        rfl

end Change

section Exchange

variable {s u : NetworkExchange} {a : NetworkEvent × List RilEffect}

theorem networkStep_change (h : NetworkStep s a u) :
    NetworkChange s.ril a.1 u.ril a.2 ∧ u.searching = a.1.searching s.searching := by
  obtain ⟨⟨v, out⟩, hr, heq⟩ := Option.map_eq_some_iff.mp h
  obtain ⟨rfl, hout⟩ := Prod.mk.inj heq
  rw [← hout]
  exact ⟨networkHandler_change hr, rfl⟩

/-- The strings of an indication that is handled fit. -/
theorem networkStep_fits {netInfo : TapiNetworkInfo} (h : NetworkStep s a u)
    (he : a.1 = .selectInd netInfo) : netInfo.Fits := by
  obtain ⟨r, hr, -⟩ := Option.map_eq_some_iff.mp h
  rw [he] at hr
  exact (ipcNetworkSelect_eq_some.mp hr).2

/-- An event that finds what is outstanding loses no token and completes none twice. -/
theorem networkStep_balance (h : NetworkStep s a u) (hfinds : FindsOutstanding s a) :
    u.pending + (completedTokens a.2 : Multiset RilToken) =
      s.pending + (a.1.token.toList : Multiset RilToken) := by
  obtain ⟨hchange, hsearching⟩ := networkStep_change h
  obtain ⟨e, out⟩ := a
  obtain ⟨v, searching⟩ := u
  dsimp only at hchange hsearching
  unfold NetworkExchange.pending
  rw [hsearching]
  cases hchange with
  | searchRequested t hsearch hselection hout =>
    have hidle : s.searching = false := hfinds
    rw [hsearch, hselection, hout, hidle]
    simp [NetworkEvent.searching, NetworkEvent.token, add_comm]
  | selectionRequested t he hsearch hselection hout =>
    have hidle : s.ril.tokens.networkSelection = rilTokenNull := by
      rcases he with rfl | ⟨data, rfl, hknown⟩
      · exact hfinds
      · exact hfinds.resolve_left hknown
    have htoken : e.token = some t.1 ∧ e.searching s.searching = s.searching := by
      rcases he with rfl | ⟨data, rfl, -⟩
      · exact ⟨rfl, rfl⟩
      · exact ⟨rfl, rfl⟩
    rw [hsearch, hselection, hout, hidle, htoken.1, htoken.2]
    simp [t.2]
  | refused t data hdata hout =>
    rw [hout]
    rfl
  | searched entries htokens hout =>
    have hsearching : s.searching = true := hfinds
    rw [htokens, hout, hsearching]
    simp [NetworkEvent.searching, NetworkEvent.token, add_comm]
  | selected netInfo he hsearch hselection hout =>
    have hwaits : s.ril.tokens.networkSelection ≠ rilTokenNull := by
      rcases he with rfl | ⟨rfl, hwaits⟩
      · exact hfinds
      · exact hwaits
    have htoken : e.token = none ∧ e.searching s.searching = s.searching := by
      rcases he with rfl | ⟨rfl, -⟩
      · exact ⟨rfl, rfl⟩
      · exact ⟨rfl, rfl⟩
    rw [hsearch, hselection, hout, htoken.1, htoken.2]
    simp [hwaits]
  | unasked netInfo hnone htokens hout =>
    rw [htokens, hout]
    rfl

/-- Every request is pending or completed, and after a search result the variable of the searches
still holds a token that is completed already. -/
structure NetworkInv (tr : List (NetworkEvent × List RilEffect)) (s : NetworkExchange) : Prop where
  balance : s.pending + (networkCompleted tr : Multiset RilToken) = networkIssued tr
  stale : s.searching = false → s.ril.tokens.queryAvailNetworks = rilTokenNull ∨
    s.ril.tokens.queryAvailNetworks ∈ networkCompleted tr

variable {tr : List (NetworkEvent × List RilEffect)} {t : RilToken}

theorem networkIssued_snoc : networkIssued (tr ++ [a]) = networkIssued tr ++ a.1.token.toList := by
  simp [networkIssued]

theorem networkCompleted_snoc :
    networkCompleted (tr ++ [a]) = networkCompleted tr ++ completedTokens a.2 := by
  simp [networkCompleted]

theorem networkToken_ne (h : t ∈ networkIssued tr) : t ≠ rilTokenNull := by
  obtain ⟨b, -, hb⟩ := List.mem_flatMap.mp h
  have htoken : b.1.token = some t := Option.mem_toList.mp hb
  cases he : b.1 with
  | queryAvailableNetworks r | setNetworkSelectionAutomatic r | setNetworkSelectionManual r _ =>
    rw [he] at htoken
    have hr : r.1 = t := Option.some_inj.mp htoken
    exact hr ▸ r.2
  | searchCnf | selectCnf | selectInd =>
    rw [he] at htoken
    cases htoken

theorem mem_pending_search (h : s.searching) : s.ril.tokens.queryAvailNetworks ∈ s.pending := by
  simp [NetworkExchange.pending, h]

theorem mem_pending_selection (h : s.ril.tokens.networkSelection ≠ rilTokenNull) :
    s.ril.tokens.networkSelection ∈ s.pending := by
  simp [NetworkExchange.pending, h]

theorem stored_of_pending (h : t ∈ s.pending) :
    t = s.ril.tokens.queryAvailNetworks ∨ t = s.ril.tokens.networkSelection := by
  rcases Multiset.mem_add.mp h with h | h
  · left
    split_ifs at h
    · exact Multiset.mem_singleton.mp h
    · exact absurd h (Multiset.notMem_zero t)
  · right
    split_ifs at h
    · exact absurd h (Multiset.notMem_zero t)
    · exact Multiset.mem_singleton.mp h

namespace NetworkInv

variable (hs : NetworkInv tr s)

include hs

theorem pending_nodup (hnodup : (networkIssued tr).Nodup) : s.pending.Nodup :=
  (nodup_of_owed hs.balance.le hnodup).1

theorem issued_of_pending (h : t ∈ s.pending) : t ∈ networkIssued tr := owed_of_held hs.balance.le h

theorem not_completed_of_pending (hnodup : (networkIssued tr).Nodup) (h : t ∈ s.pending) :
    t ∉ networkCompleted tr := (nodup_of_owed hs.balance.le hnodup).2.2 t h

/-- The two variables hold different tokens, unless nothing is pending. -/
theorem slots_ne (hnodup : (networkIssued tr).Nodup)
    (h : s.searching ∨ s.ril.tokens.networkSelection ≠ rilTokenNull) :
    s.ril.tokens.queryAvailNetworks ≠ s.ril.tokens.networkSelection := by
  by_cases hselection : s.ril.tokens.networkSelection = rilTokenNull
  · have hsearching := h.resolve_right (not_not.mpr hselection)
    have hissued := hs.issued_of_pending (mem_pending_search hsearching)
    rw [hselection]
    exact networkToken_ne hissued
  · by_cases hsearching : s.searching
    · have hpending := hs.pending_nodup hnodup
      unfold NetworkExchange.pending at hpending
      rw [if_pos hsearching, if_neg hselection] at hpending
      simpa [Multiset.nodup_add] using hpending
    · rw [Bool.not_eq_true] at hsearching
      have hnot := hs.not_completed_of_pending hnodup (mem_pending_selection hselection)
      rcases hs.stale hsearching with hnull | hcompleted
      · rw [hnull]
        exact Ne.symm hselection
      · exact fun heq => hnot (heq ▸ hcompleted)

theorem outstandingOnly (hnodup : (networkIssued tr).Nodup) : OutstandingOnly tr s := by
  constructor
  case issued => exact fun t => owed_of_paid hs.balance.le
  case nonnull => exact fun hnull => networkToken_ne (owed_of_paid hs.balance.le hnull) rfl
  case once => exact (nodup_of_owed hs.balance.le hnodup).2.1
  case kept =>
    intro t ht
    rcases held_or_paid hs.balance.ge ht with hpending | hcompleted
    · exact .inr (stored_of_pending hpending)
    · exact .inl hcompleted

end NetworkInv

theorem networkStep_inv (hs : NetworkInv tr s) (h : NetworkStep s a u)
    (hfinds : FindsOutstanding s a) : NetworkInv (tr ++ [a]) u := by
  constructor
  case balance =>
    rw [networkIssued_snoc, networkCompleted_snoc, ← Multiset.coe_add, ← Multiset.coe_add,
      ← hs.balance, add_comm (networkCompleted tr : Multiset RilToken), ← add_assoc,
      networkStep_balance h hfinds]
    abel
  case stale =>
    intro hidle
    obtain ⟨hchange, hsearching⟩ := networkStep_change h
    obtain ⟨e, out⟩ := a
    obtain ⟨v, searching⟩ := u
    dsimp only at hchange hsearching hidle ⊢
    rw [hsearching] at hidle
    have hkept : s.searching = false → s.ril.tokens.queryAvailNetworks = rilTokenNull ∨
        s.ril.tokens.queryAvailNetworks ∈ networkCompleted (tr ++ [(e, out)]) := by
      intro hidle
      rw [networkCompleted_snoc, List.mem_append]
      exact (hs.stale hidle).imp_right .inl
    cases hchange with
    | searchRequested => cases hidle
    | selectionRequested t he hsearch =>
      rw [hsearch]
      rcases he with rfl | ⟨data, rfl, -⟩
      · exact hkept hidle
      · exact hkept hidle
    | refused => exact hkept hidle
    | searched entries htokens hout =>
      right
      rw [htokens, networkCompleted_snoc, hout]
      exact List.mem_append_right _ List.mem_cons_self
    | selected netInfo he hsearch =>
      rw [hsearch]
      rcases he with rfl | ⟨rfl, -⟩
      · exact hkept hidle
      · exact hkept hidle
    | unasked netInfo hnone htokens =>
      rw [htokens]
      exact hkept hidle

/-- A request that is neither completed nor stored any more is lost. -/
theorem lost_of_overwritten (hs : NetworkInv tr s) (hnodup : (networkIssued tr).Nodup)
    (hu : OutstandingOnly (tr ++ [a]) u) (hout : completedTokens a.2 = []) (ht : t ∈ s.pending)
    (hsearch : t ≠ u.ril.tokens.queryAvailNetworks)
    (hselection : t ≠ u.ril.tokens.networkSelection) : False := by
  have hissued : t ∈ networkIssued (tr ++ [a]) := by
    rw [networkIssued_snoc]
    exact List.mem_append_left _ (hs.issued_of_pending ht)
  rcases hu.kept t hissued with hcompleted | heq | heq
  · rw [networkCompleted_snoc, hout, List.append_nil] at hcompleted
    exact hs.not_completed_of_pending hnodup ht hcompleted
  · exact hsearch heq
  · exact hselection heq

theorem findsOutstanding_of_outstandingOnly (hs : NetworkInv tr s) (h : NetworkStep s a u)
    (hnodup : (networkIssued (tr ++ [a])).Nodup) (hu : OutstandingOnly (tr ++ [a]) u) :
    FindsOutstanding s a := by
  obtain ⟨hchange, -⟩ := networkStep_change h
  have hfits : ∀ netInfo, a.1 = .selectInd netInfo → netInfo.Fits := fun _ => networkStep_fits h
  rw [networkIssued_snoc, List.nodup_append] at hnodup
  obtain ⟨hnodup, -, hnew⟩ := hnodup
  have hfresh : ∀ {t r}, t ∈ s.pending → a.1.token = some r → t ≠ r := by
    intro t r ht hr
    exact hnew t (hs.issued_of_pending ht) r (Option.mem_toList.mpr hr)
  have hcompleted : ∀ t, completedTokens a.2 = [t] → t ≠ rilTokenNull ∧ t ∉ networkCompleted tr := by
    intro t hout
    have honce := hu.once
    have hnonnull := hu.nonnull
    rw [networkCompleted_snoc, hout] at honce hnonnull
    constructor
    · rintro rfl
      exact hnonnull (List.mem_append_right _ List.mem_cons_self)
    · exact fun ht => (List.nodup_append.mp honce).2.2 t ht t List.mem_cons_self rfl
  obtain ⟨e, out⟩ := a
  obtain ⟨v, searching⟩ := u
  dsimp only at hchange hfits
  cases hchange with
  | searchRequested t hsearch hselection hout =>
    show s.searching = false
    by_contra hsearching
    rw [Bool.not_eq_false] at hsearching
    have hpending := mem_pending_search hsearching
    apply lost_of_overwritten hs hnodup hu hout hpending
    · rw [hsearch]
      exact hfresh hpending rfl
    · rw [hselection]
      exact hs.slots_ne hnodup (.inl hsearching)
  | selectionRequested t he hsearch hselection hout =>
    have hidle : s.ril.tokens.networkSelection = rilTokenNull := by
      by_contra hwaits
      have hpending := mem_pending_selection hwaits
      have htoken : e.token = some t.1 := by
        rcases he with rfl | ⟨data, rfl, -⟩
        · rfl
        · rfl
      apply lost_of_overwritten hs hnodup hu hout hpending
      · rw [hsearch]
        exact (hs.slots_ne hnodup (.inr hwaits)).symm
      · rw [hselection]
        exact hfresh hpending htoken
    rcases he with rfl | ⟨data, rfl, -⟩
    · exact hidle
    · exact .inr hidle
  | refused t data hdata => exact .inl hdata
  | searched entries htokens hout =>
    show s.searching = true
    by_contra hidle
    rw [Bool.not_eq_true] at hidle
    obtain ⟨hne, hnot⟩ := hcompleted _ hout
    exact (hs.stale hidle).elim hne hnot
  | selected netInfo he hsearch hselection hout =>
    rcases he with rfl | ⟨rfl, -⟩
    · exact (hcompleted _ hout).1
    · exact hfits netInfo rfl
  | unasked netInfo => exact hfits netInfo rfl

end Exchange

section Runs

variable {s₀ s : NetworkExchange} {tr : List (NetworkEvent × List RilEffect)}

theorem noneOutstanding_inv (h : NoneOutstanding s₀) : NetworkInv [] s₀ := by
  constructor
  case balance => simp [NetworkExchange.pending, h.searching, h.selection, networkCompleted, networkIssued]
  case stale => exact fun _ => .inl h.search

/-- **The runs that complete outstanding requests only, and lose none**, are those in which every
result finds its request, every request a free variable, and every string its room. -/
theorem network_outstandingOnly_iff (hs₀ : NoneOutstanding s₀) (hnodup : (networkIssued tr).Nodup) :
    (Run NetworkStep s₀ tr s ∧ ∀ tr₁ u, tr₁ <+: tr → Run NetworkStep s₀ tr₁ u →
      OutstandingOnly tr₁ u) ↔ Run (NetworkStep.when FindsOutstanding) s₀ tr s :=
  Run.prefixes_iff (N := fun tr => (networkIssued tr).Nodup)
    (fun _ _ _ _ => Step.ofPartial_deterministic)
    (nodup_of_isPrefix fun a : NetworkEvent × List RilEffect => a.1.token.toList) (noneOutstanding_inv hs₀)
    (fun _ _ _ _ _ hs hfinds h => networkStep_inv hs h hfinds)
    (fun _ _ hn hs => hs.outstandingOnly hn)
    (fun _ _ _ _ hn hs h hu => findsOutstanding_of_outstandingOnly hs h hn hu) hnodup

/-- A search and a selection, both answered. -/
theorem network_outstandingOnly_both :
    ∃ r, execPartial networkExchangeHandler ⟨.init, false⟩
      [.queryAvailableNetworks ⟨1, by decide⟩, .setNetworkSelectionAutomatic ⟨2, by decide⟩,
        .searchCnf [], .selectCnf ⟨tapiServiceLevelFull, 1, 0, [], []⟩,
        .selectInd ⟨tapiServiceLevelFull, 1, 0, [], []⟩] = some r ∧ OutstandingOnly r.1 r.2 := by
  have hfits : TapiNetworkInfo.Fits ⟨tapiServiceLevelFull, 1, 0, [], []⟩ := ⟨by decide, by decide⟩
  have hidle : NoneOutstanding ⟨.init, false⟩ := ⟨rfl, rfl, rfl⟩
  have hkept : ∀ tr s, Run (NetworkStep.when FindsOutstanding) ⟨.init, false⟩ tr s →
      (networkIssued tr).Nodup → OutstandingOnly tr s := fun tr s hrun hnodup =>
    ((network_outstandingOnly_iff hidle hnodup).mpr hrun).2 tr s (List.prefix_refl _) hrun.of_when
  refine ⟨_, rfl, hkept _ _ ?_ (by decide)⟩
  exact .cons ⟨rfl, rfl⟩ (.cons ⟨rfl, rfl⟩ (.cons ⟨rfl, rfl⟩ (.cons ⟨Nat.succ_ne_zero 1, rfl⟩
    (.cons ⟨hfits, rfl⟩ .nil))))

/-- NETWORK_SELECT finishes a selection, and SELECT_CNF, which follows, completes the null token. -/
theorem not_outstandingOnly_confirmedTwice :
    ¬∀ (tr : List (NetworkEvent × List RilEffect)) (s : NetworkExchange),
      Run NetworkStep ⟨.init, false⟩ tr s → (networkIssued tr).Nodup → OutstandingOnly tr s := by
  intro h
  obtain ⟨r, hr⟩ : ∃ r, execPartial networkExchangeHandler ⟨.init, false⟩
      [.setNetworkSelectionAutomatic ⟨1, by decide⟩, .selectInd ⟨tapiServiceLevelFull, 1, 0, [], []⟩,
        .selectCnf ⟨tapiServiceLevelFull, 1, 0, [], []⟩] = some r := ⟨_, rfl⟩
  have honly := h _ _ (Run.execPartial hr)
  obtain rfl := Option.some.inj hr
  replace honly := honly (by decide)
  exact absurd honly.nonnull (by decide)

end Runs

end Mocha.Ril
