import Mathlib.Data.Multiset.AddSub
import Mathlib.Data.Multiset.UnionInter
import Mocha.Ril.GprsCids

/-! The tokens of the data-call requests. The modem answers the START_NETWORK requests in the order
in which they were sent, but the handlers look for a connection by the placeholder id alone, and one
token stands for the set-up and for the deactivation of a connection. -/
namespace Mocha.Ril
open Mocha.Lib

/-- The token of a connection, if it has one. -/
def RilGprsConnection.pending (c : RilGprsConnection) : Option RilToken :=
  if c.token = rilTokenNull then none else some c.token

/-- The tokens that connections hold. -/
def pendingTokens (cs : List RilGprsConnection) : Multiset RilToken := cs.filterMap (·.pending)

abbrev GprsData.tokens (s : GprsData) : Multiset RilToken := pendingTokens s.gprsConnections

/-- The tokens that a handler completes. -/
def gprsCompleted (out : List GprsEffect) : List RilToken := (gprsCompletions out).map (·.token)

def GprsEvent.issued (e : GprsEvent) : List RilToken := e.token.toList.map Subtype.val

/-- The token of a set-up that has been sent to the modem. -/
def startRequest (a : GprsEvent × List GprsEffect) : List RilToken :=
  match a.1 with
  | .setupDataCall t .. => if a.2.any GprsEffect.startsNetwork then [t.1] else []
  | _ => []

/-- The connections, and the set-ups that the modem has not answered, the oldest first. -/
structure GprsExchange where
  data : GprsData
  awaited : List RilToken

def GprsExchange.init : GprsExchange := ⟨.init, []⟩

def exchangeHandler (s : GprsExchange) (e : GprsEvent) : GprsExchange × List GprsEffect :=
  let r := gprsHandler s.data e
  (⟨r.1, if e.answers then s.awaited.tail else s.awaited ++ startRequest (e, r.2)⟩, r.2)

/-- The modem sends one answer for each START_NETWORK. -/
def ExchangeStep : Step GprsExchange (GprsEvent × List GprsEffect) :=
  (Step.ofFun exchangeHandler).when fun s a => a.1.answers → s.awaited ≠ []

/-- The requests of a run, the set-ups among them that were sent, and what was completed. -/
def gprsIssued (tr : List (GprsEvent × List GprsEffect)) : List RilToken :=
  tr.flatMap fun a => a.1.issued

def gprsStarted (tr : List (GprsEvent × List GprsEffect)) : List RilToken := tr.flatMap startRequest

def gprsCompletedIn (tr : List (GprsEvent × List GprsEffect)) : List RilToken :=
  tr.flatMap fun a => gprsCompleted a.2

/-- What a run should keep to: an answered set-up has been completed once, no token gets lost, and
the null token is never completed. -/
structure SetUpsCompleted (tr : List (GprsEvent × List GprsEffect)) (s : GprsExchange) : Prop where
  answered : ∀ t ∈ gprsStarted tr, t ∉ s.awaited → (gprsCompletedIn tr).count t = 1
  kept : ∀ t ∈ gprsIssued tr, t ∈ gprsCompletedIn tr ∨ t ∈ s.data.tokens
  nonnull : rilTokenNull ∉ gprsCompletedIn tr

/-- An answer finds the connection of the oldest set-up, as long as that holds its token, and in no
case one without a request; and no request takes or drops the token of a pending one. -/
def FindsOwnSetUp (s : GprsExchange) (a : GprsEvent × List GprsEffect) : Prop :=
  match a.1 with
  | .deactivateDataCall _ (some cid) => ∀ i c,
      rilGprsConnectionFindCid s.data (atoi cid) = some (i, c) → c.token = rilTokenNull
  | .lastDataCallFailCause _ => ∀ i c, s.data.gprsLastFailedCid ≠ 0 →
      rilGprsConnectionFindCid s.data s.data.gprsLastFailedCid = some (i, c) → c.token = rilTokenNull
  | e => e.answers → ∀ i c, rilGprsConnectionFindContextId s.data contextIdPlaceholder = some (i, c) →
      c.token ≠ rilTokenNull ∧ ∀ t ∈ s.awaited.head?, t ∈ s.data.tokens → c.token = t

section Change

variable {s u : GprsData} {e : GprsEvent} {out : List GprsEffect} {t : RilToken}
  {left right : List RilGprsConnection} {c d : RilGprsConnection} {p : RilGprsConnection → Bool}

theorem pending_eq_some_iff : c.pending = some t ↔ c.token = t ∧ t ≠ rilTokenNull := by
  unfold RilGprsConnection.pending
  split_ifs with hnull
  · simp only [false_iff, not_and, not_not]
    rintro rfl
    exact hnull
  · rw [Option.some_inj]
    constructor
    · rintro rfl
      exact ⟨rfl, hnull⟩
    · exact fun h => h.1

theorem pending_of_null (h : c.token = rilTokenNull) : c.pending = none := if_pos h

theorem pending_of_ne (h : c.token ≠ rilTokenNull) : c.pending = some c.token := if_neg h

theorem mem_tokens :
    t ∈ s.tokens ↔ ∃ c ∈ s.gprsConnections, c.token = t ∧ t ≠ rilTokenNull := by
  simp only [pendingTokens, Multiset.mem_coe, List.mem_filterMap, pending_eq_some_iff]

theorem tokens_replaced (hfirst : IsFirst p s.gprsConnections left c right) :
    pendingTokens (left ++ d :: right) + (c.pending.toList : Multiset RilToken) =
      s.tokens + d.pending.toList := by
  rw [pendingTokens, GprsData.tokens, pendingTokens, hfirst.eq, coe_filterMap_split,
    coe_filterMap_split, add_right_comm]

/-- A connection loses its token. -/
theorem tokens_taken (hfirst : IsFirst p s.gprsConnections left c right)
    (hc : c.token ≠ rilTokenNull) (hd : d.token = rilTokenNull) :
    pendingTokens (left ++ d :: right) + {c.token} = s.tokens := by
  have htokens := tokens_replaced (d := d) hfirst
  rwa [pending_of_ne hc, pending_of_null hd, Option.toList_none, Multiset.coe_nil, add_zero] at htokens

/-- A connection without a token gets one. -/
theorem tokens_put (hfirst : IsFirst p s.gprsConnections left c right)
    (hc : c.token = rilTokenNull) (hd : d.token ≠ rilTokenNull) :
    pendingTokens (left ++ d :: right) = s.tokens + {d.token} := by
  have htokens := tokens_replaced (d := d) hfirst
  rwa [pending_of_null hc, pending_of_ne hd, Option.toList_none, Multiset.coe_nil, add_zero] at htokens

theorem tokens_kept (hfirst : IsFirst p s.gprsConnections left c right) (h : d.token = c.token) :
    pendingTokens (left ++ d :: right) = s.tokens := by
  have hpending : d.pending = c.pending := by rw [RilGprsConnection.pending, h]; rfl
  have htokens := tokens_replaced (d := d) hfirst
  rw [hpending] at htokens
  exact add_right_cancel htokens

/-- A connection leaves the list. -/
theorem tokens_removed (hfirst : IsFirst p s.gprsConnections left c right) :
    s.tokens = pendingTokens (left ++ right) + (c.pending.toList : Multiset RilToken) := by
  rw [pendingTokens, GprsData.tokens, pendingTokens, hfirst.eq, coe_filterMap_split]

/-- A connection joins the list. -/
theorem tokens_added (h : c.token ≠ rilTokenNull) :
    pendingTokens (s.gprsConnections ++ [c]) = s.tokens + {c.token} := by
  rw [pendingTokens, List.filterMap_append, List.filterMap_cons, pending_of_ne h, List.filterMap_nil,
    ← Multiset.coe_add]
  rfl

theorem findsOwnSetUp_iff {s : GprsExchange} {a : GprsEvent × List GprsEffect} (ha : a.1.answers) :
    FindsOwnSetUp s a ↔ ∀ i c,
      rilGprsConnectionFindContextId s.data contextIdPlaceholder = some (i, c) →
        c.token ≠ rilTokenNull ∧ ∀ t ∈ s.awaited.head?, t ∈ s.data.tokens → c.token = t := by
  obtain ⟨e, out⟩ := a
  cases e with
  | startingNetworkInd error => exact ⟨fun h => h ha, fun h _ => h⟩
  | startNetworkCnf netCnf threadStarted configured => exact ⟨fun h => h ha, fun h _ => h⟩
  | _ => cases ha

theorem issued_of_token {t : RequestToken} (h : e.token = some t) :
    (e.issued : Multiset RilToken) = {t.1} := by
  rw [GprsEvent.issued, h, Option.toList_some, List.map_singleton, Multiset.coe_singleton]

theorem issued_of_none (h : e.token = none) : (e.issued : Multiset RilToken) = 0 := by
  rw [GprsEvent.issued, h, Option.toList_none, List.map_nil, Multiset.coe_nil]

theorem token_of_answers (he : e.answers) : e.token = none := by
  cases e with
  | startingNetworkInd error => rfl
  | startNetworkCnf netCnf threadStarted configured => rfl
  | _ => cases he

/-- An event that finds its own set-up loses no token and completes none twice. -/
theorem gprsChange_balance (awaited : List RilToken) (h : GprsChange s e u out)
    (hfinds : FindsOwnSetUp ⟨s, awaited⟩ (e, out)) :
    u.tokens + (gprsCompleted out : Multiset RilToken) = s.tokens + (e.issued : Multiset RilToken) := by
  unfold gprsCompleted
  cases h with
  | opened t d iface c _ _ _ _ _ htoken _ hout =>
    have hc : c.token ≠ rilTokenNull := htoken ▸ t.2
    rw [hout, issued_of_token rfl, ← htoken, List.map_nil, Multiset.coe_nil, add_zero]
    exact tokens_added hc
  | answered _ ht htoken _ _ _ hout =>
    rw [hout, issued_of_token ht, List.map_singleton, htoken, Multiset.coe_singleton]
  | deactivating t cid hfirst hout =>
    have hnull := hfinds _ _ hfirst.findCell?_eq
    rw [hout, issued_of_token rfl, List.map_nil, Multiset.coe_nil, add_zero]
    exact tokens_put hfirst hnull t.2
  | queried t hcid hfirst hout =>
    have hnull := hfinds _ _ hcid hfirst.findCell?_eq
    rw [hout, issued_of_token rfl, tokens_removed hfirst, pending_of_null hnull, Option.toList_none,
      Multiset.coe_nil, add_zero, List.map_singleton, Multiset.coe_singleton]
  | queriedNone t _ hout =>
    rw [hout, issued_of_token rfl, List.map_singleton, Multiset.coe_singleton]
  | failed he _ hfirst _ hnull _ hout =>
    have hc := ((findsOwnSetUp_iff he).mp hfinds _ _ hfirst.findCell?_eq).1
    rw [hout, issued_of_none (token_of_answers he), List.map_singleton, Multiset.coe_singleton, add_zero]
    exact tokens_taken hfirst hc hnull
  | established he _ hfirst _ hnull hout =>
    have hc := ((findsOwnSetUp_iff he).mp hfinds _ _ hfirst.findCell?_eq).1
    rw [hout, issued_of_none (token_of_answers he), List.map_singleton, Multiset.coe_singleton, add_zero]
    exact tokens_taken hfirst hc hnull
  | ended he errno hfirst hout =>
    have htoken : e.token = none := by
      rcases he with rfl | rfl
      · rfl
      · rfl
    rw [hout, issued_of_none htoken, add_zero, tokens_removed hfirst, RilGprsConnection.pending]
    split_ifs with hne hnull
    · rfl
    · rfl
    · exact absurd hnull hne
  | linked active he hfirst hout =>
    have htoken : e.token = none := by
      rcases he with rfl | rfl
      · rfl
      · rfl
    rw [hout, issued_of_none htoken, List.map_nil, Multiset.coe_nil]
    exact congrArg (· + 0) (tokens_kept hfirst rfl)
  | idle ht _ hout => rw [hout, issued_of_none ht, List.map_nil, Multiset.coe_nil]

theorem startRequest_sublist {a : GprsEvent × List GprsEffect} :
    (startRequest a).Sublist a.1.issued := by
  obtain ⟨e, out⟩ := a
  cases e with
  | setupDataCall t data allocated iface =>
    unfold startRequest
    dsimp only
    split_ifs
    · exact List.Sublist.refl _
    · exact List.nil_sublist _
  | _ => exact List.nil_sublist _

theorem startRequest_of_answers (he : e.answers) : startRequest (e, out) = [] := by
  cases e with
  | startingNetworkInd error => rfl
  | startNetworkCnf netCnf threadStarted configured => rfl
  | _ => cases he

/-- A token is held where it was held before, or it is the request's own, and that of a set-up waits
under the placeholder id. -/
theorem gprsChange_held (h : GprsChange s e u out) (hd : d ∈ u.gprsConnections)
    (hne : d.token ≠ rilTokenNull) :
    (∃ c ∈ s.gprsConnections, c.token = d.token ∧ c.contextId = d.contextId) ∨
      (d.token ∈ e.issued ∧ (d.token ∈ startRequest (e, out) → d.placeholder)) := by
  have hsame : ∀ {d}, d ∈ s.gprsConnections →
      ∃ c ∈ s.gprsConnections, c.token = d.token ∧ c.contextId = d.contextId :=
    fun {d} hd => ⟨d, hd, rfl, rfl⟩
  cases h with
  | opened t' _ _ c _ _ _ _ _ htoken hplaceholder _ hstart =>
    rcases List.mem_append.mp hd with hd | hd
    · exact .inl (hsame hd)
    · rw [List.mem_singleton] at hd
      subst hd
      right
      constructor
      · exact List.mem_singleton.mpr htoken
      · exact fun _ => hplaceholder
  | deactivating t' cid hfirst =>
    rcases hfirst.mem_replaced hd with rfl | hd
    · exact .inr ⟨List.mem_singleton_self _, nofun⟩
    · exact .inl (hsame hd)
  | queried _ _ hfirst => exact .inl (hsame (hfirst.removed_sublist.subset hd))
  | ended _ _ hfirst => exact .inl (hsame (hfirst.removed_sublist.subset hd))
  | failed _ _ hfirst _ hnull =>
    rcases hfirst.mem_replaced hd with rfl | hd
    · exact absurd hnull hne
    · exact .inl (hsame hd)
  | established _ _ hfirst _ hnull =>
    rcases hfirst.mem_replaced hd with rfl | hd
    · exact absurd hnull hne
    · exact .inl (hsame hd)
  | linked _ _ hfirst =>
    rcases hfirst.mem_replaced hd with rfl | hd
    · exact .inl ⟨_, hfirst.mem, rfl, rfl⟩
    · exact .inl (hsame hd)
  | answered => exact .inl (hsame hd)
  | queriedNone => exact .inl (hsame hd)
  | idle => exact .inl (hsame hd)

/-- An answer of the modem completes the token of the first connection under the placeholder id. -/
theorem gprsChange_answered (h : GprsChange s e u out) (he : e.answers) {i : ℕ}
    (hfind : rilGprsConnectionFindContextId s contextIdPlaceholder = some (i, c)) :
    gprsCompleted out = [c.token] := by
  have hfound : ∀ {left right : List RilGprsConnection} {b : RilGprsConnection},
      IsFirst (·.placeholder) s.gprsConnections left b right → b = c := by
    intro left right b hfirst
    have hboth : some (left.length, b) = some (i, c) := hfirst.findCell?_eq.symm.trans hfind
    exact (Prod.mk.inj (Option.some.inj hboth)).2
  unfold gprsCompleted
  cases h with
  | failed _ _ hfirst _ _ _ hout => rw [hout, List.map_singleton, hfound hfirst]
  | established _ _ hfirst _ _ hout => rw [hout, List.map_singleton, hfound hfirst]
  | idle _ hnone _ =>
    have hcell : findCell? (·.placeholder) s.gprsConnections = some (i, c) := hfind
    rw [findCell?_eq_none.mpr (hnone he)] at hcell
    cases hcell
  | answered _ ht => rw [token_of_answers he] at ht; cases ht
  | ended h => rcases h with rfl | rfl <;> cases he
  | linked _ h => rcases h with rfl | rfl <;> cases he
  | _ => cases he

/-- DEACTIVATE takes the token of a connection for its own. -/
theorem deactivate_takes {t : RequestToken} {cid : CString} {i : ℕ}
    (h : GprsChange s (.deactivateDataCall t (some cid)) u out)
    (hfind : rilGprsConnectionFindCid s (atoi cid) = some (i, c)) (hc : c.token ≠ rilTokenNull) :
    gprsCompleted out = [] ∧ u.tokens + {c.token} = s.tokens + {t.1} := by
  cases h with
  | answered _ _ _ _ hunknown =>
    have hmem := findCell?_eq_some hfind
    obtain ⟨left, right, hfirst, -⟩ := hmem
    exact absurd (by simpa using hfirst.test) (hunknown t cid rfl c hfirst.mem)
  | deactivating _ _ hfirst hout =>
    have hboth := hfirst.findCell?_eq.symm.trans hfind
    obtain rfl := (Prod.mk.inj (Option.some.inj hboth)).2.symm
    have htokens := tokens_replaced (d := { c with token := t.1 }) hfirst
    rw [pending_of_ne hc, pending_of_ne t.2] at htokens
    constructor
    · rw [gprsCompleted, hout, List.map_nil]
    · exact htokens
  | idle ht => cases ht
  | ended he => rcases he with he | he <;> cases he
  | linked _ he => rcases he with he | he <;> cases he
  | failed he => cases he
  | established he => cases he

/-- A query of the fail cause drops the token of the connection that it removes. -/
theorem query_drops {t : RequestToken} {i : ℕ} (h : GprsChange s (.lastDataCallFailCause t) u out)
    (hcid : s.gprsLastFailedCid ≠ 0)
    (hfind : rilGprsConnectionFindCid s s.gprsLastFailedCid = some (i, c))
    (hc : c.token ≠ rilTokenNull) :
    gprsCompleted out = [t.1] ∧ u.tokens + {c.token} = s.tokens := by
  rcases gprsChange_query h with ⟨left, b, right, -, hfirst, rfl, hout⟩ | ⟨hnone, -, -⟩
  · have hboth := hfirst.findCell?_eq.symm.trans hfind
    obtain rfl := (Prod.mk.inj (Option.some.inj hboth)).2
    constructor
    · rw [gprsCompleted, hout, List.map_singleton]
    · rw [tokens_removed hfirst, pending_of_ne hc]
      rfl
  · have hmem := findCell?_eq_some hfind
    obtain ⟨left, right, hfirst, -⟩ := hmem
    exact absurd (by simpa using hfirst.test) (hnone hcid c hfirst.mem)

end Change

section Exchange

variable {s u : GprsExchange} {a : GprsEvent × List GprsEffect} {t : RilToken}
  {tr : List (GprsEvent × List GprsEffect)}

@[simp] theorem gprsIssued_snoc : gprsIssued (tr ++ [a]) = gprsIssued tr ++ a.1.issued := by
  simp [gprsIssued]

@[simp] theorem gprsStarted_snoc : gprsStarted (tr ++ [a]) = gprsStarted tr ++ startRequest a := by
  simp [gprsStarted]

@[simp] theorem gprsCompletedIn_snoc :
    gprsCompletedIn (tr ++ [a]) = gprsCompletedIn tr ++ gprsCompleted a.2 := by
  simp [gprsCompletedIn]

theorem gprsStarted_sublist : (gprsStarted tr).Sublist (gprsIssued tr) := by
  induction tr with
  | nil => exact List.Sublist.refl _
  | cons a tr ih =>
    have ha : (startRequest a).Sublist a.1.issued := startRequest_sublist
    exact ha.append ih

theorem gprsStarted_subset (h : t ∈ gprsStarted tr) : t ∈ gprsIssued tr :=
  gprsStarted_sublist.subset h

theorem ne_null_of_issued (h : t ∈ gprsIssued tr) : t ≠ rilTokenNull := by
  obtain ⟨a, -, ht⟩ := List.mem_flatMap.mp h
  obtain ⟨t, -, rfl⟩ := List.mem_map.mp ht
  exact t.2

theorem exchangeStep_change (h : ExchangeStep s a u) : GprsChange s.data a.1 u.data a.2 := by
  obtain ⟨e, out⟩ := a
  have hr : exchangeHandler s e = (u, out) := h.2
  obtain ⟨rfl, rfl⟩ := Prod.mk.inj hr
  exact gprsHandler_change e

theorem exchangeStep_awaited (h : ExchangeStep s a u) :
    u.awaited = if a.1.answers then s.awaited.tail else s.awaited ++ startRequest a := by
  obtain ⟨e, out⟩ := a
  have hr : exchangeHandler s e = (u, out) := h.2
  obtain ⟨rfl, rfl⟩ := Prod.mk.inj hr
  rfl

/-- Every token is completed or held, an answered set-up is not held any more, and the others wait
under the placeholder id. -/
structure ExchangeInv (tr : List (GprsEvent × List GprsEffect)) (s : GprsExchange) : Prop where
  balance : s.data.tokens + (gprsCompletedIn tr : Multiset RilToken) = gprsIssued tr
  settled : ∀ t ∈ gprsStarted tr, t ∉ s.awaited → t ∉ s.data.tokens
  waiting : ∀ c ∈ s.data.gprsConnections, c.token ∈ gprsStarted tr → c.placeholder
  awaited : s.awaited <:+ gprsStarted tr

theorem init_exchangeInv : ExchangeInv [] .init := ⟨rfl, nofun, nofun, List.suffix_refl _⟩

namespace ExchangeInv

theorem issued_of_held (hs : ExchangeInv tr s) (ht : t ∈ s.data.tokens) : t ∈ gprsIssued tr :=
  owed_of_held hs.balance.le ht

/-- With distinct tokens no token is held twice, or held after it has been completed. -/
theorem nodup (hs : ExchangeInv tr s) (hnodup : (gprsIssued tr).Nodup) :
    s.data.tokens.Nodup ∧ ∀ t ∈ s.data.tokens, t ∉ gprsCompletedIn tr := by
  obtain ⟨htokens, -, hdisjoint⟩ := nodup_of_owed hs.balance.le hnodup
  exact ⟨htokens, hdisjoint⟩

/-- The invariant gives what a run should keep to. -/
theorem setUpsCompleted (hs : ExchangeInv tr s) (hnodup : (gprsIssued tr).Nodup) :
    SetUpsCompleted tr s := by
  have hkept : ∀ t ∈ gprsIssued tr, t ∈ gprsCompletedIn tr ∨ t ∈ s.data.tokens :=
    fun t ht => (held_or_paid hs.balance.ge ht).symm
  constructor
  case answered =>
    intro t hstarted hnot
    have hcompleted : t ∈ gprsCompletedIn tr :=
      (hkept t (gprsStarted_subset hstarted)).resolve_right (hs.settled t hstarted hnot)
    obtain ⟨-, honce, -⟩ := nodup_of_owed hs.balance.le hnodup
    exact List.count_eq_one_of_mem honce hcompleted
  case kept => exact hkept
  case nonnull =>
    intro hnull
    have hissued : rilTokenNull ∈ gprsIssued tr := owed_of_paid hs.balance.le hnull
    exact ne_null_of_issued hissued rfl

end ExchangeInv

theorem exchangeStep_balance (h : ExchangeStep s a u) (hfinds : FindsOwnSetUp s a) :
    u.data.tokens + (gprsCompleted a.2 : Multiset RilToken) =
      s.data.tokens + (a.1.issued : Multiset RilToken) :=
  gprsChange_balance s.awaited (exchangeStep_change h) hfinds

/-- The set-up that an answer is for does not hold its token afterwards. -/
theorem answered_settled (hs : ExchangeInv tr s) (h : ExchangeStep s a u)
    (hfinds : FindsOwnSetUp s a) (hnodup : (gprsIssued tr).Nodup) (he : a.1.answers)
    (hstarted : t ∈ gprsStarted tr) (hhead : t ∈ s.awaited.head?) : t ∉ u.data.tokens := by
  intro ht
  have hchange := exchangeStep_change h
  have hbalance := exchangeStep_balance h hfinds
  rw [issued_of_none (token_of_answers he), add_zero] at hbalance
  have hold : t ∈ s.data.tokens := by
    rw [← hbalance]
    exact Multiset.mem_add.mpr (.inl ht)
  obtain ⟨c, hc, htoken, -⟩ := mem_tokens.mp hold
  have hplaceholder : c.placeholder := hs.waiting c hc (htoken ▸ hstarted)
  cases hfind : rilGprsConnectionFindContextId s.data contextIdPlaceholder with
  | none => exact findCell?_eq_none.mp hfind c hc hplaceholder
  | some p =>
    obtain ⟨i, b⟩ := p
    have hb : b.token = t := ((findsOwnSetUp_iff he).mp hfinds i b hfind).2 t hhead hold
    have hheld := (hs.nodup hnodup).1
    rw [gprsChange_answered hchange he hfind, hb, Multiset.coe_singleton] at hbalance
    rw [← hbalance, Multiset.nodup_add] at hheld
    exact Multiset.disjoint_left.mp hheld.2.2 ht (Multiset.mem_singleton_self t)

/-- A set-up whose answer has come holds its token no more. -/
theorem settled_step (hs : ExchangeInv tr s) (h : ExchangeStep s a u) (hfinds : FindsOwnSetUp s a)
    (hnodup : (gprsIssued (tr ++ [a])).Nodup) (hstarted : t ∈ gprsStarted (tr ++ [a]))
    (hnot : t ∉ u.awaited) : t ∉ u.data.tokens := by
  have hbalance := exchangeStep_balance h hfinds
  rw [gprsIssued_snoc, List.nodup_append] at hnodup
  obtain ⟨hnodup, -, hdisjoint⟩ := hnodup
  rw [gprsStarted_snoc, List.mem_append] at hstarted
  rw [exchangeStep_awaited h] at hnot
  by_cases he : a.1.answers
  · rw [if_pos he] at hnot
    rw [startRequest_of_answers he, or_iff_left List.not_mem_nil] at hstarted
    cases hlist : s.awaited with
    | nil => exact absurd hlist (h.1 he)
    | cons t' rest =>
      rw [hlist, List.tail_cons] at hnot
      by_cases hhead : t = t'
      · -- its answer is this one
        exact answered_settled hs h hfinds hnodup he hstarted (by rw [hlist, hhead]; rfl)
      · have hnever : t ∉ s.awaited := by
          rw [hlist, List.mem_cons, not_or]
          exact ⟨hhead, hnot⟩
        rw [issued_of_none (token_of_answers he), add_zero] at hbalance
        intro ht
        refine hs.settled t hstarted hnever ?_
        rw [← hbalance]
        exact Multiset.mem_add.mpr (.inl ht)
  · rw [if_neg he, List.mem_append, not_or] at hnot
    have hold : t ∈ gprsStarted tr := hstarted.resolve_right hnot.2
    intro ht
    have hmem : t ∈ s.data.tokens + (a.1.issued : Multiset RilToken) := by
      rw [← hbalance]
      exact Multiset.mem_add.mpr (.inl ht)
    rcases Multiset.mem_add.mp hmem with hheld | hissued
    · exact hs.settled t hold hnot.1 hheld
    · exact absurd rfl (hdisjoint t (gprsStarted_subset hold) t hissued)

/-- The token of a set-up is held under the placeholder id only. -/
theorem waiting_step (hs : ExchangeInv tr s) (h : ExchangeStep s a u)
    (hnodup : (gprsIssued (tr ++ [a])).Nodup) {d : RilGprsConnection}
    (hd : d ∈ u.data.gprsConnections) (hstarted : d.token ∈ gprsStarted (tr ++ [a])) :
    d.placeholder := by
  have hne : d.token ≠ rilTokenNull := ne_null_of_issued (gprsStarted_subset hstarted)
  rw [gprsIssued_snoc, List.nodup_append] at hnodup
  obtain ⟨-, -, hdisjoint⟩ := hnodup
  rw [gprsStarted_snoc, List.mem_append] at hstarted
  rcases gprsChange_held (exchangeStep_change h) hd hne with
    ⟨c, hc, htoken, hid⟩ | ⟨hissued, hplaceholder⟩
  · have hold : d.token ∈ gprsIssued tr := hs.issued_of_held (mem_tokens.mpr ⟨c, hc, htoken, hne⟩)
    cases hstarted with
    | inl hstarted =>
      have hc := hs.waiting c hc (htoken ▸ hstarted)
      rwa [RilGprsConnection.placeholder, hid] at hc
    | inr hstarted => exact absurd rfl (hdisjoint _ hold _ (startRequest_sublist.subset hstarted))
  · cases hstarted with
    | inl hstarted => exact absurd rfl (hdisjoint _ (gprsStarted_subset hstarted) _ hissued)
    | inr hstarted => exact hplaceholder hstarted

theorem exchangeStep_inv (hs : ExchangeInv tr s) (h : ExchangeStep s a u)
    (hfinds : FindsOwnSetUp s a) (hnodup : (gprsIssued (tr ++ [a])).Nodup) :
    ExchangeInv (tr ++ [a]) u := by
  constructor
  case balance =>
    have hbalance := exchangeStep_balance h hfinds
    rw [gprsIssued_snoc, gprsCompletedIn_snoc, ← Multiset.coe_add, ← Multiset.coe_add, ← hs.balance,
      add_right_comm, ← hbalance]
    abel
  case settled => exact fun t hstarted hnot => settled_step hs h hfinds hnodup hstarted hnot
  case waiting => exact fun d hd hstarted => waiting_step hs h hnodup hd hstarted
  case awaited =>
    rw [gprsStarted_snoc, exchangeStep_awaited h]
    split_ifs with he
    · rw [startRequest_of_answers he, List.append_nil]
      exact (List.tail_suffix _).trans hs.awaited
    · exact List.suffix_append_self_iff.mpr hs.awaited

/-- If nothing is amiss after a step, a token that was held is completed by it, or still held. -/
theorem held_kept (hs : ExchangeInv tr s) (hnodup : (gprsIssued tr).Nodup)
    (hu : SetUpsCompleted (tr ++ [a]) u) (ht : t ∈ s.data.tokens) :
    t ∈ gprsCompleted a.2 ∨ t ∈ u.data.tokens := by
  have hissued : t ∈ gprsIssued (tr ++ [a]) := by
    rw [gprsIssued_snoc, List.mem_append]
    exact .inl (hs.issued_of_held ht)
  have hkept := hu.kept t hissued
  rw [gprsCompletedIn_snoc, List.mem_append] at hkept
  exact hkept.imp_left fun h => h.resolve_left ((hs.nodup hnodup).2 t ht)

/-- What a token is replaced by is new, and so the token is no longer held. -/
theorem replaced_gone (hs : ExchangeInv tr s) (hnodup : (gprsIssued (tr ++ [a])).Nodup)
    {new : Multiset RilToken} (hnew : ∀ t ∈ new, t ∈ a.1.issued) (hnewNodup : new.Nodup)
    (htokens : u.data.tokens + {t} = s.data.tokens + new) : t ∉ u.data.tokens := by
  rw [gprsIssued_snoc, List.nodup_append] at hnodup
  obtain ⟨hnodup, -, hdisjoint⟩ := hnodup
  have hall : (s.data.tokens + new).Nodup := by
    refine Multiset.nodup_add.mpr ⟨(hs.nodup hnodup).1, hnewNodup, Multiset.disjoint_left.mpr ?_⟩
    intro t ht ht'
    exact hdisjoint t (hs.issued_of_held ht) t (hnew t ht') rfl
  rw [← htokens, Multiset.nodup_add] at hall
  intro ht
  exact Multiset.disjoint_left.mp hall.2.2 ht (Multiset.mem_singleton_self t)

/-- An answer after which nothing is amiss has found its own set-up. -/
theorem findsOwnSetUp_of_answered (hs : ExchangeInv tr s) (h : ExchangeStep s a u)
    (hnodup : (gprsIssued (tr ++ [a])).Nodup) (hu : SetUpsCompleted (tr ++ [a]) u)
    (he : a.1.answers) : FindsOwnSetUp s a := by
  have hchange := exchangeStep_change h
  have hstartedNodup : (gprsStarted tr).Nodup := by
    have hall := hnodup.sublist gprsStarted_sublist
    rw [gprsStarted_snoc] at hall
    exact hall.sublist (List.sublist_append_left _ _)
  refine (findsOwnSetUp_iff he).mpr fun i c hfind => ⟨fun hnull => ?_, fun t hhead hheld => ?_⟩
  · apply hu.nonnull
    rw [gprsCompletedIn_snoc, gprsChange_answered hchange he hfind, hnull]
    exact List.mem_append_right _ List.mem_cons_self
  · obtain ⟨rest, hlist⟩ := List.head?_eq_some_iff.mp hhead
    have hstarted : t ∈ gprsStarted tr := hs.awaited.subset (hlist ▸ List.mem_cons_self)
    have hnot : t ∉ u.awaited := by
      have hawaited := hstartedNodup.sublist hs.awaited.sublist
      rw [hlist, List.nodup_cons] at hawaited
      rw [exchangeStep_awaited h, if_pos he, hlist]
      exact hawaited.1
    have hone := hu.answered t (gprsStarted_snoc ▸ List.mem_append_left _ hstarted) hnot
    have hmem : t ∈ gprsCompletedIn (tr ++ [a]) := List.count_pos_iff.mp (by omega)
    have hpast : t ∉ gprsCompletedIn tr := by
      rw [gprsIssued_snoc] at hnodup
      exact (hs.nodup hnodup.of_append_left).2 t hheld
    rw [gprsCompletedIn_snoc, gprsChange_answered hchange he hfind, List.mem_append,
      List.mem_singleton] at hmem
    exact (hmem.resolve_left hpast).symm

/-- A step after which nothing is amiss has found its own set-up. -/
theorem findsOwnSetUp_of_completed (hs : ExchangeInv tr s) (h : ExchangeStep s a u)
    (hnodup : (gprsIssued (tr ++ [a])).Nodup) (hu : SetUpsCompleted (tr ++ [a]) u) :
    FindsOwnSetUp s a := by
  have hchange := exchangeStep_change h
  have hissued : (gprsIssued tr).Nodup ∧ ∀ t ∈ gprsIssued tr, t ∉ a.1.issued := by
    rw [gprsIssued_snoc, List.nodup_append] at hnodup
    exact ⟨hnodup.1, fun t ht ht' => hnodup.2.2 t ht t ht' rfl⟩
  have hanswer : a.1.answers → FindsOwnSetUp s a := findsOwnSetUp_of_answered hs h hnodup hu
  have hheld {p : RilGprsConnection → Bool} {i : ℕ} {c : RilGprsConnection}
      (hfind : findCell? p s.data.gprsConnections = some (i, c)) (hc : c.token ≠ rilTokenNull) :
      c.token ∈ s.data.tokens := by
    obtain ⟨left, right, hfirst, -⟩ := findCell?_eq_some hfind
    exact mem_tokens.mpr ⟨c, hfirst.mem, rfl, hc⟩
  obtain ⟨e, out⟩ := a
  cases e with
  | deactivateDataCall t cid =>
    cases cid with
    | none => exact nofun
    | some cid =>
      intro i c hfind
      by_contra hc
      obtain ⟨hcompleted, htokens⟩ := deactivate_takes hchange hfind hc
      rcases held_kept hs hissued.1 hu (hheld hfind hc) with hdone | hstill
      · rw [hcompleted] at hdone
        cases hdone
      · refine replaced_gone hs hnodup (fun t' ht' => ?_) (Multiset.nodup_singleton _) htokens hstill
        rw [Multiset.mem_singleton.mp ht']
        exact List.mem_singleton_self _
  | lastDataCallFailCause t =>
    intro i c hcid hfind
    by_contra hc
    obtain ⟨hcompleted, htokens⟩ := query_drops hchange hcid hfind hc
    have hold : c.token ∈ s.data.tokens := hheld hfind hc
    rcases held_kept hs hissued.1 hu hold with hdone | hstill
    · rw [hcompleted, List.mem_singleton] at hdone
      exact hissued.2 _ (hs.issued_of_held hold) (hdone ▸ List.mem_singleton_self _)
    · have hnone : ∀ t' ∈ (0 : Multiset RilToken), t' ∈ (GprsEvent.lastDataCallFailCause t).issued :=
        fun t' ht' => absurd ht' (Multiset.notMem_zero t')
      rw [← add_zero s.data.tokens] at htokens
      exact replaced_gone hs hnodup hnone Multiset.nodup_zero htokens hstill
  | startingNetworkInd error =>
    by_cases he : (GprsEvent.startingNetworkInd error).answers
    · exact hanswer he
    · exact fun h => absurd h he
  | startNetworkCnf netCnf threadStarted configured => exact hanswer rfl
  | _ => exact nofun

end Exchange

section Runs

variable {tr : List (GprsEvent × List GprsEffect)} {s : GprsExchange}

/-- **The runs in which every answered set-up is completed once, no token is lost and the null token is
never completed** are those in which every event finds its own set-up. -/
theorem gprs_setUpsCompleted_iff (hnodup : (gprsIssued tr).Nodup) :
    (Run ExchangeStep .init tr s ∧ ∀ tr₁ u, tr₁ <+: tr → Run ExchangeStep .init tr₁ u →
      SetUpsCompleted tr₁ u) ↔ Run (ExchangeStep.when FindsOwnSetUp) .init tr s :=
  Run.prefixes_iff (N := fun tr => (gprsIssued tr).Nodup)
    (fun _ _ _ _ h h' => Step.ofFun_deterministic h.2 h'.2)
    (nodup_of_isPrefix fun a : GprsEvent × List GprsEffect => a.1.issued) init_exchangeInv
    (fun _ _ _ _ hn hs hfinds h => exchangeStep_inv hs h hfinds hn)
    (fun _ _ hn hs => hs.setUpsCompleted hn)
    (fun _ _ _ _ hn hs h hu => findsOwnSetUp_of_completed hs h hn hu) hnodup

/-- One data call is set up. -/
theorem gprs_setUpsCompleted_one :
    let r := Lib.exec exchangeHandler .init [.setupDataCall ⟨1, by decide⟩
      (some ⟨none, none, none, cString "IP"⟩) true 5, .startNetworkCnf ⟨7, 0, 0, 0, 0⟩ true true]
    SetUpsCompleted r.1 r.2 := by
  intro r
  have hrun : Run (ExchangeStep.when FindsOwnSetUp) .init r.1 r.2 := by
    refine .cons ⟨nofun, nofun, rfl⟩ (.cons ⟨?_, by decide, rfl⟩ .nil)
    intro _ i c hfind
    obtain ⟨-, rfl⟩ := Prod.mk.inj (Option.some.inj hfind)
    constructor
    · decide
    · rintro t ⟨⟩ _
      rfl
  exact ((gprs_setUpsCompleted_iff (by decide)).mpr hrun).2 r.1 r.2 (List.prefix_refl _) hrun.of_when

/-- A set-up that failed by STARTING_NETWORK_IND stays in the list under the placeholder id, and takes
the answer to the next one: the null token is completed, and the second set-up never. -/
theorem not_setUpsCompleted_retry :
    ¬∀ (tr : List (GprsEvent × List GprsEffect)) (s : GprsExchange), Run ExchangeStep .init tr s →
      (gprsIssued tr).Nodup → SetUpsCompleted tr s := by
  intro h
  obtain ⟨r, hr⟩ : ∃ r, r = Lib.exec exchangeHandler .init
    [.setupDataCall ⟨1, by decide⟩ (some ⟨none, none, none, cString "IP"⟩) true 5,
      .startingNetworkInd 1,
      .setupDataCall ⟨2, by decide⟩ (some ⟨none, none, none, cString "IP"⟩) true 6,
      .startNetworkCnf ⟨7, 0, 0, 0, 0⟩ true true] := ⟨_, rfl⟩
  have hrun : Run ExchangeStep .init r.1 r.2 := by
    rw [hr]
    exact .cons ⟨nofun, rfl⟩ (.cons ⟨by decide, rfl⟩
      (.cons ⟨nofun, rfl⟩ (.cons ⟨by decide, rfl⟩ .nil)))
  have hcompleted := h _ _ hrun (by rw [hr]; decide)
  rw [hr] at hcompleted
  exact absurd hcompleted.nonnull (by decide)

end Runs

end Mocha.Ril
