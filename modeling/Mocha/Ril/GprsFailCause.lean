import Mocha.Ril.GprsCids
import Mocha.Ril.GprsTokens

/-! Which connection LAST_DATA_CALL_FAIL_CAUSE removes. The failed connection is remembered by its
cid, and the memory outlives the connection when the modem stops it first. -/
namespace Mocha.Ril
open Mocha.Lib

/-- How far the set-up of a connection has got. -/
inductive SetUpStatus
  | pending
  | failed
  | succeeded
deriving DecidableEq

/-- The data calls, and a record that the handlers do not keep: the set-up of the connection with
each cid, and the cause that the last failed set-up has left. -/
structure TrackedGprs where
  data : GprsData
  status : ℤ → SetUpStatus
  lastCause : Option RilDataCallFailCause

def TrackedGprs.init : TrackedGprs := ⟨.init, fun _ => .pending, none⟩

/-- The connection whose set-up is begun or brought to an end. -/
def setUpChange (s u : GprsData) (a : GprsEvent × List GprsEffect) : Option (ℤ × SetUpStatus) :=
  if startRequest a ≠ [] then u.gprsConnections.getLast?.map fun c => (c.cid, .pending)
  else if a.1.answers then
    (rilGprsConnectionFindContextId s contextIdPlaceholder).map fun p =>
      (p.2.cid, if (gprsCompletions a.2).any (·.errno = .success) then .succeeded else .failed)
  else none

def trackSetUp (s : TrackedGprs) (u : GprsData) : Option (ℤ × SetUpStatus) → TrackedGprs
  | none => { s with data := u }
  | some (cid, .failed) =>
    ⟨u, Function.update s.status cid .failed, (rilGprsConnectionFindCid u cid).map (·.2.failCause)⟩
  | some (cid, status) => ⟨u, Function.update s.status cid status, s.lastCause⟩

def trackedGprsHandler (s : TrackedGprs) (e : GprsEvent) : TrackedGprs × List GprsEffect :=
  let r := gprsHandler s.data e
  (trackSetUp s r.1 (setUpChange s.data r.1 (e, r.2)), r.2)

abbrev TrackedGprsStep : Step TrackedGprs (GprsEvent × List GprsEffect) :=
  Step.ofFun trackedGprsHandler

/-- A query of the fail cause now would remove only a connection whose set-up has failed, and would
report the cause of the last failed set-up. -/
def QueryRight (s : TrackedGprs) : Prop :=
  ∀ t : RequestToken,
    (∀ c ∈ s.data.gprsConnections,
      c ∉ (rilRequestLastDataCallFailCause s.data t).1.gprsConnections → s.status c.cid = .failed) ∧
    ∀ cause ∈ s.lastCause, gprsCompletions (rilRequestLastDataCallFailCause s.data t).2 =
      [⟨t, .success, some (.failCause cause)⟩]

/-- The cid that is remembered goes to no new connection, and its connection does not become active. -/
def NoStaleCid (s : TrackedGprs) (a : GprsEvent × List GprsEffect) : Prop :=
  match a.1 with
  | .setupDataCall _ (some d) allocated iface => SetUpStarts s.data d allocated iface →
      findUnusedCid s.data.gprsConnections maxConnections 0 ≠ s.data.gprsLastFailedCid
  | e => e.establishes → ∀ i c,
      rilGprsConnectionFindContextId s.data contextIdPlaceholder = some (i, c) →
        c.cid ≠ s.data.gprsLastFailedCid

/-- A connection whose set-up has failed says so. -/
structure TrackedGprsInv (s : TrackedGprs) : Prop where
  cids : CidsDistinct s.data
  cause : ∀ c ∈ s.data.gprsConnections, s.status c.cid = .failed → c.failCause = .errorUnspecified
  lastCause : ∀ cause ∈ s.lastCause, cause = .errorUnspecified

/-- The connection with the cid that is remembered has failed. -/
def LastFailed (s : TrackedGprs) : Prop :=
  s.data.gprsLastFailedCid ≠ 0 → s.data.gprsLastFailedCid ∈ s.data.cids →
    s.status s.data.gprsLastFailedCid = .failed

section Query

variable {s : TrackedGprs}

theorem queryRight_iff (hs : TrackedGprsInv s) : QueryRight s ↔ LastFailed s := by
  have hchange : ∀ t : RequestToken, GprsChange s.data (.lastDataCallFailCause t)
      (rilRequestLastDataCallFailCause s.data t).1 (rilRequestLastDataCallFailCause s.data t).2 :=
    rilRequestLastDataCallFailCause_change
  constructor
  · intro hright hcid hmem
    have ht := hchange ⟨1, by decide⟩
    have hremoved := (hright ⟨1, by decide⟩).1
    rcases gprsChange_query ht with ⟨left, c, right, -, hfirst, hu, -⟩ | ⟨hnone, -, -⟩
    · have hc : c.cid = s.data.gprsLastFailedCid := by simpa using hfirst.test
      rw [← hc]
      refine hremoved c hfirst.mem fun hstill => ?_
      rw [hu] at hstill
      have hnodup := hs.cids.nodup
      rw [GprsData.cids, hfirst.eq, List.map_append, List.map_cons, List.nodup_middle,
        List.nodup_cons, ← List.map_append] at hnodup
      exact hnodup.1 (List.mem_map_of_mem hstill)
    · obtain ⟨c, hc, hcid'⟩ := List.mem_map.mp hmem
      exact absurd hcid' (hnone hcid c hc)
  · intro hlast t
    rcases gprsChange_query (hchange t) with ⟨left, c, right, hcid, hfirst, hu, hout⟩ |
      ⟨hnone, hu, hout⟩
    · have hc : c.cid = s.data.gprsLastFailedCid := by simpa using hfirst.test
      have hfailed : s.status c.cid = .failed := by
        rw [hc]
        exact hlast hcid (hc ▸ List.mem_map_of_mem hfirst.mem)
      constructor
      · intro b hb hgone
        rw [hu] at hgone
        rw [hfirst.eq] at hb
        simp only [List.mem_append, List.mem_cons, not_or] at hb hgone
        rcases hb with hb | rfl | hb
        · exact absurd hb hgone.1
        · exact hfailed
        · exact absurd hb hgone.2
      · intro cause hcause
        rw [hout, hs.lastCause cause hcause, hs.cause c hfirst.mem hfailed]
    · constructor
      · intro b hb hgone
        rw [hu] at hgone
        exact absurd hb hgone
      · intro cause hcause
        rw [hout, hs.lastCause cause hcause]

end Query

section Step

variable {s u : TrackedGprs} {v : GprsData} {a : GprsEvent × List GprsEffect} {cid : ℤ}

theorem setUpChange_begun {c : RilGprsConnection} {d : SetupDataCall} {allocated : Bool} {iface : ℤ}
    {t : RequestToken} {out : List GprsEffect} (hstart : out.any GprsEffect.startsNetwork)
    (hv : v.gprsConnections = s.data.gprsConnections ++ [c]) :
    setUpChange s.data v (.setupDataCall t (some d) allocated iface, out) = some (c.cid, .pending) := by
  have hrequest : startRequest (.setupDataCall t (some d) allocated iface, out) ≠ [] := by
    simp [startRequest, hstart]
  rw [setUpChange, if_pos hrequest, hv, List.getLast?_concat, Option.map_some]

theorem setUpChange_answered {left right : List RilGprsConnection} {c : RilGprsConnection}
    (he : a.1.answers) (hfirst : IsFirst (·.placeholder) s.data.gprsConnections left c right) :
    setUpChange s.data v a =
      some (c.cid, if (gprsCompletions a.2).any (·.errno = .success) then .succeeded else .failed) := by
  have hrequest : ¬startRequest a ≠ [] := not_not.mpr (startRequest_of_answers he)
  have hfind : rilGprsConnectionFindContextId s.data contextIdPlaceholder = some (left.length, c) :=
    hfirst.findCell?_eq
  rw [setUpChange, if_neg hrequest, if_pos he, hfind, Option.map_some]

theorem setUpChange_none (hrequest : startRequest a = [])
    (hnone : a.1.answers → ∀ c ∈ s.data.gprsConnections, ¬c.placeholder) :
    setUpChange s.data v a = none := by
  rw [setUpChange, if_neg (not_not.mpr hrequest)]
  by_cases he : a.1.answers
  · have hfind : rilGprsConnectionFindContextId s.data contextIdPlaceholder = none :=
      findCell?_eq_none.mpr (hnone he)
    rw [if_pos he, hfind, Option.map_none]
  · rw [if_neg he]

theorem setUpChange_quiet (hrequest : startRequest a = []) (he : a.1.answers = false) :
    setUpChange s.data v a = none :=
  setUpChange_none hrequest fun h => absurd h (Bool.eq_false_iff.mp he)

theorem noStaleCid_of_not
    (h : ∀ t d allocated iface, a.1 = .setupDataCall t (some d) allocated iface →
      ¬SetUpStarts s.data d allocated iface) (he : a.1.establishes = false) : NoStaleCid s a := by
  obtain ⟨e, out⟩ := a
  cases e with
  | setupDataCall t data allocated iface =>
    cases data with
    | none => exact nofun
    | some d => exact fun hstarts => absurd hstarts (h t d allocated iface rfl)
  | startNetworkCnf netCnf threadStarted configured =>
    intro hest
    rw [he] at hest
    cases hest
  | _ => exact nofun

theorem noStaleCid_establishes {left right : List RilGprsConnection} {c : RilGprsConnection}
    (he : a.1.establishes) (hfirst : IsFirst (·.placeholder) s.data.gprsConnections left c right) :
    NoStaleCid s a ↔ c.cid ≠ s.data.gprsLastFailedCid := by
  have hfind : rilGprsConnectionFindContextId s.data contextIdPlaceholder = some (left.length, c) :=
    hfirst.findCell?_eq
  obtain ⟨e, out⟩ := a
  cases e with
  | startNetworkCnf netCnf threadStarted configured =>
    constructor
    · intro h
      exact h he _ _ hfind
    · rintro h _ i b hb
      obtain ⟨-, rfl⟩ := Prod.mk.inj (Option.some.inj (hfind.symm.trans hb))
      exact h
  | _ => cases he

/-- What an event means for the set-ups. -/
inductive TrackedChange (s : TrackedGprs) (a : GprsEvent × List GprsEffect) : TrackedGprs → Prop
  | begun (c : RilGprsConnection) (hpos : 0 < c.cid) (hfresh : c.cid ∉ s.data.cids)
      (hstale : NoStaleCid s a ↔ c.cid ≠ s.data.gprsLastFailedCid) :
      TrackedChange s a ⟨{ s.data with gprsConnections := s.data.gprsConnections ++ [c] },
        Function.update s.status c.cid .pending, s.lastCause⟩
  | failed (left : List RilGprsConnection) (c d : RilGprsConnection) (right : List RilGprsConnection)
      (hfirst : IsFirst (·.placeholder) s.data.gprsConnections left c right) (hcid : d.cid = c.cid)
      (hcause : d.failCause = .errorUnspecified) (hstale : NoStaleCid s a) :
      TrackedChange s a ⟨⟨left ++ d :: right, c.cid⟩, Function.update s.status c.cid .failed,
        (rilGprsConnectionFindCid ⟨left ++ d :: right, c.cid⟩ c.cid).map (·.2.failCause)⟩
  | succeeded (left : List RilGprsConnection) (c d : RilGprsConnection)
      (right : List RilGprsConnection)
      (hfirst : IsFirst (·.placeholder) s.data.gprsConnections left c right) (hcid : d.cid = c.cid)
      (hstale : NoStaleCid s a ↔ c.cid ≠ s.data.gprsLastFailedCid) :
      TrackedChange s a ⟨{ s.data with gprsConnections := left ++ d :: right },
        Function.update s.status c.cid .succeeded, s.lastCause⟩
  | other (v : GprsData) (hlast : v.gprsLastFailedCid = s.data.gprsLastFailedCid ∨
        v.gprsLastFailedCid = 0)
      (hconnections : ∀ c ∈ v.gprsConnections, ∃ b ∈ s.data.gprsConnections, b.cid = c.cid ∧
        b.failCause = c.failCause) (hstale : NoStaleCid s a) : TrackedChange s a { s with data := v }

theorem startRequest_of_not_starts {e : GprsEvent} {out : List GprsEffect}
    (h : out.any GprsEffect.startsNetwork = false) : startRequest (e, out) = [] := by
  cases e with
  | setupDataCall t data allocated iface => simp [startRequest, h]
  | _ => rfl

theorem startRequest_of_none {e : GprsEvent} {out : List GprsEffect} (h : e.token = none) :
    startRequest (e, out) = [] := by
  cases e with
  | setupDataCall t data allocated iface => cases h
  | _ => rfl

/-- An event that finds no connection leaves the remembered cid to nobody. -/
theorem noStaleCid_idle {e : GprsEvent} {out : List GprsEffect} (ht : e.token = none)
    (hnone : e.answers → ∀ c ∈ s.data.gprsConnections, ¬c.placeholder) :
    NoStaleCid s (e, out) := by
  cases e with
  | setupDataCall t data allocated iface => cases ht
  | startNetworkCnf netCnf threadStarted configured =>
    intro _ i c hfind
    obtain ⟨left, right, hfirst, -⟩ := findCell?_eq_some hfind
    exact absurd hfirst.test (hnone rfl c hfirst.mem)
  | _ => exact nofun

theorem trackedGprsStep_change (h : TrackedGprsStep s a u) : TrackedChange s a u := by
  obtain ⟨e, out⟩ := a
  have hr : trackedGprsHandler s e = (u, out) := h
  obtain ⟨rfl, rfl⟩ := Prod.mk.inj hr
  have hchange := gprsHandler_change (s := s.data) e
  have hsame : ∀ c ∈ s.data.gprsConnections, ∃ b ∈ s.data.gprsConnections, b.cid = c.cid ∧
      b.failCause = c.failCause := fun c hc => ⟨c, hc, rfl, rfl⟩
  have hreplaced : ∀ {p : RilGprsConnection → Bool} {left right : List RilGprsConnection}
      {b c d : RilGprsConnection}, IsFirst p s.data.gprsConnections left c right → d.cid = c.cid →
      d.failCause = c.failCause → b ∈ left ++ d :: right →
      ∃ b' ∈ s.data.gprsConnections, b'.cid = b.cid ∧ b'.failCause = b.failCause := by
    intro p left right b c d hfirst hcid hcause hb
    rcases hfirst.mem_replaced hb with rfl | hb
    · exact ⟨c, hfirst.mem, hcid.symm, hcause.symm⟩
    · exact hsame b hb
  change TrackedChange s _ (trackSetUp s (gprsHandler s.data e).1
    (setUpChange s.data (gprsHandler s.data e).1 (e, (gprsHandler s.data e).2)))
  generalize gprsHandler s.data e = r at hchange ⊢
  obtain ⟨v, out⟩ := r
  cases hchange with
  | opened t d iface c hpos _ hfresh hstarts hcid _ _ _ hstart =>
    rw [setUpChange_begun hstart rfl]
    refine .begun c hpos (fun hmem => ?_) ⟨fun h => hcid ▸ h hstarts, fun h _ => hcid ▸ h⟩
    obtain ⟨b, hb, hbcid⟩ := List.mem_map.mp hmem
    exact hfresh b hb hbcid
  | failed he hnot hfirst hcid _ hcause hout =>
    rw [setUpChange_answered he hfirst, hout]
    refine .failed _ _ _ _ hfirst hcid hcause (noStaleCid_of_not ?_ hnot)
    rintro t d allocated iface rfl
    cases he
  | established he hest hfirst hcid _ hout =>
    rw [setUpChange_answered he hfirst, hout]
    exact .succeeded _ _ _ _ hfirst hcid (noStaleCid_establishes hest hfirst)
  | answered _ ht htoken he hunknown hrefused hout hstart =>
    have hanswers : e.answers = false := by
      cases e with
      | startingNetworkInd error => cases ht
      | startNetworkCnf netCnf threadStarted configured => cases ht
      | _ => rfl
    have hest : e.establishes = false := by
      cases e with
      | startNetworkCnf netCnf threadStarted configured => cases ht
      | _ => rfl
    rw [setUpChange_quiet (startRequest_of_not_starts hstart) hanswers]
    exact .other _ (.inl rfl) hsame (noStaleCid_of_not hrefused hest)
  | deactivating t cid hfirst hout =>
    rw [setUpChange_quiet rfl rfl]
    exact .other _ (.inl rfl) (fun _ => hreplaced hfirst rfl rfl) (fun h => nomatch h)
  | queried t hcid hfirst hout =>
    rw [setUpChange_quiet rfl rfl]
    exact .other _ (.inr rfl) (fun c hc => hsame c (hfirst.removed_sublist.subset hc)) (fun h => nomatch h)
  | queriedNone t hnone hout =>
    rw [setUpChange_quiet rfl rfl]
    exact .other _ (.inr rfl) hsame (fun h => nomatch h)
  | ended he errno hfirst hout =>
    have hgone : ∀ c ∈ _ ++ _, _ := fun c hc => hsame c (hfirst.removed_sublist.subset hc)
    rcases he with rfl | rfl
    · rw [setUpChange_quiet rfl rfl]
      exact .other _ (.inl rfl) hgone (fun h => nomatch h)
    · rw [setUpChange_quiet rfl rfl]
      exact .other _ (.inl rfl) hgone (fun h => nomatch h)
  | linked active he hfirst hout =>
    rcases he with rfl | rfl
    · rw [setUpChange_quiet rfl rfl]
      exact .other _ (.inl rfl) (fun _ => hreplaced hfirst rfl rfl) (fun h => nomatch h)
    · rw [setUpChange_quiet rfl rfl]
      exact .other _ (.inl rfl) (fun _ => hreplaced hfirst rfl rfl) (fun h => nomatch h)
  | idle ht hnone hout =>
    rw [setUpChange_none (startRequest_of_none ht) hnone]
    exact .other _ (.inl rfl) hsame (noStaleCid_idle ht hnone)

theorem trackedGprsStep_data (h : TrackedGprsStep s a u) : GprsStep s.data a u.data := by
  obtain ⟨e, out⟩ := a
  have hr : trackedGprsHandler s e = (u, out) := h
  obtain ⟨rfl, rfl⟩ := Prod.mk.inj hr
  have hdata : ∀ change, (trackSetUp s (gprsHandler s.data e).1 change).data =
      (gprsHandler s.data e).1 := by
    intro change
    unfold trackSetUp
    split
    · rfl
    · rfl
    · rfl
  exact Prod.ext (hdata _).symm rfl

theorem trackedGprsStep_inv (hs : TrackedGprsInv s) (h : TrackedGprsStep s a u) :
    TrackedGprsInv u := by
  have hcids : CidsDistinct u.data := gprsStep_cidsDistinct hs.cids (trackedGprsStep_data h)
  have hchange := trackedGprsStep_change h
  cases hchange with
  | begun c _ hfresh _ =>
    refine ⟨hcids, fun b hb hstatus => ?_, hs.lastCause⟩
    dsimp only at hb hstatus
    by_cases hbc : b.cid = c.cid
    · rw [hbc, Function.update_self] at hstatus
      cases hstatus
    · rw [Function.update_of_ne hbc] at hstatus
      rw [List.mem_append, List.mem_singleton] at hb
      rcases hb with hb | rfl
      · exact hs.cause b hb hstatus
      · exact absurd rfl hbc
  | failed left c d right hfirst hcid hcause _ =>
    have hnodup : ((left ++ d :: right).map (·.cid)).Nodup := hcids.nodup
    have hmarked : ∀ b ∈ left ++ d :: right,
        Function.update s.status c.cid .failed b.cid = .failed → b.failCause = .errorUnspecified := by
      intro b hb hstatus
      by_cases hbc : b.cid = c.cid
      · have hbd : b = d := List.inj_on_of_nodup_map hnodup hb
          (List.mem_append_right _ List.mem_cons_self) (hbc.trans hcid.symm)
        rw [hbd, hcause]
      · rw [Function.update_of_ne hbc] at hstatus
        rcases hfirst.mem_replaced hb with rfl | hb
        · exact absurd hcid hbc
        · exact hs.cause b hb hstatus
    refine ⟨hcids, hmarked, fun cause hmem => ?_⟩
    obtain ⟨p, hfind, rfl⟩ := Option.map_eq_some_iff.mp hmem
    obtain ⟨i, b⟩ := p
    obtain ⟨l, r, hb, -⟩ := findCell?_eq_some hfind
    refine hmarked b hb.mem ?_
    have hbc : b.cid = c.cid := by simpa using hb.test
    rw [hbc, Function.update_self]
  | succeeded left c d right hfirst hcid _ =>
    refine ⟨hcids, fun b hb hstatus => ?_, hs.lastCause⟩
    dsimp only at hb hstatus
    by_cases hbc : b.cid = c.cid
    · rw [hbc, Function.update_self] at hstatus
      cases hstatus
    · rw [Function.update_of_ne hbc] at hstatus
      rcases hfirst.mem_replaced hb with rfl | hb
      · exact absurd hcid hbc
      · exact hs.cause b hb hstatus
  | other v _ hconnections _ =>
    refine ⟨hcids, fun b hb hstatus => ?_, hs.lastCause⟩
    obtain ⟨c, hc, hcid, hcause⟩ := hconnections b hb
    rw [← hcause]
    exact hs.cause c hc (hcid ▸ hstatus)

/-- The remembered connection stays a failed one exactly if its cid does not go stale. -/
theorem lastFailed_iff (hs : TrackedGprsInv s) (hlast : LastFailed s) (h : TrackedGprsStep s a u) :
    LastFailed u ↔ NoStaleCid s a := by
  have hchange := trackedGprsStep_change h
  cases hchange with
  | begun c hpos hfresh hstale =>
    rw [hstale]
    constructor
    · intro hu hcid
      have hmem : c.cid ∈ (s.data.gprsConnections ++ [c]).map (·.cid) :=
        List.mem_map_of_mem (List.mem_append_right _ List.mem_cons_self)
      have hfailed := hu (hcid ▸ hpos.ne') (hcid ▸ hmem)
      dsimp only at hfailed
      rw [← hcid, Function.update_self] at hfailed
      cases hfailed
    · intro hne hzero hmem
      dsimp only at hzero hmem ⊢
      rw [Function.update_of_ne hne.symm]
      refine hlast hzero ?_
      rw [GprsData.cids, List.map_append, List.map_singleton, List.mem_append,
        List.mem_singleton] at hmem
      exact hmem.resolve_right hne.symm
  | failed left c d right _ _ _ hstale =>
    refine iff_of_true (fun _ _ => ?_) hstale
    exact Function.update_self ..
  | succeeded left c d right hfirst hcid hstale =>
    rw [hstale]
    have hmap : (left ++ d :: right).map (·.cid) = s.data.cids := hfirst.map_replaced hcid
    have hmem : c.cid ∈ s.data.cids := List.mem_map_of_mem hfirst.mem
    constructor
    · intro hu hc
      have hpos : c.cid ≠ 0 := by
        have hrange := hs.cids.range c.cid hmem
        omega
      have hfailed := hu (hc ▸ hpos) (by rw [GprsData.cids, hmap, ← hc]; exact hmem)
      dsimp only at hfailed
      rw [← hc, Function.update_self] at hfailed
      cases hfailed
    · intro hne hzero hmem'
      dsimp only at hzero ⊢
      rw [Function.update_of_ne hne.symm]
      rw [GprsData.cids, hmap] at hmem'
      exact hlast hzero hmem'
  | other v hsame hconnections hstale =>
    refine iff_of_true (fun hzero hmem => ?_) hstale
    dsimp only at hzero hmem ⊢
    rcases hsame with hsame | hnone
    · obtain ⟨b, hb, hcid⟩ := List.mem_map.mp hmem
      obtain ⟨c, hc, hcid', -⟩ := hconnections b hb
      rw [hsame] at hzero hcid ⊢
      exact hlast hzero (List.mem_map.mpr ⟨c, hc, hcid'.trans hcid⟩)
    · exact absurd hnone hzero

end Step

section Runs

variable {tr : List (GprsEvent × List GprsEffect)} {s : TrackedGprs}

theorem init_trackedGprsInv : TrackedGprsInv .init := ⟨init_cidsDistinct, nofun, nofun⟩

theorem init_lastFailed : LastFailed .init := fun h => absurd rfl h

/-- **The runs in which a query of the fail cause would always be right** are those in which the
remembered cid never goes stale. -/
theorem gprs_queryRight_iff :
    Run (fun s a u => TrackedGprsStep s a u ∧ QueryRight u) .init tr s ↔
      Run (TrackedGprsStep.when NoStaleCid) .init tr s := by
  refine Run.congr (fun s => TrackedGprsInv s ∧ LastFailed s) ?_ ?_
    ⟨init_trackedGprsInv, init_lastFailed⟩
  · rintro s a u ⟨hs, hlast⟩ ⟨h, hright⟩
    have hu := trackedGprsStep_inv hs h
    exact ⟨hu, (queryRight_iff hu).mp hright⟩
  · rintro s a u ⟨hs, hlast⟩
    rw [Step.when, and_comm]
    refine and_congr_left fun h => ?_
    rw [queryRight_iff (trackedGprsStep_inv hs h), lastFailed_iff hs hlast h]

/-- A set-up fails, the modem stops its connection, and the next data call gets its cid: the query
would remove the call that is active. -/
theorem not_queryRight_reused :
    ¬∀ (tr : List (GprsEvent × List GprsEffect)) (s : TrackedGprs), Run TrackedGprsStep .init tr s →
      QueryRight s := by
  intro h
  have hright := h _ _ (Run.exec trackedGprsHandler .init
    [.setupDataCall ⟨1, by decide⟩ (some ⟨none, none, none, cString "IP"⟩) true 5,
      .startNetworkCnf ⟨7, 1, 0, 0, 0⟩ true true, .stopNetworkCnf 7,
      .setupDataCall ⟨2, by decide⟩ (some ⟨none, none, none, cString "IP"⟩) true 5,
      .startNetworkCnf ⟨8, 0, 0, 0, 0⟩ true true]) ⟨3, by decide⟩
  exact absurd (hright.2 .errorUnspecified rfl) (by decide)

end Runs

end Mocha.Ril
