import Mocha.Ril.Gprs

/-! What an event can do to the list of data connections. -/
namespace Mocha.Ril
open Mocha.Lib

/-- The token of a request. -/
def GprsEvent.token : GprsEvent → Option RequestToken
  | .setupDataCall t .. | .deactivateDataCall t _ | .lastDataCallFailCause t | .dataCallList t => some t
  | _ => none

/-- The answers of the modem to START_NETWORK. -/
def GprsEvent.answers : GprsEvent → Bool
  | .startingNetworkInd error => error ≠ 0
  | .startNetworkCnf .. => true
  | _ => false

/-- The modem has set up the network, and the tunnel works. -/
def GprsEvent.establishes : GprsEvent → Bool
  | .startNetworkCnf netCnf threadStarted configured =>
    netCnf.error = 0 ∧ threadStarted ∧ configured
  | _ => false

/-- A cid is free, its tunnel can be made, and the type of the data call is known. -/
def SetUpStarts (s : GprsData) (d : SetupDataCall) (allocated : Bool) (iface : ℤ) : Prop :=
  0 < findUnusedCid s.gprsConnections maxConnections 0 ∧ allocated ∧ 0 ≤ iface ∧
    dataCallTypeToProtoType d.type ≠ .none

/-- The calls of `ril_request_complete`. -/
def gprsCompletions (out : List GprsEffect) : List (Completion GprsResponse) :=
  out.filterMap GprsEffect.completion

/-- The connection waits for the modem's answer, or has failed before it got an id. -/
abbrev RilGprsConnection.placeholder (c : RilGprsConnection) : Bool :=
  c.contextId = contextIdPlaceholder

/-- What an event does to the connections, and what it completes. -/
inductive GprsChange (s : GprsData) : GprsEvent → GprsData → List GprsEffect → Prop
  | opened (t : RequestToken) (d : SetupDataCall) (iface : ℤ) (c : RilGprsConnection)
      {out : List GprsEffect} (hpos : 0 < c.cid) (hmax : c.cid ≤ (maxConnections : ℤ))
      (hfresh : ∀ b ∈ s.gprsConnections, b.cid ≠ c.cid) (hstarts : SetUpStarts s d true iface)
      (hcid : c.cid = findUnusedCid s.gprsConnections maxConnections 0) (htoken : c.token = t)
      (hplaceholder : c.placeholder) (hout : gprsCompletions out = [])
      (hstart : out.any GprsEffect.startsNetwork) :
      GprsChange s (.setupDataCall t (some d) true iface)
        { s with gprsConnections := s.gprsConnections ++ [c] } out
  | answered {e : GprsEvent} {out : List GprsEffect} {t : RequestToken}
      (answer : Completion GprsResponse) (ht : e.token = some t) (htoken : answer.token = t)
      (he : ∀ t, e ≠ .lastDataCallFailCause t)
      (hunknown : ∀ t cid, e = .deactivateDataCall t (some cid) →
        ∀ c ∈ s.gprsConnections, ¬c.cid = atoi cid)
      (hrefused : ∀ t d allocated iface, e = .setupDataCall t (some d) allocated iface →
        ¬SetUpStarts s d allocated iface)
      (hout : gprsCompletions out = [answer])
      (hstart : out.any GprsEffect.startsNetwork = false) : GprsChange s e s out
  | deactivating (t : RequestToken) (cid : CString) {left right : List RilGprsConnection}
      {c : RilGprsConnection} {out : List GprsEffect}
      (hfirst : IsFirst (·.cid = atoi cid) s.gprsConnections left c right)
      (hout : gprsCompletions out = []) :
      GprsChange s (.deactivateDataCall t (some cid))
        { s with gprsConnections := left ++ { c with token := t.1 } :: right } out
  | queried (t : RequestToken) {left right : List RilGprsConnection} {c : RilGprsConnection}
      {out : List GprsEffect} (hcid : s.gprsLastFailedCid ≠ 0)
      (hfirst : IsFirst (·.cid = s.gprsLastFailedCid) s.gprsConnections left c right)
      (hout : gprsCompletions out = [⟨t, .success, some (.failCause c.failCause)⟩]) :
      GprsChange s (.lastDataCallFailCause t) ⟨left ++ right, 0⟩ out
  | queriedNone (t : RequestToken) {out : List GprsEffect}
      (hnone : s.gprsLastFailedCid ≠ 0 → ∀ c ∈ s.gprsConnections, c.cid ≠ s.gprsLastFailedCid)
      (hout : gprsCompletions out = [⟨t, .success, some (.failCause .errorUnspecified)⟩]) :
      GprsChange s (.lastDataCallFailCause t) { s with gprsLastFailedCid := 0 } out
  | failed {e : GprsEvent} (he : e.answers) (hnot : e.establishes = false) {left right : List RilGprsConnection}
      {c d : RilGprsConnection} {out : List GprsEffect}
      (hfirst : IsFirst (·.placeholder) s.gprsConnections left c right) (hcid : d.cid = c.cid)
      (htoken : d.token = rilTokenNull) (hcause : d.failCause = .errorUnspecified)
      (hout : gprsCompletions out = [⟨c.token, .genericFailure, none⟩]) :
      GprsChange s e ⟨left ++ d :: right, c.cid⟩ out
  | established {e : GprsEvent} (he : e.answers) (hest : e.establishes) {left right : List RilGprsConnection}
      {c d : RilGprsConnection} {out : List GprsEffect} {r : GprsResponse}
      (hfirst : IsFirst (·.placeholder) s.gprsConnections left c right) (hcid : d.cid = c.cid)
      (htoken : d.token = rilTokenNull)
      (hout : gprsCompletions out = [⟨c.token, .success, some r⟩]) :
      GprsChange s e { s with gprsConnections := left ++ d :: right } out
  | ended {e : GprsEvent} {contextId : UInt32}
      (he : e = .stopNetworkCnf contextId ∨ e = .stopNetworkInd contextId)
      {left right : List RilGprsConnection} {c : RilGprsConnection} {out : List GprsEffect}
      (errno : RilErrno)
      (hfirst : IsFirst (·.contextId = contextId) s.gprsConnections left c right)
      (hout : gprsCompletions out = if c.token ≠ rilTokenNull then [⟨c.token, errno, none⟩] else []) :
      GprsChange s e { s with gprsConnections := left ++ right } out
  | linked {e : GprsEvent} {contextId : UInt32} (active : ℕ)
      (he : e = .suspendNetworkInd contextId ∨ e = .resumeNetworkInd contextId)
      {left right : List RilGprsConnection} {c : RilGprsConnection} {out : List GprsEffect}
      (hfirst : IsFirst (·.contextId = contextId) s.gprsConnections left c right)
      (hout : gprsCompletions out = []) :
      GprsChange s e { s with gprsConnections := left ++ { c with active := active } :: right } out
  | idle {e : GprsEvent} {out : List GprsEffect} (ht : e.token = none)
      (hnone : e.answers → ∀ c ∈ s.gprsConnections, ¬c.placeholder)
      (hout : gprsCompletions out = []) : GprsChange s e s out

section Start

variable {s : GprsData} {cs : List RilGprsConnection} {cid iface : ℤ} {n : ℕ}

theorem clearUsedCid_eq (cid : ℤ) (cs : List RilGprsConnection) : (clearUsedCid cid cs = cid ∧ ∀ c ∈ cs, c.cid ≠ cid) ∨
    (clearUsedCid cid cs = 0 ∧ ∃ c ∈ cs, c.cid = cid) := by
  induction cs with
  | nil => exact .inl ⟨rfl, nofun⟩
  | cons c cs ih =>
    rw [clearUsedCid]
    split_ifs with hc
    · exact .inr ⟨rfl, c, List.mem_cons_self, hc⟩
    · cases ih with
      | inl ih =>
        left
        constructor
        · exact ih.1
        · exact List.forall_mem_cons.mpr ⟨hc, ih.2⟩
      | inr ih =>
        obtain ⟨hzero, d, hd, hcid⟩ := ih
        exact .inr ⟨hzero, d, List.mem_cons_of_mem c hd, hcid⟩

/-- The search ends with an unused cid, or all the cids that it has tried are in use. -/
theorem findUnusedCid_spec (cs : List RilGprsConnection) (hn : n ≤ maxConnections) (hcid : cid = 0) :
    (0 < findUnusedCid cs n cid ∧ findUnusedCid cs n cid ≤ (maxConnections : ℤ) ∧
      ∀ c ∈ cs, c.cid ≠ findUnusedCid cs n cid) ∨
    (findUnusedCid cs n cid = 0 ∧ ∀ k : ℤ, maxConnections - n < k → k ≤ maxConnections →
      ∃ c ∈ cs, c.cid = k) := by
  induction n generalizing cid with
  | zero =>
    right
    constructor
    · exact hcid
    · intro k hlo hhi
      omega
  | succ n ih =>
    rw [findUnusedCid]
    have hpos : (0 : ℤ) < maxConnections - (n + 1) + 1 := by omega
    rcases clearUsedCid_eq (maxConnections - (n + 1) + 1) cs with
      ⟨hclear, hunused⟩ | ⟨hclear, hused⟩
    · rw [hclear, if_pos hpos]
      left
      refine ⟨hpos, by omega, hunused⟩
    · rw [hclear, if_neg (lt_irrefl 0)]
      rcases ih (by omega) rfl with hfound | ⟨hzero, hall⟩
      · exact .inl hfound
      · right
        refine ⟨hzero, fun k hlo hhi => ?_⟩
        by_cases hk : k = maxConnections - (n + 1) + 1
        · rw [hk]
          exact hused
        · exact hall k (by push_cast at hlo; omega) hhi

/-- A connection that has just been registered is the one found by its cid. -/
theorem findCid_alloc (hfresh : ∀ b ∈ s.gprsConnections, b.cid ≠ cid) :
    rilGprsConnectionFindCid { s with gprsConnections := s.gprsConnections ++ [.alloc cid] } cid =
      some (s.gprsConnections.length, .alloc cid) := by
  unfold rilGprsConnectionFindCid findCell?
  dsimp only
  have hnone : s.gprsConnections.findIdx? (·.cid = cid) = none :=
    List.findIdx?_eq_none_iff.mpr fun c hc => decide_eq_false (hfresh c hc)
  rw [List.findIdx?_append, hnone]
  simp [List.findIdx?_cons, RilGprsConnection.alloc]

/-- `ril_gprs_connection_start` gives a connection with an unused cid at the end of the list, or it
gives none and leaves the list. -/
inductive StartResult (s : GprsData) (allocated : Bool) (iface : ℤ) :
    GprsData × List GprsEffect × Option (ℕ × RilGprsConnection) → Prop
  | started (c : RilGprsConnection) (ifname : CString) (hpos : 0 < c.cid)
      (hmax : c.cid ≤ (maxConnections : ℤ)) (hfresh : ∀ b ∈ s.gprsConnections, b.cid ≠ c.cid)
      (hcid : c.cid = findUnusedCid s.gprsConnections maxConnections 0)
      (hallocated : allocated = true) (hiface : 0 ≤ iface) :
      StartResult s allocated iface ({ s with gprsConnections := s.gprsConnections ++ [c] },
        [.tunAlloc ifname], some (s.gprsConnections.length, c))
  | failed {out : List GprsEffect} (hout : gprsCompletions out = [])
      (hstart : out.any GprsEffect.startsNetwork = false)
      (hwhy : (∀ k : ℤ, 0 < k → k ≤ maxConnections → ∃ c ∈ s.gprsConnections, c.cid = k) ∨
        allocated = false ∨ iface < 0)
      (hrefused : ¬(0 < findUnusedCid s.gprsConnections maxConnections 0 ∧ allocated ∧ 0 ≤ iface)) :
      StartResult s allocated iface (s, out, none)

theorem rilGprsConnectionStart_result (allocated : Bool) (iface : ℤ) :
    StartResult s allocated iface (rilGprsConnectionStart s allocated iface) := by
  have hspec := findUnusedCid_spec s.gprsConnections le_rfl rfl
  unfold rilGprsConnectionStart
  dsimp only
  rcases hspec with ⟨hpos, hmax, hfresh⟩ | ⟨hzero, hall⟩
  · rw [if_neg (by omega)]
    cases allocated with
    | false => exact .failed rfl rfl (.inr (.inl rfl)) (fun h => nomatch h.2.1)
    | true =>
      rw [rilGprsConnectionRegister, if_pos rfl]
      dsimp only
      rw [findCid_alloc hfresh]
      dsimp only [GprsData.put, rilGprsConnectionUnregister]
      rw [set_split]
      split_ifs with hiface
      · rw [eraseIdx_split, List.append_nil]
        exact .failed rfl rfl (.inr (.inr hiface)) (fun h => absurd hiface (not_lt.mpr h.2.2))
      · exact .started _ _ hpos hmax hfresh rfl rfl (not_lt.mp hiface)
  · have hnot : ¬0 < findUnusedCid s.gprsConnections maxConnections 0 := by omega
    rw [hzero, if_pos le_rfl]
    exact .failed rfl rfl (.inl fun k hpos hmax => hall k (by omega) hmax) (fun h => hnot h.1)

end Start

section Change

variable {s : GprsData}

theorem gprsCompletions_append (out out' : List GprsEffect) :
    gprsCompletions (out ++ out') = gprsCompletions out ++ gprsCompletions out' :=
  List.filterMap_append ..

theorem gprsCompletions_cons_complete (c : Completion GprsResponse) (out : List GprsEffect) :
    gprsCompletions (.complete c :: out) = c :: gprsCompletions out := rfl

@[simp] theorem gprsCompletions_close (iface : ℤ) :
    gprsCompletions (if 0 ≤ iface then [.close iface] else []) = [] := by
  split_ifs
  · rfl
  · rfl

theorem gprsCompletions_unsolicited : gprsCompletions (rilUnsolDataCallListChanged s 0) = [] := by
  rfl

theorem rilRequestSetupDataCall_change (t : RequestToken) (data : Option SetupDataCall)
    (allocated : Bool) (iface : ℤ) : GprsChange s (.setupDataCall t data allocated iface)
      (rilRequestSetupDataCall s t data allocated iface).1
      (rilRequestSetupDataCall s t data allocated iface).2 := by
  unfold rilRequestSetupDataCall
  cases data with
  | none => exact .answered _ rfl rfl nofun nofun nofun rfl rfl
  | some d =>
    dsimp only
    generalize hr : rilGprsConnectionStart s allocated iface = r
    have hresult := rilGprsConnectionStart_result (s := s) allocated iface
    rw [hr] at hresult
    cases hresult with
    | failed hout hstart _ hrefused =>
      refine .answered ⟨t, .genericFailure, none⟩ rfl rfl nofun nofun ?_ ?_ ?_
      · rintro _ _ _ _ ⟨⟩ hstarts
        exact hrefused ⟨hstarts.1, hstarts.2.1, hstarts.2.2.1⟩
      · rw [gprsCompletions_append, hout]
        rfl
      · rw [List.any_append, hstart]
        rfl
    | started c ifname hpos hmax hfresh hcid hallocated hiface =>
      subst hallocated
      dsimp only [GprsData.put, rilGprsConnectionStop, rilGprsConnectionUnregister]
      rw [set_split, set_split]
      by_cases htype : dataCallTypeToProtoType d.type = .none
      · rw [if_pos htype, eraseIdx_split, List.append_nil]
        refine .answered ⟨t, .genericFailure, none⟩ rfl rfl nofun nofun ?_ ?_ ?_
        · rintro _ _ _ _ ⟨⟩ hstarts
          exact hstarts.2.2.2 htype
        · rw [gprsCompletions_append, gprsCompletions_cons_complete, gprsCompletions_close]
          rfl
        · rw [List.any_append, List.any_cons]
          split_ifs
          · rfl
          · rfl
      · rw [if_neg htype]
        refine .opened t d iface _ hpos hmax hfresh ⟨?_, rfl, hiface, htype⟩ hcid rfl
          (decide_eq_true rfl) rfl rfl
        rwa [← hcid]

theorem rilRequestDeactivateDataCall_change (t : RequestToken) (cid : Option CString) :
    GprsChange s (.deactivateDataCall t cid) (rilRequestDeactivateDataCall s t cid).1
      (rilRequestDeactivateDataCall s t cid).2 := by
  unfold rilRequestDeactivateDataCall
  cases cid with
  | none => exact .answered ⟨t, .genericFailure, none⟩ rfl rfl nofun nofun nofun rfl rfl
  | some cid =>
    dsimp only
    cases hfind : rilGprsConnectionFindCid s (atoi cid) with
    | none =>
      refine .answered ⟨t, .genericFailure, none⟩ rfl rfl nofun ?_ nofun rfl rfl
      rintro _ _ ⟨⟩ c hc
      simpa using findCell?_eq_none.mp hfind c hc
    | some p =>
      obtain ⟨i, c⟩ := p
      obtain ⟨left, right, hfirst, rfl⟩ := findCell?_eq_some hfind
      dsimp only [GprsData.put]
      rw [hfirst.eq, set_split]
      exact .deactivating t cid hfirst rfl

theorem rilRequestLastDataCallFailCause_change (t : RequestToken) :
    GprsChange s (.lastDataCallFailCause t) (rilRequestLastDataCallFailCause s t).1
      (rilRequestLastDataCallFailCause s t).2 := by
  unfold rilRequestLastDataCallFailCause
  dsimp only
  split_ifs with hcid
  · have hsame : s = { s with gprsLastFailedCid := 0 } := by rw [← hcid]
    rw [hsame]
    exact .queriedNone t (fun h => absurd rfl h) rfl
  · cases hfind : rilGprsConnectionFindCid s s.gprsLastFailedCid with
    | none =>
      have hnone := findCell?_eq_none.mp hfind
      exact .queriedNone t (fun _ c hc => by simpa using hnone c hc) rfl
    | some p =>
      obtain ⟨i, c⟩ := p
      obtain ⟨left, right, hfirst, rfl⟩ := findCell?_eq_some hfind
      dsimp only [GprsData.put, rilGprsConnectionStop, rilGprsConnectionUnregister]
      rw [hfirst.eq, set_split, eraseIdx_split]
      refine .queried t hcid hfirst ?_
      rw [gprsCompletions_append, gprsCompletions_close]
      rfl

theorem ipcProtoStartingNetworkInd_change (error : UInt16) :
    GprsChange s (.startingNetworkInd error) (ipcProtoStartingNetworkInd s error).1
      (ipcProtoStartingNetworkInd s error).2 := by
  unfold ipcProtoStartingNetworkInd
  split_ifs with herror
  · exact .idle rfl (fun h => by simp [GprsEvent.answers, herror] at h) rfl
  · cases hfind : rilGprsConnectionFindContextId s contextIdPlaceholder with
    | none => exact .idle rfl (fun _ => findCell?_eq_none.mp hfind) rfl
    | some p =>
      obtain ⟨i, c⟩ := p
      obtain ⟨left, right, hfirst, rfl⟩ := findCell?_eq_some hfind
      dsimp only [failSetUp, GprsData.put]
      rw [hfirst.eq, set_split]
      exact .failed (by simpa [GprsEvent.answers] using herror) rfl hfirst rfl rfl rfl rfl

theorem ipcProtoStartNetworkCnf_change (netCnf : ProtoStartNetworkCnf)
    (threadStarted configured : Bool) :
    GprsChange s (.startNetworkCnf netCnf threadStarted configured)
      (ipcProtoStartNetworkCnf s netCnf threadStarted configured).1
      (ipcProtoStartNetworkCnf s netCnf threadStarted configured).2 := by
  unfold ipcProtoStartNetworkCnf
  cases hfind : rilGprsConnectionFindContextId s contextIdPlaceholder with
  | none => exact .idle rfl (fun _ => findCell?_eq_none.mp hfind) rfl
  | some p =>
    obtain ⟨i, c⟩ := p
    obtain ⟨left, right, hfirst, rfl⟩ := findCell?_eq_some hfind
    dsimp only [failSetUp, GprsData.put]
    rw [hfirst.eq]
    simp only [set_split]
    split_ifs with herror hstarted hconfigured
    · exact .failed rfl (by simp [GprsEvent.establishes, herror]) hfirst rfl rfl rfl rfl
    · exact .failed rfl (by simp_all [GprsEvent.establishes]) hfirst rfl rfl rfl rfl
    · exact .failed rfl (by simp_all [GprsEvent.establishes]) hfirst rfl rfl rfl rfl
    · exact .established rfl (by simp_all [GprsEvent.establishes]) hfirst rfl rfl rfl

/-- A connection that the modem has stopped leaves the list. -/
theorem endConnection_change {e : GprsEvent} {contextId : UInt32} (more : List GprsEffect)
    (he : e = .stopNetworkCnf contextId ∨ e = .stopNetworkInd contextId)
    {left right : List RilGprsConnection} {c : RilGprsConnection}
    (errno : RilErrno) (hfirst : IsFirst (·.contextId = contextId) s.gprsConnections left c right)
    (hmore : gprsCompletions more = []) :
    GprsChange s e (endConnection s left.length c errno).1
      ((endConnection s left.length c errno).2 ++ more) := by
  dsimp only [endConnection, GprsData.put, rilGprsConnectionStop, rilGprsConnectionUnregister]
  rw [hfirst.eq, set_split, eraseIdx_split]
  refine .ended he errno hfirst ?_
  rw [gprsCompletions_append, gprsCompletions_append, gprsCompletions_close, hmore]
  split_ifs
  · rfl
  · rfl

theorem changeLink_change {e : GprsEvent} {contextId : UInt32} (active : ℕ)
    (he : e = .suspendNetworkInd contextId ∨ e = .resumeNetworkInd contextId) :
    GprsChange s e (changeLink s contextId active).1 (changeLink s contextId active).2 := by
  unfold changeLink
  cases hfind : rilGprsConnectionFindContextId s contextId with
  | none =>
    dsimp only
    rcases he with rfl | rfl
    · exact .idle rfl nofun rfl
    · exact .idle rfl nofun rfl
  | some p =>
    obtain ⟨i, c⟩ := p
    obtain ⟨left, right, hfirst, rfl⟩ := findCell?_eq_some hfind
    dsimp only [GprsData.put]
    rw [hfirst.eq, set_split]
    exact .linked active he hfirst rfl

/-- Every event changes the list in one of these ways. -/
theorem gprsHandler_change (e : GprsEvent) :
    GprsChange s e (gprsHandler s e).1 (gprsHandler s e).2 := by
  cases e with
  | setupDataCall t data allocated iface =>
    exact rilRequestSetupDataCall_change t data allocated iface
  | deactivateDataCall t cid => exact rilRequestDeactivateDataCall_change t cid
  | lastDataCallFailCause t => exact rilRequestLastDataCallFailCause_change t
  | dataCallList t =>
    have hout : rilUnsolDataCallListChanged s t.1 =
        [.complete ⟨t, .success, some (.dataCallList (s.gprsConnections.map (·.response)))⟩] :=
      if_neg t.2
    dsimp only [gprsHandler, rilRequestDataCallList]
    rw [hout]
    exact .answered _ rfl rfl nofun nofun nofun rfl rfl
  | startingNetworkInd error => exact ipcProtoStartingNetworkInd_change error
  | startNetworkCnf netCnf threadStarted configured =>
    exact ipcProtoStartNetworkCnf_change netCnf threadStarted configured
  | stopNetworkCnf contextId =>
    dsimp only [gprsHandler, ipcProtoStopNetworkCnf]
    cases hfind : rilGprsConnectionFindContextId s contextId with
    | none => exact .idle rfl nofun rfl
    | some p =>
      obtain ⟨i, c⟩ := p
      obtain ⟨left, right, hfirst, rfl⟩ := findCell?_eq_some hfind
      have hchange := endConnection_change [] (.inl rfl) .success hfirst rfl
      rwa [List.append_nil] at hchange
  | stopNetworkInd contextId =>
    dsimp only [gprsHandler, ipcProtoStopNetworkInd]
    cases hfind : rilGprsConnectionFindContextId s contextId with
    | none => exact .idle rfl nofun rfl
    | some p =>
      obtain ⟨i, c⟩ := p
      obtain ⟨left, right, hfirst, rfl⟩ := findCell?_eq_some hfind
      exact endConnection_change _ (.inr rfl) .genericFailure hfirst gprsCompletions_unsolicited
  | receiveDataInd contextId netBuf =>
    dsimp only [gprsHandler, ipcProtoReceiveDataInd]
    cases hfind : rilGprsConnectionFindContextId s contextId with
    | none => exact .idle rfl nofun rfl
    | some p =>
      obtain ⟨i, c⟩ := p
      dsimp only
      split_ifs
      · exact .idle rfl nofun rfl
      · exact .idle rfl nofun rfl
  | suspendNetworkInd contextId => exact changeLink_change 1 (.inl rfl)
  | resumeNetworkInd contextId => exact changeLink_change 2 (.inr rfl)

theorem gprsStep_change {u : GprsData} {a : GprsEvent × List GprsEffect} (h : GprsStep s a u) :
    GprsChange s a.1 u a.2 := by
  have hchange := gprsHandler_change (s := s) a.1
  have hr : gprsHandler s a.1 = (u, a.2) := h
  rwa [hr] at hchange

/-- What a query of the fail cause does. -/
theorem gprsChange_query {u : GprsData} {t : RequestToken} {out : List GprsEffect}
    (h : GprsChange s (.lastDataCallFailCause t) u out) :
    (∃ left c right, s.gprsLastFailedCid ≠ 0 ∧
      IsFirst (·.cid = s.gprsLastFailedCid) s.gprsConnections left c right ∧ u = ⟨left ++ right, 0⟩ ∧
        gprsCompletions out = [⟨t, .success, some (.failCause c.failCause)⟩]) ∨
    ((s.gprsLastFailedCid ≠ 0 → ∀ c ∈ s.gprsConnections, c.cid ≠ s.gprsLastFailedCid) ∧
      u.gprsConnections = s.gprsConnections ∧
        gprsCompletions out = [⟨t, .success, some (.failCause .errorUnspecified)⟩]) := by
  cases h with
  | queried _ hcid hfirst hout => exact .inl ⟨_, _, _, hcid, hfirst, rfl, hout⟩
  | queriedNone _ hnone hout => exact .inr ⟨hnone, rfl, hout⟩
  | answered _ _ _ he => exact absurd rfl (he t)
  | idle ht => cases ht
  | ended he => rcases he with he | he <;> cases he
  | linked _ he => rcases he with he | he <;> cases he
  | failed he => cases he
  | established he => cases he

end Change

end Mocha.Ril
