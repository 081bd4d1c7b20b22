import Mocha.Ril.GprsChange
import Mocha.Ril.SystemModules

/-! The tunnels of the data connections (`tun_alloc`, `close` and `write` in `gprs.c`): each one that is
opened is closed once or belongs to a connection, network frames are written to open tunnels only, and no
two connections have the same device. -/
namespace Mocha.Ril
open Mocha.Lib

/-- The descriptor of the tunnel, if there is one. -/
def RilGprsConnection.tunnel (c : RilGprsConnection) : Option ℤ :=
  if 0 ≤ c.iface then some c.iface else none

/-- The tunnels of the connections. -/
def GprsData.tunnels (s : GprsData) : Multiset ℤ :=
  s.gprsConnections.filterMap RilGprsConnection.tunnel

/-- The name that `tun_alloc` is called with. -/
@[simp] def GprsEffect.allocates : GprsEffect → Option CString
  | .tunAlloc ifname => some ifname
  | _ => none

@[simp] def GprsEffect.closed : GprsEffect → Option ℤ
  | .close iface => some iface
  | _ => none

@[simp] def GprsEffect.writtenTo : GprsEffect → Option ℤ
  | .write iface _ => some iface
  | _ => none

/-- What `tun_alloc` would return, if it is a descriptor. -/
def GprsEvent.descriptor : GprsEvent → Option ℤ
  | .setupDataCall _ _ _ iface => if 0 ≤ iface then some iface else none
  | _ => none

/-- The names that `tun_alloc` is called with. -/
def tunnelNames (a : GprsEvent × List GprsEffect) : List CString := a.2.filterMap GprsEffect.allocates

/-- The tunnels that are opened. -/
def tunnelsOpened (a : GprsEvent × List GprsEffect) : List ℤ :=
  (tunnelNames a).flatMap fun _ => a.1.descriptor.toList

def tunnelsClosed (a : GprsEvent × List GprsEffect) : List ℤ := a.2.filterMap GprsEffect.closed

/-- The tunnels that network frames are written to. -/
def tunnelsWritten (a : GprsEvent × List GprsEffect) : List ℤ := a.2.filterMap GprsEffect.writtenTo

/-- Effects that have nothing to do with tunnels. -/
def NoTunnel (out : List GprsEffect) : Prop :=
  ∀ e ∈ out, e.allocates = none ∧ e.closed = none ∧ e.writtenTo = none

/-- The name of the network device of a connection. -/
def deviceName (cid : ℤ) : CString := cString "tun" ++ decimal (cid - 1)

/-- What stays the same for a connection while it is in the list. -/
def RilGprsConnection.device (c : RilGprsConnection) : ℤ × ℤ × CString := (c.cid, c.iface, c.ifname)

/-- What an event does to the tunnels. -/
inductive TunnelChange (s : GprsData) : GprsEvent × List GprsEffect → GprsData → Prop
  | opened {t : RequestToken} {d : SetupDataCall} {allocated : Bool} (c : RilGprsConnection)
      {out : List GprsEffect} (hcid : 0 < c.cid ∧ c.cid ≤ (maxConnections : ℤ))
      (hfresh : ∀ b ∈ s.gprsConnections, b.cid ≠ c.cid) (hname : c.ifname = deviceName c.cid)
      (hiface : 0 ≤ c.iface) (hout : NoTunnel out) :
      TunnelChange s (.setupDataCall t (some d) allocated c.iface, .tunAlloc c.ifname :: out)
        { s with gprsConnections := s.gprsConnections ++ [c] }
  | refused {t : RequestToken} {d : SetupDataCall} {allocated : Bool} {iface cid : ℤ}
      {before : List GprsEffect} (hcid : 0 < cid ∧ cid ≤ (maxConnections : ℤ))
      (hfresh : ∀ b ∈ s.gprsConnections, b.cid ≠ cid) (hbefore : NoTunnel before) :
      TunnelChange s (.setupDataCall t (some d) allocated iface, .tunAlloc (deviceName cid) ::
        (before ++ if 0 ≤ iface then [.close iface] else [])) s
  | stopped {e : GprsEvent} {t : GprsData} {before after : List GprsEffect}
      {left right : List RilGprsConnection} {c : RilGprsConnection}
      (hs : s.gprsConnections = left ++ c :: right) (ht : t.gprsConnections = left ++ right)
      (hbefore : NoTunnel before) (hafter : NoTunnel after) :
      TunnelChange s (e, before ++ (if 0 ≤ c.iface then [.close c.iface] else []) ++ after) t
  | written {e : GprsEvent} {iface : ℤ} {netBuf : List UInt8} (h : iface ∈ s.tunnels) :
      TunnelChange s (e, [.write iface netBuf]) s
  | kept {e : GprsEvent} {t : GprsData} {out : List GprsEffect} (hout : NoTunnel out)
      (ht : t.gprsConnections.map RilGprsConnection.device = s.gprsConnections.map RilGprsConnection.device) :
      TunnelChange s (e, out) t

section Handlers

variable {s : GprsData}

/-- What `ril_gprs_connection_start` does with the tunnel that it gets. -/
theorem rilGprsConnectionStart_tunnel (allocated : Bool) (iface : ℤ) :
    rilGprsConnectionStart s allocated iface = (s, [], none) ∨
    ∃ cid, (0 < cid ∧ cid ≤ (maxConnections : ℤ)) ∧ (∀ b ∈ s.gprsConnections, b.cid ≠ cid) ∧
      ((iface < 0 ∧ rilGprsConnectionStart s allocated iface = (s, [.tunAlloc (deviceName cid)], none)) ∨
        (0 ≤ iface ∧ ∃ c : RilGprsConnection, c.device = (cid, iface, deviceName cid) ∧
          rilGprsConnectionStart s allocated iface =
            ({ s with gprsConnections := s.gprsConnections ++ [c] }, [.tunAlloc (deviceName cid)],
              some (s.gprsConnections.length, c)))) := by
  have hspec := findUnusedCid_spec s.gprsConnections le_rfl rfl
  unfold rilGprsConnectionStart
  dsimp only
  rcases hspec with ⟨hpos, hmax, hfresh⟩ | ⟨hzero, hall⟩
  · rw [if_neg (by omega)]
    cases allocated with
    | false => exact .inl rfl
    | true =>
      refine .inr ⟨_, ⟨hpos, hmax⟩, hfresh, ?_⟩
      rw [rilGprsConnectionRegister, if_pos rfl]
      dsimp only
      rw [findCid_alloc hfresh]
      dsimp only [GprsData.put, rilGprsConnectionUnregister]
      rw [set_split]
      split_ifs with hiface
      · rw [eraseIdx_split, List.append_nil]
        exact .inl ⟨hiface, rfl⟩
      · exact .inr ⟨not_lt.mp hiface, _, rfl, rfl⟩
  · rw [hzero, if_pos le_rfl]
    exact .inl rfl

theorem rilRequestSetupDataCall_tunnels (t : RequestToken) (data : Option SetupDataCall)
    (allocated : Bool) (iface : ℤ) :
    TunnelChange s (.setupDataCall t data allocated iface, (rilRequestSetupDataCall s t data allocated iface).2)
      (rilRequestSetupDataCall s t data allocated iface).1 := by
  unfold rilRequestSetupDataCall
  cases data with
  | none => exact .kept (by simp [NoTunnel]) rfl
  | some d =>
    dsimp only
    rcases rilGprsConnectionStart_tunnel (s := s) allocated iface with
      hstart | ⟨cid, hcid, hfresh, hcase⟩
    · rw [hstart]
      exact .kept (by simp [NoTunnel]) rfl
    · have hrefused : TunnelChange s (.setupDataCall t (some d) allocated iface,
          .tunAlloc (deviceName cid) :: ([.complete ⟨t, .genericFailure, none⟩] ++
            if 0 ≤ iface then [.close iface] else [])) s := .refused hcid hfresh (by simp [NoTunnel])
      rcases hcase with ⟨hneg, hstart⟩ | ⟨hpos, c, hdevice, hstart⟩
      · rw [if_neg (not_le.mpr hneg), List.append_nil] at hrefused
        rw [hstart]
        exact hrefused
      · obtain ⟨rfl, hrest⟩ := Prod.mk.inj hdevice
        obtain ⟨rfl, hname⟩ := Prod.mk.inj hrest
        rw [hstart]
        dsimp only [GprsData.put, rilGprsConnectionStop, rilGprsConnectionUnregister]
        rw [set_split, set_split]
        by_cases htype : dataCallTypeToProtoType d.type = .none
        · rw [if_pos htype, eraseIdx_split, List.append_nil]
          exact hrefused
        · rw [if_neg htype, ← hname]
          exact .opened { c with
            type := dataCallTypeToProtoType d.type, token := t, contextId := contextIdPlaceholder }
            hcid hfresh hname hpos (by simp [NoTunnel])

theorem rilRequestDeactivateDataCall_tunnels (t : RequestToken) (cid : Option CString) :
    TunnelChange s (.deactivateDataCall t cid, (rilRequestDeactivateDataCall s t cid).2)
      (rilRequestDeactivateDataCall s t cid).1 := by
  unfold rilRequestDeactivateDataCall
  cases cid with
  | none => exact .kept (by simp [NoTunnel]) rfl
  | some cid =>
    dsimp only
    cases hfind : rilGprsConnectionFindCid s (atoi cid) with
    | none => exact .kept (by simp [NoTunnel]) rfl
    | some p =>
      obtain ⟨i, c⟩ := p
      obtain ⟨left, right, hfirst, rfl⟩ := findCell?_eq_some hfind
      dsimp only [GprsData.put]
      rw [hfirst.eq, set_split]
      exact .kept (by simp [NoTunnel, protoStopContext]) (hfirst.map_replaced rfl)

theorem rilRequestLastDataCallFailCause_tunnels (t : RequestToken) :
    TunnelChange s (.lastDataCallFailCause t, (rilRequestLastDataCallFailCause s t).2)
      (rilRequestLastDataCallFailCause s t).1 := by
  unfold rilRequestLastDataCallFailCause
  dsimp only
  split_ifs with hcid
  · exact .kept (by simp [NoTunnel]) rfl
  · cases hfind : rilGprsConnectionFindCid s s.gprsLastFailedCid with
    | none => exact .kept (by simp [NoTunnel]) rfl
    | some p =>
      obtain ⟨i, c⟩ := p
      obtain ⟨left, right, hfirst, rfl⟩ := findCell?_eq_some hfind
      dsimp only [GprsData.put, rilGprsConnectionStop, rilGprsConnectionUnregister]
      rw [hfirst.eq, set_split, eraseIdx_split]
      exact TunnelChange.stopped hfirst.eq rfl (show NoTunnel [] from nofun) (by simp [NoTunnel])

theorem ipcProtoStartingNetworkInd_tunnels (error : UInt16) :
    TunnelChange s (.startingNetworkInd error, (ipcProtoStartingNetworkInd s error).2)
      (ipcProtoStartingNetworkInd s error).1 := by
  unfold ipcProtoStartingNetworkInd
  split_ifs
  · exact .kept nofun rfl
  · cases hfind : rilGprsConnectionFindContextId s contextIdPlaceholder with
    | none => exact .kept nofun rfl
    | some p =>
      obtain ⟨i, c⟩ := p
      obtain ⟨left, right, hfirst, rfl⟩ := findCell?_eq_some hfind
      dsimp only [failSetUp, GprsData.put]
      rw [hfirst.eq, set_split]
      exact .kept (by simp [NoTunnel]) (hfirst.map_replaced rfl)

theorem ipcProtoStartNetworkCnf_tunnels (netCnf : ProtoStartNetworkCnf) (threadStarted configured : Bool) :
    TunnelChange s (.startNetworkCnf netCnf threadStarted configured,
        (ipcProtoStartNetworkCnf s netCnf threadStarted configured).2)
      (ipcProtoStartNetworkCnf s netCnf threadStarted configured).1 := by
  unfold ipcProtoStartNetworkCnf
  cases hfind : rilGprsConnectionFindContextId s contextIdPlaceholder with
  | none => exact .kept nofun rfl
  | some p =>
    obtain ⟨i, c⟩ := p
    obtain ⟨left, right, hfirst, rfl⟩ := findCell?_eq_some hfind
    dsimp only [failSetUp, GprsData.put]
    rw [hfirst.eq]
    simp only [set_split]
    split_ifs <;>
      exact .kept (by simp [NoTunnel, protoStopContext]) (hfirst.map_replaced rfl)

/-- A connection that the modem has stopped. -/
theorem endConnection_tunnels {e : GprsEvent} {left right : List RilGprsConnection} {c : RilGprsConnection}
    (errno : RilErrno) {more : List GprsEffect} (hmore : NoTunnel more)
    (hs : s.gprsConnections = left ++ c :: right) :
    TunnelChange s (e, (endConnection s left.length c errno).2 ++ more)
      (endConnection s left.length c errno).1 := by
  dsimp only [endConnection, GprsData.put, rilGprsConnectionStop, rilGprsConnectionUnregister]
  rw [hs, set_split, eraseIdx_split]
  refine .stopped hs rfl ?_ hmore
  split_ifs
  · simp [NoTunnel]
  · exact nofun

theorem changeLink_tunnels {e : GprsEvent} (contextId : UInt32) (active : ℕ) :
    TunnelChange s (e, (changeLink s contextId active).2) (changeLink s contextId active).1 := by
  unfold changeLink
  cases hfind : rilGprsConnectionFindContextId s contextId with
  | none => exact .kept nofun rfl
  | some p =>
    obtain ⟨i, c⟩ := p
    obtain ⟨left, right, hfirst, rfl⟩ := findCell?_eq_some hfind
    dsimp only [GprsData.put]
    rw [hfirst.eq, set_split]
    exact .kept (by simp [NoTunnel, rilUnsolDataCallListChanged])
      (hfirst.map_replaced rfl)

/-- A network frame goes to the tunnel of a connection. -/
theorem ipcProtoReceiveDataInd_tunnels (contextId : UInt32) (netBuf : List UInt8) :
    TunnelChange s (.receiveDataInd contextId netBuf, (ipcProtoReceiveDataInd s contextId netBuf).2)
      (ipcProtoReceiveDataInd s contextId netBuf).1 := by
  unfold ipcProtoReceiveDataInd
  cases hfind : rilGprsConnectionFindContextId s contextId with
  | none => exact .kept nofun rfl
  | some p =>
    obtain ⟨i, c⟩ := p
    obtain ⟨left, right, hfirst, -⟩ := findCell?_eq_some hfind
    dsimp only
    split_ifs with hiface
    · exact .kept nofun rfl
    · exact .written (Multiset.mem_coe.mpr
        (List.mem_filterMap.mpr ⟨c, hfirst.mem, if_pos (not_lt.mp hiface)⟩))

end Handlers

theorem gprsHandler_tunnels (s : GprsData) (e : GprsEvent) :
    TunnelChange s (e, (gprsHandler s e).2) (gprsHandler s e).1 := by
  cases e with
  | setupDataCall t data allocated iface => exact rilRequestSetupDataCall_tunnels t data allocated iface
  | deactivateDataCall t cid => exact rilRequestDeactivateDataCall_tunnels t cid
  | lastDataCallFailCause t => exact rilRequestLastDataCallFailCause_tunnels t
  | dataCallList t =>
    refine .kept ?_ rfl
    unfold gprsHandler rilRequestDataCallList rilUnsolDataCallListChanged
    dsimp only
    split_ifs
    · simp [NoTunnel]
    · simp [NoTunnel]
  | startingNetworkInd error => exact ipcProtoStartingNetworkInd_tunnels error
  | startNetworkCnf netCnf threadStarted configured =>
    exact ipcProtoStartNetworkCnf_tunnels netCnf threadStarted configured
  | stopNetworkCnf contextId =>
    dsimp only [gprsHandler, ipcProtoStopNetworkCnf]
    cases hfind : rilGprsConnectionFindContextId s contextId with
    | none => exact .kept nofun rfl
    | some p =>
      obtain ⟨i, c⟩ := p
      obtain ⟨left, right, hfirst, rfl⟩ := findCell?_eq_some hfind
      have hchange := endConnection_tunnels (e := .stopNetworkCnf contextId) .success
        (show NoTunnel [] from nofun) hfirst.eq
      rwa [List.append_nil] at hchange
  | stopNetworkInd contextId =>
    dsimp only [gprsHandler, ipcProtoStopNetworkInd]
    cases hfind : rilGprsConnectionFindContextId s contextId with
    | none => exact .kept nofun rfl
    | some p =>
      obtain ⟨i, c⟩ := p
      obtain ⟨left, right, hfirst, rfl⟩ := findCell?_eq_some hfind
      exact endConnection_tunnels .genericFailure (by simp [NoTunnel, rilUnsolDataCallListChanged]) hfirst.eq
  | receiveDataInd contextId netBuf => exact ipcProtoReceiveDataInd_tunnels contextId netBuf
  | suspendNetworkInd contextId => exact changeLink_tunnels contextId 1
  | resumeNetworkInd contextId => exact changeLink_tunnels contextId 2

theorem gprsStep_tunnels {s t : GprsData} {a : GprsEvent × List GprsEffect} (h : GprsStep s a t) :
    TunnelChange s a t := by
  have hchange := gprsHandler_tunnels s a.1
  have hr : gprsHandler s a.1 = (t, a.2) := h
  rwa [hr] at hchange

/-- What a step does to the tunnels, as a balance. -/
structure TunnelBalance (s : GprsData) (a : GprsEvent × List GprsEffect) (t : GprsData) : Prop where
  balance : t.tunnels + (tunnelsClosed a : Multiset ℤ) = s.tunnels + (tunnelsOpened a : Multiset ℤ)
  written : ∀ iface ∈ tunnelsWritten a, iface ∈ s.tunnels

section Balance

variable {s t : GprsData} {e : GprsEvent} {out : List GprsEffect} {a : GprsEvent × List GprsEffect}

theorem NoTunnel.quiet (h : NoTunnel out) : out.filterMap GprsEffect.allocates = [] ∧
    out.filterMap GprsEffect.closed = [] ∧ out.filterMap GprsEffect.writtenTo = [] :=
  ⟨List.filterMap_eq_nil_iff.mpr fun e he => (h e he).1,
    List.filterMap_eq_nil_iff.mpr fun e he => (h e he).2.1,
    List.filterMap_eq_nil_iff.mpr fun e he => (h e he).2.2⟩

theorem tunnels_of_devices (h : t.gprsConnections.map RilGprsConnection.device =
    s.gprsConnections.map RilGprsConnection.device) : t.tunnels = s.tunnels := by
  have htunnel : RilGprsConnection.tunnel =
      (fun d : ℤ × ℤ × CString => if 0 ≤ d.2.1 then some d.2.1 else none) ∘ RilGprsConnection.device := rfl
  unfold GprsData.tunnels
  rw [htunnel, ← List.filterMap_map, ← List.filterMap_map, h]

/-- What the closing of a tunnel shows. -/
theorem close_shown (iface : ℤ) :
    (if 0 ≤ iface then [GprsEffect.close iface] else []).filterMap GprsEffect.allocates = [] ∧
    (if 0 ≤ iface then [GprsEffect.close iface] else []).filterMap GprsEffect.closed =
      (if 0 ≤ iface then some iface else none).toList ∧
    (if 0 ≤ iface then [GprsEffect.close iface] else []).filterMap GprsEffect.writtenTo = [] := by
  split_ifs
  · exact ⟨rfl, rfl, rfl⟩
  · exact ⟨rfl, rfl, rfl⟩

theorem TunnelChange.balance (h : TunnelChange s a t) : TunnelBalance s a t := by
  cases h with
  | opened c hcid hfresh hname hiface hout =>
    obtain ⟨hnames, hclosed, hwritten⟩ := hout.quiet
    constructor
    · unfold tunnelsClosed tunnelsOpened tunnelNames GprsData.tunnels
      simp only [List.filterMap_cons, GprsEffect.allocates, GprsEffect.closed, hnames, hclosed]
      rw [coe_filterMap_split, List.append_nil, List.flatMap_singleton]
      exact add_zero _
    · unfold tunnelsWritten
      simp only [List.filterMap_cons, GprsEffect.writtenTo, hwritten]
      exact nofun
  | @refused _ _ _ iface cid before hcid hfresh hbefore =>
    obtain ⟨hnames, hclosed, hwritten⟩ := hbefore.quiet
    obtain ⟨hnames', hclosed', hwritten'⟩ := close_shown iface
    constructor
    · unfold tunnelsClosed tunnelsOpened tunnelNames
      simp only [List.filterMap_cons, List.filterMap_append, GprsEffect.allocates, GprsEffect.closed,
        hnames, hclosed, hnames', hclosed', List.nil_append, List.flatMap_singleton]
      rfl
    · unfold tunnelsWritten
      simp only [List.filterMap_cons, List.filterMap_append, GprsEffect.writtenTo, hwritten, hwritten']
      exact nofun
  | @stopped e _ before after left right c hs ht hbefore hafter =>
    obtain ⟨hnames, hclosed, hwritten⟩ := hbefore.quiet
    obtain ⟨hnames', hclosed', hwritten'⟩ := hafter.quiet
    obtain ⟨hnone, hclose, hquiet⟩ := close_shown c.iface
    constructor
    · unfold tunnelsClosed tunnelsOpened tunnelNames GprsData.tunnels
      simp only [List.filterMap_append, hnames, hclosed, hnames', hclosed', hnone, hclose, List.nil_append,
        List.append_nil, List.flatMap_nil]
      rw [hs, ht, coe_filterMap_split]
      exact (add_zero _).symm
    · unfold tunnelsWritten
      simp only [List.filterMap_append, hwritten, hwritten', hquiet]
      exact nofun
  | written h =>
    refine ⟨rfl, fun iface hwritten => ?_⟩
    obtain rfl := List.mem_singleton.mp hwritten
    exact h
  | kept hout ht =>
    obtain ⟨hnames, hclosed, hwritten⟩ := hout.quiet
    constructor
    · unfold tunnelsClosed tunnelsOpened tunnelNames
      rw [hnames, hclosed, tunnels_of_devices ht]
      rfl
    · unfold tunnelsWritten
      rw [hwritten]
      exact nofun

end Balance

/-- Each connection has the device of its number, and the numbers are different. -/
structure NamedDevices (devices : List (ℤ × ℤ × CString)) : Prop where
  numbered : ∀ d ∈ devices, 0 < d.1 ∧ d.1 ≤ (maxConnections : ℤ)
  named : ∀ d ∈ devices, d.2.2 = deviceName d.1
  distinct : (devices.map Prod.fst).Nodup

def GprsData.Named (s : GprsData) : Prop := NamedDevices (s.gprsConnections.map RilGprsConnection.device)

section Names

variable {s t : GprsData} {a : GprsEvent × List GprsEffect} {devices : List (ℤ × ℤ × CString)}

/-- There are two numbers, and so two names. -/
theorem deviceName_inj {cid cid' : ℤ} (h : 0 < cid ∧ cid ≤ (maxConnections : ℤ))
    (h' : 0 < cid' ∧ cid' ≤ (maxConnections : ℤ)) (heq : deviceName cid = deviceName cid') : cid = cid' := by
  have hcid : cid = 1 ∨ cid = 2 := by unfold maxConnections at h; omega
  have hcid' : cid' = 1 ∨ cid' = 2 := by unfold maxConnections at h'; omega
  have hne : deviceName 1 ≠ deviceName 2 := by decide
  rcases hcid with rfl | rfl <;> rcases hcid' with rfl | rfl
  · rfl
  · exact absurd heq hne
  · exact absurd heq.symm hne
  · rfl

theorem NamedDevices.names_nodup (h : NamedDevices devices) : (devices.map (·.2.2)).Nodup := by
  have hnames : devices.map (·.2.2) = (devices.map Prod.fst).map deviceName := by
    rw [List.map_map]
    exact List.map_congr_left h.named
  rw [hnames]
  refine h.distinct.map_on fun cid hcid cid' hcid' => ?_
  obtain ⟨d, hd, rfl⟩ := List.mem_map.mp hcid
  obtain ⟨d', hd', rfl⟩ := List.mem_map.mp hcid'
  exact deviceName_inj (h.numbered d hd) (h.numbered d' hd')

theorem NamedDevices.sublist {devices' : List (ℤ × ℤ × CString)} (h : NamedDevices devices)
    (hsub : devices'.Sublist devices) : NamedDevices devices' where
  numbered d hd := h.numbered d (hsub.subset hd)
  named d hd := h.named d (hsub.subset hd)
  distinct := h.distinct.sublist (hsub.map Prod.fst)

theorem TunnelChange.named (h : TunnelChange s a t) (hs : s.Named) : t.Named := by
  cases h with
  | opened c hcid hfresh hname hiface hout =>
    unfold GprsData.Named at hs ⊢
    dsimp only
    rw [List.map_append, List.map_singleton]
    constructor
    · exact List.forall_mem_append.mpr ⟨hs.numbered, List.forall_mem_singleton.mpr hcid⟩
    · exact List.forall_mem_append.mpr ⟨hs.named, List.forall_mem_singleton.mpr hname⟩
    · rw [List.map_append, List.map_singleton]
      refine hs.distinct.append (List.nodup_singleton _) fun cid hold hnew => ?_
      obtain rfl := List.mem_singleton.mp hnew
      rw [List.map_map] at hold
      obtain ⟨b, hb, heq⟩ := List.mem_map.mp hold
      exact hfresh b hb heq
  | refused _ _ _ | written _ => exact hs
  | stopped hs' ht _ _ =>
    unfold GprsData.Named at hs ⊢
    rw [ht]
    rw [hs'] at hs
    exact hs.sublist (((List.sublist_cons_self ..).append_left _).map _)
  | kept _ ht =>
    unfold GprsData.Named at hs ⊢
    rwa [ht]

/-- `tun_alloc` is called with the name of a device that no connection has. -/
theorem TunnelChange.name_unused (h : TunnelChange s a t) (hs : s.Named) {name : CString}
    (hname : name ∈ tunnelNames a) : ∀ c ∈ s.gprsConnections, c.ifname ≠ name := by
  have hunused : ∀ {cid : ℤ}, (0 < cid ∧ cid ≤ (maxConnections : ℤ)) →
      (∀ b ∈ s.gprsConnections, b.cid ≠ cid) → ∀ c ∈ s.gprsConnections, c.ifname ≠ deviceName cid := by
    intro cid hcid hfresh c hc heq
    have hdevice := List.mem_map_of_mem (f := RilGprsConnection.device) hc
    exact hfresh c hc (deviceName_inj (hs.numbered _ hdevice) hcid ((hs.named _ hdevice).symm.trans heq))
  cases h with
  | opened c hcid hfresh hcname hiface hout =>
    unfold tunnelNames at hname
    simp only [List.filterMap_cons, GprsEffect.allocates, hout.quiet.1] at hname
    obtain rfl := List.mem_singleton.mp hname
    rw [hcname]
    exact hunused hcid hfresh
  | refused hcid hfresh hbefore =>
    unfold tunnelNames at hname
    simp only [List.filterMap_cons, List.filterMap_append, GprsEffect.allocates, hbefore.quiet.1,
      (close_shown _).1, List.nil_append] at hname
    obtain rfl := List.mem_singleton.mp hname
    exact hunused hcid hfresh
  | stopped _ _ hbefore hafter =>
    unfold tunnelNames at hname
    simp only [List.filterMap_append, hbefore.quiet.1, hafter.quiet.1, (close_shown _).1,
      List.append_nil] at hname
    exact absurd hname List.not_mem_nil
  | written _ => exact absurd hname List.not_mem_nil
  | kept hout _ =>
    unfold tunnelNames at hname
    rw [hout.quiet.1] at hname
    exact absurd hname List.not_mem_nil

end Names

/-- The effects of the data connections. -/
def RilEffect.gprs? : RilEffect → Option GprsEffect
  | .gprs e => some e
  | _ => none

/-- The step of the data connections that a step of the modules is, if any. -/
def gprsSteps (a : ModuleEvent × List RilEffect) : List (GprsEvent × List GprsEffect) :=
  match a.1 with
  | .gprs e => [(e, a.2.filterMap RilEffect.gprs?)]
  | _ => []

/-- The data connections are a component of the modules. -/
def gprsComponent : Component ModulesStep GprsStep where
  part := RilModules.gprs
  steps := gprsSteps
  inside h := by
    cases h with
    | calls _ | sendSms _ | sendStatus _ | simIo _ => exact .nil
    | @gprs e out gprs h =>
      have hout : (out.map RilEffect.gprs).filterMap RilEffect.gprs? = out := by
        rw [List.filterMap_map]
        exact List.filterMap_some
      change Run GprsStep _ [(e, (out.map RilEffect.gprs).filterMap RilEffect.gprs?)] _
      rw [hout]
      exact .one h

section Runs

/-- What was opened was closed, or it is the tunnel of a connection. -/
theorem tunnels_balanced {t : GprsData} {tr : List (GprsEvent × List GprsEffect)}
    (h : Run GprsStep .init tr t) : (tr.flatMap tunnelsOpened : Multiset ℤ) =
      (tr.flatMap tunnelsClosed : List ℤ) + t.tunnels := by
  have hconserved := h.conservation GprsData.tunnels (fun a => (tunnelsOpened a : Multiset ℤ))
    (fun a => (tunnelsClosed a : Multiset ℤ)) fun _ _ _ hs => (gprsStep_tunnels hs).balance.balance
  rw [sum_map_coe, sum_map_coe] at hconserved
  have hinit : GprsData.init.tunnels = 0 := rfl
  rw [hinit, zero_add, add_comm] at hconserved
  exact hconserved.symm

/-- What the telephony layer does to its data connections is a run of theirs. -/
theorem rilRun_gprs {bAutoAttach : UInt32} {state : RilClientState} {u : RilData}
    {tr : List (RilEvent × List SystemEffect)}
    (h : Run RilStep (rilInit bAutoAttach (some ⟨state, true⟩)) tr u) :
    Run GprsStep .init ((tr.flatMap moduleSteps).flatMap gprsSteps) u.gprs := by
  have hconnected : (rilInit bAutoAttach (some ⟨state, true⟩)).Connected := rfl
  exact gprsComponent.run (modulesComponent.run (rilRun_connected hconnected h))

/-- **No tunnel is lost, and none is used after it was closed.** In every run of the telephony layer from its
start with a client, the tunnels that are opened are those that are closed, each as often, and those of the
connections. A network frame is written only to a tunnel that has been opened more often than closed. -/
theorem tunnels_accounted {bAutoAttach : UInt32} {state : RilClientState} {u : RilData}
    {tr : List (RilEvent × List SystemEffect)}
    (h : Run RilStep (rilInit bAutoAttach (some ⟨state, true⟩)) tr u) :
    ((tr.flatMap moduleSteps).flatMap gprsSteps |>.flatMap tunnelsOpened : Multiset ℤ) =
        ((tr.flatMap moduleSteps).flatMap gprsSteps |>.flatMap tunnelsClosed : List ℤ) + u.gprs.tunnels ∧
      ∀ before a after, (tr.flatMap moduleSteps).flatMap gprsSteps = before ++ a :: after →
        ∀ iface ∈ tunnelsWritten a,
          (before.flatMap tunnelsClosed).count iface < (before.flatMap tunnelsOpened).count iface := by
  have hgprs := rilRun_gprs h
  refine ⟨tunnels_balanced hgprs, fun before a after heq iface hwritten => ?_⟩
  rw [heq] at hgprs
  obtain ⟨s, hbefore, hrest⟩ := Run.append_iff.mp hgprs
  obtain ⟨t, hstep, -⟩ := Run.cons_iff.mp hrest
  have hheld := Multiset.count_pos.mpr ((gprsStep_tunnels hstep).balance.written iface hwritten)
  have hcount := congrArg (Multiset.count iface) (tunnels_balanced hbefore)
  rw [Multiset.count_add, Multiset.coe_count, Multiset.coe_count] at hcount
  omega

/-- A data connection is set up, and its tunnel is 7. -/
theorem tunnels_accounted_setup :
    let request : RilRequest := .setupDataCall (some ⟨none, none, none, cString "IP"⟩) true 7
    let r := ofRil (rilOnRequest (rilInit 1 (some ⟨.ready, true⟩)) request 3)
    let tr : List (RilEvent × List SystemEffect) := [(.request request ⟨3, by decide⟩, r.2)]
    ((tr.flatMap moduleSteps).flatMap gprsSteps |>.flatMap tunnelsOpened : Multiset ℤ) =
        ((tr.flatMap moduleSteps).flatMap gprsSteps |>.flatMap tunnelsClosed : List ℤ) + r.1.gprs.tunnels ∧
      ∀ before a after, (tr.flatMap moduleSteps).flatMap gprsSteps = before ++ a :: after →
        ∀ iface ∈ tunnelsWritten a,
          (before.flatMap tunnelsClosed).count iface < (before.flatMap tunnelsOpened).count iface := by
  intro request r tr
  have hsetUp : RilStep (rilInit 1 (some ⟨.ready, true⟩)) (.request request ⟨3, by decide⟩, r.2) r.1 := rfl
  exact tunnels_accounted (.one hsetUp)

/-- **No two connections share a network device.** In every run of the telephony layer from its start with
a client, the connections have devices of different names, and `tun_alloc` is only called with a name that
no connection has. -/
theorem devices_distinct {bAutoAttach : UInt32} {state : RilClientState} {u : RilData}
    {tr : List (RilEvent × List SystemEffect)}
    (h : Run RilStep (rilInit bAutoAttach (some ⟨state, true⟩)) tr u) :
    (u.gprs.gprsConnections.map (·.ifname)).Nodup ∧
      ∀ before a after, (tr.flatMap moduleSteps).flatMap gprsSteps = before ++ a :: after →
        ∃ s, Run GprsStep .init before s ∧
          ∀ name ∈ tunnelNames a, ∀ c ∈ s.gprsConnections, c.ifname ≠ name := by
  have hnamed : ∀ {tr s}, Run GprsStep .init tr s → s.Named := fun hrun =>
    hrun.invariant GprsData.Named (fun _ _ _ hs hstep => (gprsStep_tunnels hstep).named hs)
      ⟨nofun, nofun, List.nodup_nil⟩
  have hgprs := rilRun_gprs h
  constructor
  · have hnodup := (hnamed hgprs).names_nodup
    rwa [List.map_map] at hnodup
  · intro before a after heq
    rw [heq] at hgprs
    obtain ⟨s, hbefore, hrest⟩ := Run.append_iff.mp hgprs
    obtain ⟨t, hstep, -⟩ := Run.cons_iff.mp hrest
    exact ⟨s, hbefore, fun name hname => (gprsStep_tunnels hstep).name_unused (hnamed hbefore) hname⟩

/-- Two data connections are set up, of which the first one has the tunnel 7. -/
theorem devices_distinct_two :
    let request (iface : ℤ) : RilRequest := .setupDataCall (some ⟨none, none, none, cString "IP"⟩) true iface
    let r := ofRil (rilOnRequest (rilInit 1 (some ⟨.ready, true⟩)) (request 7) 3)
    let r' := ofRil (rilOnRequest r.1 (request 8) 4)
    let tr : List (RilEvent × List SystemEffect) :=
      [(.request (request 7) ⟨3, by decide⟩, r.2), (.request (request 8) ⟨4, by decide⟩, r'.2)]
    (r'.1.gprs.gprsConnections.map (·.ifname)).Nodup ∧
      ∀ before a after, (tr.flatMap moduleSteps).flatMap gprsSteps = before ++ a :: after →
        ∃ s, Run GprsStep .init before s ∧
          ∀ name ∈ tunnelNames a, ∀ c ∈ s.gprsConnections, c.ifname ≠ name := by
  intro request r r' tr
  have hfirst : RilStep (rilInit 1 (some ⟨.ready, true⟩)) (.request (request 7) ⟨3, by decide⟩, r.2) r.1 :=
    rfl
  have hsecond : RilStep r.1 (.request (request 8) ⟨4, by decide⟩, r'.2) r'.1 := rfl
  exact devices_distinct (.cons hfirst (.one hsecond))

end Runs

end Mocha.Ril
