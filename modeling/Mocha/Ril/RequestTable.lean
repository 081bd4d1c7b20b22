import Mathlib.Data.Fintype.EquivFin
import Mocha.Lib.Cells
import Mocha.Lib.Run
import Mocha.Ril.Token

/-! The table of requests and their ids (`mocha-ril.c`), which the handlers do not use. An id comes
from a counter that does not look at the ids in the table. Memory for an entry is taken to be there. -/
namespace Mocha.Ril
open Mocha.Lib

/-- `struct ril_request_info` -/
structure RilRequestInfo where
  token : RilToken
  id : ℕ
  canceled : Bool
deriving DecidableEq

/-- `ril_data.request_id` and `ril_data.requests`. -/
structure RequestTable where
  requestId : ℕ
  requests : List RilRequestInfo
deriving DecidableEq

def RequestTable.init : RequestTable := ⟨0, []⟩

def rilRequestIdGet (s : RequestTable) : RequestTable × ℕ :=
  let requestId := (s.requestId + 1) % 0xff
  ({ s with requestId := requestId }, requestId)

def rilRequestRegister (s : RequestTable) (t : RilToken) (id : ℕ) : RequestTable :=
  { s with requests := s.requests ++ [⟨t, id, false⟩] }

/-- `ril_request_unregister`, for the request at a place of the list. -/
def rilRequestUnregister (s : RequestTable) (i : ℕ) : RequestTable :=
  { s with requests := s.requests.eraseIdx i }

/-- `ril_request_info_find_id`, with the place in the list. -/
def rilRequestInfoFindId (s : RequestTable) (id : ℕ) : Option (ℕ × RilRequestInfo) :=
  findCell? (fun request => request.id = id) s.requests

/-- `ril_request_info_find_token`, with the place in the list. -/
def rilRequestInfoFindToken (s : RequestTable) (t : RilToken) : Option (ℕ × RilRequestInfo) :=
  findCell? (fun request => request.token = t) s.requests

def rilRequestSetCanceled (s : RequestTable) (t : RilToken) (canceled : ℤ) : RequestTable × ℤ :=
  match rilRequestInfoFindToken s t with
  | none => (s, -1)
  | some (i, request) =>
    ({ s with requests := s.requests.set i { request with canceled := canceled ≠ 0 } }, 0)

def rilRequestGetToken (s : RequestTable) (id : ℕ) : RilToken :=
  match rilRequestInfoFindId s id with
  | none => rilTokenNull
  | some (_, request) => request.token

def rilRequestGetId (s : RequestTable) (t : RilToken) : RequestTable × ℕ :=
  match rilRequestInfoFindToken s t with
  | some (_, request) => (s, request.id)
  | none =>
    let (s, id) := rilRequestIdGet s
    (rilRequestRegister s t id, id)

/-- `ril_request_complete`, with what it passes on to `OnRequestComplete`. -/
def rilRequestComplete {ρ : Type} (s : RequestTable) (c : Completion ρ) :
    RequestTable × List (Completion ρ) :=
  match rilRequestInfoFindToken s c.token with
  | none => (s, [c])
  | some (i, request) => (rilRequestUnregister s i, if request.canceled then [] else [c])

/-- Calls of the three functions. -/
inductive RequestTableCall (ρ : Type)
  | getId (t : RilToken)
  | setCanceled (t : RilToken) (canceled : ℤ)
  | complete (c : Completion ρ)
deriving DecidableEq

/-- What a call returns or reports. -/
inductive RequestTableResult (ρ : Type)
  | id (id : ℕ)
  | status (rc : ℤ)
  | onRequestComplete (c : Completion ρ)
deriving DecidableEq

def requestTableHandler {ρ : Type} (s : RequestTable) :
    RequestTableCall ρ → RequestTable × List (RequestTableResult ρ)
  | .getId t => ((rilRequestGetId s t).1, [.id (rilRequestGetId s t).2])
  | .setCanceled t canceled =>
    ((rilRequestSetCanceled s t canceled).1, [.status (rilRequestSetCanceled s t canceled).2])
  | .complete c => ((rilRequestComplete s c).1, (rilRequestComplete s c).2.map .onRequestComplete)

abbrev RequestTableStep (ρ : Type) :
    Step RequestTable (RequestTableCall ρ × List (RequestTableResult ρ)) :=
  Step.ofFun requestTableHandler

/-- Tokens that are registered at the same time have different ids, and from its id each token is
found again. -/
structure IdsIdentify (s : RequestTable) : Prop where
  distinct : ∀ r ∈ s.requests, ∀ r' ∈ s.requests, r.token ≠ r'.token → r.id ≠ r'.id
  found : ∀ t, rilRequestGetToken (rilRequestGetId s t).1 (rilRequestGetId s t).2 = t

/-- No request has the id that the `n`th call of `ril_request_id_get` from now on gives. -/
def RequestTable.IdFree (s : RequestTable) (n : ℕ) : Prop :=
  ∀ request ∈ s.requests, request.id ≠ (s.requestId + n) % 0xff

/-- A token that enters the table leaves the id that comes after its own free. -/
def LeavesNextIdFree {ρ : Type} (s : RequestTable)
    (a : RequestTableCall ρ × List (RequestTableResult ρ)) : Prop :=
  match a.1 with
  | .getId t => (∀ request ∈ s.requests, request.token ≠ t) → s.IdFree 2
  | _ => True

section

variable {ρ : Type} {s u : RequestTable} {t : RilToken} {id : ℕ}

theorem rilRequestInfoFindToken_eq_none :
    rilRequestInfoFindToken s t = none ↔ ∀ request ∈ s.requests, request.token ≠ t := by
  rw [rilRequestInfoFindToken, findCell?_eq_none]
  simp

theorem rilRequestGetId_new (h : ∀ request ∈ s.requests, request.token ≠ t) :
    rilRequestGetId s t = (rilRequestRegister ⟨(s.requestId + 1) % 0xff, s.requests⟩ t
      ((s.requestId + 1) % 0xff), (s.requestId + 1) % 0xff) := by
  rw [rilRequestGetId, rilRequestInfoFindToken_eq_none.mpr h]
  rfl

/-- A token that is registered has the id of its request, and nothing changes. -/
theorem rilRequestGetId_old (h : ¬∀ request ∈ s.requests, request.token ≠ t) :
    (rilRequestGetId s t).1 = s ∧
      ∃ request ∈ s.requests, request.token = t ∧ (rilRequestGetId s t).2 = request.id := by
  cases hfind : rilRequestInfoFindToken s t with
  | none => exact absurd (rilRequestInfoFindToken_eq_none.mp hfind) h
  | some p =>
    obtain ⟨i, request⟩ := p
    obtain ⟨left, right, hfirst, -⟩ := findCell?_eq_some hfind
    rw [rilRequestGetId, hfind]
    exact ⟨rfl, request, hfirst.mem, of_decide_eq_true hfirst.test, rfl⟩

theorem rilRequestGetToken_eq : rilRequestGetToken s id =
    ((s.requests.find? fun request => request.id = id).map (·.token)).getD rilTokenNull := by
  unfold rilRequestGetToken rilRequestInfoFindId
  rw [← findCell?_snd]
  cases findCell? _ s.requests <;> rfl

/-- The token of an id that only requests with this token have. -/
theorem rilRequestGetToken_of_unique {request : RilRequestInfo} (hmem : request ∈ s.requests)
    (hunique : ∀ r ∈ s.requests, r.id = request.id → r.token = request.token) :
    rilRequestGetToken s request.id = request.token := by
  rw [rilRequestGetToken_eq]
  cases hfind : s.requests.find? fun r => r.id = request.id with
  | none => exact absurd (decide_eq_true rfl) (List.find?_eq_none.mp hfind request hmem)
  | some found =>
    have hid := List.find?_some hfind
    exact hunique found (List.mem_of_find?_eq_some hfind) (of_decide_eq_true hid)

/-- The table identifies its tokens exactly if their ids are different and the next one is free. -/
theorem idsIdentify_iff : IdsIdentify s ↔
    (∀ r ∈ s.requests, ∀ r' ∈ s.requests, r.token ≠ r'.token → r.id ≠ r'.id) ∧ s.IdFree 1 := by
  constructor
  · rintro ⟨hdistinct, hfound⟩
    refine ⟨hdistinct, fun request hmem hid => ?_⟩
    obtain ⟨t, ht⟩ := Infinite.exists_notMem_finset (s.requests.map (·.token)).toFinset
    rw [List.mem_toFinset] at ht
    have hnew : ∀ r ∈ s.requests, r.token ≠ t :=
      fun r hr htoken => ht (List.mem_map.mpr ⟨r, hr, htoken⟩)
    -- an earlier request with the id stands in front of the new one
    have htoken := hfound t
    rw [rilRequestGetId_new hnew, rilRequestGetToken_eq] at htoken
    change ((List.find? _ (s.requests ++ [_])).map (·.token)).getD _ = t at htoken
    rw [List.find?_append] at htoken
    cases hfind : s.requests.find? fun request => request.id = (s.requestId + 1) % 0xff with
    | none => exact absurd (decide_eq_true hid) (List.find?_eq_none.mp hfind request hmem)
    | some found =>
      rw [hfind] at htoken
      exact hnew found (List.mem_of_find?_eq_some hfind) htoken
  · rintro ⟨hdistinct, hfree⟩
    refine ⟨hdistinct, fun t => ?_⟩
    by_cases hnew : ∀ r ∈ s.requests, r.token ≠ t
    · rw [rilRequestGetId_new hnew]
      have hentered : (⟨t, (s.requestId + 1) % 0xff, false⟩ : RilRequestInfo) ∈ RequestTable.requests
          ⟨(s.requestId + 1) % 0xff, s.requests ++ [⟨t, (s.requestId + 1) % 0xff, false⟩]⟩ :=
        List.mem_append_right _ List.mem_cons_self
      refine rilRequestGetToken_of_unique hentered fun r hr hid => ?_
      rcases List.mem_append.mp hr with hr | hr
      · exact absurd hid (hfree r hr)
      · exact congrArg RilRequestInfo.token (List.mem_singleton.mp hr)
    · obtain ⟨hsame, request, hmem, rfl, hid⟩ := rilRequestGetId_old hnew
      rw [hsame, hid]
      refine rilRequestGetToken_of_unique hmem fun r hr hrid => ?_
      by_contra htoken
      exact hdistinct r hr request hmem htoken hrid

/-- Calls that take no id and enter no token keep this up. -/
theorem IdsIdentify.of_subset (h : IdsIdentify s) (hcounter : u.requestId = s.requestId)
    (hsub : ∀ r ∈ u.requests, ∃ r' ∈ s.requests, r'.token = r.token ∧ r'.id = r.id) :
    IdsIdentify u := by
  obtain ⟨hdistinct, hfree⟩ := idsIdentify_iff.mp h
  refine idsIdentify_iff.mpr ⟨fun r₁ hr₁ r₂ hr₂ => ?_, fun r hr => ?_⟩
  · obtain ⟨r₁', hr₁', htoken₁, hid₁⟩ := hsub r₁ hr₁
    obtain ⟨r₂', hr₂', htoken₂, hid₂⟩ := hsub r₂ hr₂
    rw [← htoken₁, ← htoken₂, ← hid₁, ← hid₂]
    exact hdistinct r₁' hr₁' r₂' hr₂'
  · obtain ⟨r', hr', -, hid⟩ := hsub r hr
    rw [← hid, hcounter]
    exact hfree r' hr'

theorem rilRequestSetCanceled_identify (h : IdsIdentify s) (t : RilToken) (canceled : ℤ) :
    IdsIdentify (rilRequestSetCanceled s t canceled).1 := by
  unfold rilRequestSetCanceled
  split
  · exact h
  · next i request hfind =>
    obtain ⟨left, right, hfirst, rfl⟩ := findCell?_eq_some hfind
    refine h.of_subset rfl fun r hr => ?_
    rw [hfirst.eq, set_split] at hr
    rcases hfirst.mem_replaced hr with rfl | hr
    · exact ⟨request, hfirst.mem, rfl, rfl⟩
    · exact ⟨r, hr, rfl, rfl⟩

theorem rilRequestComplete_identify (h : IdsIdentify s) (c : Completion ρ) :
    IdsIdentify (rilRequestComplete s c).1 := by
  unfold rilRequestComplete
  split
  · exact h
  · next i request hfind =>
    obtain ⟨left, right, hfirst, rfl⟩ := findCell?_eq_some hfind
    refine h.of_subset rfl fun r hr => ?_
    rw [rilRequestUnregister, hfirst.eq, eraseIdx_split] at hr
    exact ⟨r, hfirst.removed_sublist.subset hr, rfl, rfl⟩

/-- A token that enters the table takes the id that was free, so that the one behind it counts. -/
theorem rilRequestGetId_identify_iff (h : IdsIdentify s)
    (hnew : ∀ request ∈ s.requests, request.token ≠ t) :
    IdsIdentify (rilRequestGetId s t).1 ↔ s.IdFree 2 := by
  obtain ⟨hdistinct, hfree⟩ := idsIdentify_iff.mp h
  have hcounter : ((s.requestId + 1) % 0xff + 1) % 0xff = (s.requestId + 2) % 0xff := by omega
  rw [rilRequestGetId_new hnew, idsIdentify_iff]
  constructor
  · rintro ⟨-, hnext⟩ r hr
    rw [← hcounter]
    exact hnext r (List.mem_append_left _ hr)
  · intro hnext
    refine ⟨fun r₁ hr₁ r₂ hr₂ htoken => ?_, fun r hr => ?_⟩
    · rcases List.mem_append.mp hr₁ with hr₁ | hr₁ <;> rcases List.mem_append.mp hr₂ with hr₂ | hr₂
      · exact hdistinct r₁ hr₁ r₂ hr₂ htoken
      · rw [List.mem_singleton.mp hr₂]
        exact hfree r₁ hr₁
      · rw [List.mem_singleton.mp hr₁]
        exact (hfree r₂ hr₂).symm
      · rw [List.mem_singleton.mp hr₁, List.mem_singleton.mp hr₂] at htoken
        exact absurd rfl htoken
    · change r.id ≠ ((s.requestId + 1) % 0xff + 1) % 0xff
      rcases List.mem_append.mp hr with hr | hr
      · rw [hcounter]
        exact hnext r hr
      · rw [List.mem_singleton.mp hr]
        dsimp only
        omega

theorem requestTableStep_identify {a : RequestTableCall ρ × List (RequestTableResult ρ)}
    (h : IdsIdentify s) (hstep : RequestTableStep ρ s a u) :
    IdsIdentify u ↔ LeavesNextIdFree s a := by
  obtain ⟨call, out⟩ := a
  obtain rfl : (requestTableHandler s call).1 = u := congrArg Prod.fst hstep
  cases call with
  | getId t =>
    by_cases hnew : ∀ request ∈ s.requests, request.token ≠ t
    · exact (rilRequestGetId_identify_iff h hnew).trans ⟨fun hfree _ => hfree, fun hfree => hfree hnew⟩
    · refine iff_of_true ?_ fun hnew' => absurd hnew' hnew
      change IdsIdentify (rilRequestGetId s t).1
      rw [(rilRequestGetId_old hnew).1]
      exact h
  | setCanceled t canceled => exact iff_of_true (rilRequestSetCanceled_identify h t canceled) trivial
  | complete c => exact iff_of_true (rilRequestComplete_identify h c) trivial

/-- **The table identifies its tokens** in all of a run exactly if, in that run, no token enters it
while another request has the id that comes after its own. -/
theorem idsIdentify_run_iff (tr : List (RequestTableCall ρ × List (RequestTableResult ρ))) :
    (Run (RequestTableStep ρ) .init tr u ∧
        ∀ tr₁ v, tr₁ <+: tr → Run (RequestTableStep ρ) .init tr₁ v → IdsIdentify v) ↔
      Run ((RequestTableStep ρ).when LeavesNextIdFree) .init tr u := by
  refine Run.prefixes_iff (N := fun _ => True) (I := fun _ s => IdsIdentify s)
    (P := fun _ s => IdsIdentify s) (fun _ _ _ _ h h' => Step.ofFun_deterministic h h')
    (fun _ _ _ h => h) ?_ ?_ (fun _ _ _ h => h) ?_ trivial
  · refine idsIdentify_iff.mpr ⟨fun r hr => ?_, fun r hr => ?_⟩
    · exact absurd hr List.not_mem_nil
    · exact absurd hr List.not_mem_nil
  · intro tr u a v _ h hfree hstep
    exact (requestTableStep_identify h hstep).mpr hfree
  · intro tr u a v _ h hstep hafter
    exact (requestTableStep_identify h hstep).mp hafter

/-- The token 1 stays registered while 254 others come and go, and a last one gets its id. -/
def wrappingCalls : List (RequestTableCall Unit) :=
  .getId 1 :: ((List.range 254).flatMap fun n => [.getId (n + 2), .complete ⟨n + 2, .success, none⟩]) ++
    [.getId 256]

theorem not_idsIdentify_wrapped :
    ¬∀ (tr : List (RequestTableCall Unit × List (RequestTableResult Unit))) (s : RequestTable),
      Run (RequestTableStep Unit) .init tr s → IdsIdentify s := by
  intro h
  have hidentify := h _ _ (Run.exec requestTableHandler .init wrappingCalls)
  have htable : (exec requestTableHandler .init wrappingCalls).2.requests =
      [⟨1, 1, false⟩, ⟨256, 1, false⟩] := by decide +kernel
  have hdistinct := hidentify.distinct
  rw [htable] at hdistinct
  exact hdistinct _ List.mem_cons_self _ (List.mem_cons_of_mem _ List.mem_cons_self) (by decide) rfl

end

end Mocha.Ril
