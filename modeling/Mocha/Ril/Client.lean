import Mocha.Lib.Run
import Mocha.Ril.Request

/-! The thread of a client (`client.c`): it restarts the read loop of its inner object up to five
times, and each time tries up to five times to destroy the object and to create it anew. -/
namespace Mocha.Ril
open Mocha.Lib

/-- The members of `struct ril_client_funcs`. -/
inductive ClientCallback
  | create
  | destroy
  | readLoop
deriving DecidableEq, Repr

/-- A call of a callback; `ok` says that its result is not negative. -/
structure CallbackResult where
  callback : ClientCallback
  ok : Bool
deriving DecidableEq

/-- The callback that is running, with the tries that its loop has left and the counter `c` of
`ril_client_thread`. -/
inductive ClientPosition
  | starting (tries : ℕ)
  | reading (c : ℕ)
  | destroying (c tries : ℕ)
  | creating (c tries : ℕ)
  | ending (tries : ℕ)
  | ended
deriving DecidableEq, Repr

def ClientPosition.callback : ClientPosition → Option ClientCallback
  | .starting _ => some .create
  | .reading _ => some .readLoop
  | .destroying _ _ => some .destroy
  | .creating _ _ => some .create
  | .ending _ => some .destroy
  | .ended => none

structure ClientThread where
  state : RilClientState
  position : ClientPosition
deriving DecidableEq

/-- `RIL_Init` creates the inner object before it starts the thread. -/
def ClientThread.init : ClientThread := ⟨.null, .starting 5⟩

/-- One try of a loop that ends with the state `success`, or with an error after the last try. -/
def clientTry (success : RilClientState) (tries : ℕ) (ok : Bool) (again : ℕ → ClientThread)
    (done : RilClientState → ClientThread) : ClientThread :=
  if ok then done success else if tries ≤ 1 then done .error else again (tries - 1)

def rilClientCreate := clientTry .created
def rilClientDestroy := clientTry .destroyed

/-- The head of the loop of `ril_client_thread`. -/
def rilClientThreadLoop (state : RilClientState) : ℕ → ClientThread
  | 0 => ⟨state, .ending 5⟩
  | c + 1 => ⟨.ready, .reading (c + 1)⟩

/-- What follows the result of the running callback. The results of `ril_client_destroy` and
`ril_client_create` are not looked at before the next round. The state stays as it is when the thread has
ended: `ril_client_free` frees the client then, though `ril_data` still points to it and
`ril_modem_check` reads the state. -/
def ClientThread.next (s : ClientThread) (ok : Bool) : ClientThread :=
  match s.position with
  | .starting tries => rilClientCreate tries ok (⟨s.state, .starting ·⟩) fun state =>
      if state = .error then ⟨state, .ended⟩ else rilClientThreadLoop state 5
  | .reading c => if ok then ⟨.created, .ending 5⟩ else ⟨.error, .destroying c 5⟩
  | .destroying c tries => rilClientDestroy tries ok (⟨s.state, .destroying c ·⟩) (⟨·, .creating c 5⟩)
  | .creating c tries => rilClientCreate tries ok (⟨s.state, .creating c ·⟩) (rilClientThreadLoop · (c - 1))
  | .ending tries => rilClientDestroy tries ok (⟨s.state, .ending ·⟩) (⟨·, .ended⟩)
  | .ended => s

def clientStep : Step ClientThread CallbackResult :=
  fun s a t => s.position.callback = some a.callback ∧ s.next a.ok = t

/-- Whether the inner object exists after these calls: the latest `create` has succeeded, and no
`destroy` since. -/
def innerExists (tr : List CallbackResult) : Bool :=
  tr.foldl (fun inner a => match a.callback with
    | .create => a.ok
    | .destroy => inner && !a.ok
    | .readLoop => inner) false

/-- A client that is ready has its inner object, and requests are accepted for no other. -/
structure ReadyExists (tr : List CallbackResult) (s : ClientThread) : Prop where
  ready : s.state = .ready → innerExists tr
  accepted : ∀ (d : RilData) (hasData : Bool), d.ipcPacketClient = some ⟨s.state, hasData⟩ →
    d.rilModemCheck = 0 → innerExists tr

/-- A restart uses up its tries to create the object only in the last round. -/
def Recreates (s : ClientThread) (a : CallbackResult) : Prop :=
  ∀ c tries, s.position = .creating c tries → a.ok = false → c ≤ 1 ∨ 1 < tries

/-- The client is ready just while its read loop runs, and then has its inner object. -/
structure ClientThread.Inv (tr : List CallbackResult) (s : ClientThread) : Prop where
  reading : s.state = .ready → ∃ c, s.position = .reading c
  exists_reading : ∀ c, s.position = .reading c → innerExists tr

section

variable {tr : List CallbackResult} {s t : ClientThread} {a : CallbackResult}

theorem innerExists_snoc (tr : List CallbackResult) (a : CallbackResult) :
    innerExists (tr ++ [a]) = match a.callback with
      | .create => a.ok
      | .destroy => innerExists tr && !a.ok
      | .readLoop => innerExists tr := by
  rw [innerExists, List.foldl_append]
  rfl

/-- The rule for a loop of tries: it goes on, or ends with its state. -/
theorem clientTry_rule {Q : ClientThread → Prop} {success : RilClientState} {tries : ℕ} {ok : Bool}
    {again : ℕ → ClientThread} {done : RilClientState → ClientThread}
    (hdone : ok = true → Q (done success)) (herror : ok = false → tries ≤ 1 → Q (done .error))
    (hagain : ok = false → Q (again (tries - 1))) : Q (clientTry success tries ok again done) := by
  unfold clientTry
  cases ok with
  | true => exact hdone rfl
  | false =>
    rw [if_neg Bool.false_ne_true]
    split_ifs with hlast
    · exact herror rfl hlast
    · exact hagain rfl

theorem ReadyExists.of_ready (h : s.state = .ready → innerExists tr) : ReadyExists tr s where
  ready := h
  accepted := by
    intro d hasData hclient hcheck
    apply h
    by_contra hstate
    have hrefused : d.rilModemCheck = -2 := by
      rw [RilData.rilModemCheck, hclient]
      exact if_pos hstate
    rw [hrefused] at hcheck
    exact absurd hcheck (by decide)

/-- What a step does about being ready. -/
structure ReadyStep (s : ClientThread) (ok : Bool) (t : ClientThread) : Prop where
  reading : t.state = .ready → ∃ c, t.position = .reading c
  created : ∀ c, t.position = .reading c → s.position.callback = some .create ∧
    (ok = true ∨ ∃ c tries, s.position = .creating c tries ∧ 1 < c ∧ tries ≤ 1)

theorem ReadyStep.idle {ok : Bool} {state : RilClientState} {position : ClientPosition}
    (hstate : state ≠ .ready) (hposition : ∀ c, position ≠ .reading c) :
    ReadyStep s ok ⟨state, position⟩ where
  reading := fun h => absurd h hstate
  created := fun c h => absurd h (hposition c)

theorem ReadyStep.loop {ok : Bool} {state : RilClientState} {c : ℕ} (hstate : state ≠ .ready)
    (hcreate : s.position.callback = some .create)
    (hcreated : 0 < c → ok = true ∨ ∃ c tries, s.position = .creating c tries ∧ 1 < c ∧ tries ≤ 1) :
    ReadyStep s ok (rilClientThreadLoop state c) := by
  cases c with
  | zero => exact .idle hstate (by rintro _ ⟨⟩)
  | succ c => exact ⟨fun _ => ⟨c + 1, rfl⟩, fun _ _ => ⟨hcreate, hcreated (Nat.succ_pos c)⟩⟩

/-- No try to destroy the object makes the client ready. -/
theorem ReadyStep.destroy {tries : ℕ} {ok : Bool} {again : ℕ → ClientPosition} {done : ClientPosition}
    (hstate : s.state ≠ .ready) (hagain : ∀ n c, again n ≠ .reading c)
    (hdone : ∀ c, done ≠ .reading c) :
    ReadyStep s ok (rilClientDestroy tries ok (⟨s.state, again ·⟩) (⟨·, done⟩)) := by
  refine clientTry_rule ?_ ?_ ?_
  · intro _
    exact .idle (by decide) hdone
  · intro _ _
    exact .idle (by decide) hdone
  · intro _
    exact .idle hstate (hagain _)

/-- The client is made ready after a call of `create`: one that has succeeded, or the last try of a
restart that is not the last one. -/
theorem next_readyStep (hs : s.state = .ready → ∃ c, s.position = .reading c) (ok : Bool) :
    ReadyStep s ok (s.next ok) := by
  have hidle : (∀ c, s.position ≠ .reading c) → s.state ≠ .ready := fun hne hready =>
    let ⟨c, hc⟩ := hs hready
    hne c hc
  unfold ClientThread.next
  cases hposition : s.position with
  | starting tries =>
    refine clientTry_rule ?_ ?_ ?_
    · intro hok
      change ReadyStep s ok (rilClientThreadLoop .created 5)
      exact .loop (by decide) (by rw [hposition]; rfl) fun _ => .inl hok
    · intro _ _
      exact .idle (by decide) (by rintro _ ⟨⟩)
    · intro _
      exact .idle (hidle (by rw [hposition]; rintro _ ⟨⟩)) (by rintro _ ⟨⟩)
  | reading c =>
    cases ok with
    | true => exact .idle (by decide) (by rintro _ ⟨⟩)
    | false => exact .idle (by decide) (by rintro _ ⟨⟩)
  | destroying c tries =>
    exact .destroy (hidle (by rw [hposition]; rintro _ ⟨⟩)) (by rintro _ _ ⟨⟩) (by rintro _ ⟨⟩)
  | creating c tries =>
    refine clientTry_rule ?_ ?_ ?_
    · intro hok
      exact .loop (by decide) (by rw [hposition]; rfl) fun _ => .inl hok
    · intro _ hlast
      refine .loop (by decide) (by rw [hposition]; rfl) fun hc => .inr ⟨c, tries, hposition, ?_⟩
      exact ⟨by omega, hlast⟩
    · intro _
      exact .idle (hidle (by rw [hposition]; rintro _ ⟨⟩)) (by rintro _ ⟨⟩)
  | ending tries =>
    exact .destroy (hidle (by rw [hposition]; rintro _ ⟨⟩)) (by rintro _ _ ⟨⟩) (by rintro _ ⟨⟩)
  | ended =>
    have hended : ∀ c, s.position ≠ .reading c := by
      rw [hposition]
      rintro _ ⟨⟩
    exact .idle (hidle hended) hended

/-- A restart that uses up its tries before the last round makes the client ready all the same. -/
theorem next_not_recreates (h : ¬Recreates s a) : a.ok = false ∧ s.position.callback = some .create ∧
    (s.next a.ok).state = .ready := by
  simp only [Recreates, not_forall, not_or, not_le, not_lt] at h
  obtain ⟨c, tries, hposition, hok, hc, htries⟩ := h
  refine ⟨hok, by rw [hposition]; rfl, ?_⟩
  obtain ⟨n, rfl⟩ : ∃ n, c = n + 2 := ⟨c - 2, by omega⟩
  rw [ClientThread.next, hposition, hok]
  change (clientTry _ _ _ _ _).state = _
  rw [clientTry, if_neg Bool.false_ne_true, if_pos htries]
  rfl

theorem ClientThread.Inv.step (hinv : s.Inv tr) (hC : Recreates s a) (hstep : clientStep s a t) :
    t.Inv (tr ++ [a]) := by
  obtain ⟨hcallback, rfl⟩ := hstep
  have hready := next_readyStep hinv.reading a.ok
  refine ⟨hready.reading, fun c hc => ?_⟩
  obtain ⟨hcreate, hok⟩ := hready.created c hc
  have hcreated : a.callback = .create := Option.some.inj (hcallback.symm.trans hcreate)
  rw [innerExists_snoc, hcreated]
  rcases hok with hok | ⟨c, tries, hposition, hc, htries⟩
  · exact hok
  · cases hok : a.ok with
    | true => rfl
    | false =>
      have hlast := hC c tries hposition hok
      omega

/-- **A client is ready only with its inner object** in all of a run exactly if, in that run, no
restart but the last one uses up its tries to create the object. -/
theorem readyExists_iff (tr : List CallbackResult) (t : ClientThread) :
    (Run clientStep .init tr t ∧
        ∀ tr₁ u, tr₁ <+: tr → Run clientStep .init tr₁ u → ReadyExists tr₁ u) ↔
      Run (clientStep.when Recreates) .init tr t := by
  refine Run.prefixes_iff (N := fun _ => True) (I := fun tr s => s.Inv tr) (P := ReadyExists) ?_
    (fun _ _ _ h => h)
    ⟨by rintro ⟨⟩, by rintro _ ⟨⟩⟩ ?_ ?_ ?_ trivial
  · intro s a t t' h h'
    exact h.2.symm.trans h'.2
  · intro tr u a v _ hinv hC hstep
    exact hinv.step hC hstep
  · intro tr u _ hinv
    refine .of_ready fun hready => ?_
    obtain ⟨c, hc⟩ := hinv.reading hready
    exact hinv.exists_reading c hc
  · intro tr u a v _ _ hstep hafter
    by_contra hC
    obtain ⟨hok, hcreate, hready⟩ := next_not_recreates hC
    obtain ⟨hcallback, rfl⟩ := hstep
    have hcreated : a.callback = .create := Option.some.inj (hcallback.symm.trans hcreate)
    have hexists := hafter.ready hready
    rw [innerExists_snoc, hcreated] at hexists
    exact Bool.false_ne_true (hok.symm.trans hexists)

/-- The object is destroyed after a failed read loop and cannot be created anew: the client is made
ready without it. -/
theorem not_readyExists_destroyed :
    ¬∀ (tr : List CallbackResult) (s : ClientThread),
      Run clientStep .init tr s → ReadyExists tr s := by
  intro h
  have hrun : Run clientStep .init ([⟨.create, true⟩, ⟨.readLoop, false⟩, ⟨.destroy, true⟩] ++
      List.replicate 5 ⟨.create, false⟩) ⟨.ready, .reading 4⟩ := by
    refine .cons ⟨rfl, rfl⟩ (.cons ⟨rfl, rfl⟩ (.cons ⟨rfl, rfl⟩ (.cons ⟨rfl, rfl⟩ ?_)))
    exact .cons ⟨rfl, rfl⟩ (.cons ⟨rfl, rfl⟩ (.cons ⟨rfl, rfl⟩ (.cons ⟨rfl, rfl⟩ .nil)))
  exact absurd ((h _ _ hrun).ready rfl) (by decide)

end

end Mocha.Ril
