import Mocha.Ril.ListHead

/-! Runs of the calls that register and unregister entries, of all queues in one memory. Every queue
stays a doubly linked list of what is registered, as long as a connection is not unregistered that is
not in its queue: its record is freed before it is looked for. -/
namespace Mocha.Ril.ListHead
open Mocha.Lib

inductive ListCall (ρ : Type)
  | register (q : ListQueue) (r : ρ) (entry list : Address)
  | unregister (q : ListQueue) (entry : Option Address)

section Calls

variable {ρ : Type}

def ListCall.exec (fuel : ℕ) : ListCall ρ → ListMemory ρ → Option (ListMemory ρ)
  | .register .requests r entry list => rilRequestRegister fuel r entry list
  | .register .outgoingSms r entry list => rilRequestSendSmsRegister fuel r entry list
  | .register .simIo r entry list => rilRequestSimIoRegister fuel r entry list
  | .register .clients r entry list => srsClientRegister fuel r entry list
  | .register .gprsConnections r entry list => rilGprsConnectionRegister fuel r entry list
  | .unregister .requests entry => rilRequestUnregister fuel entry
  | .unregister .outgoingSms entry => rilRequestSendSmsUnregister fuel entry
  | .unregister .simIo entry => rilRequestSimIoUnregister fuel entry
  | .unregister .clients entry => srsClientUnregister fuel entry
  | .unregister .gprsConnections entry => rilGprsConnectionUnregister fuel entry

/-- The call comes back, without an access to what is not allocated. -/
def ListCall.Returns (a : ListCall ρ) (s t : ListMemory ρ) : Prop :=
  ∃ n, ∀ fuel, n ≤ fuel → a.exec fuel s = some t

/-- `calloc` returns what is not in use. -/
def ListCall.Fresh (s : ListMemory ρ) : ListCall ρ → Prop
  | .register _ _ entry list => s.entries entry = none ∧ s.lists list = none
  | .unregister _ _ => True

/-- What is registered after a call, in the order of registration. -/
def ListCall.registered : ListCall ρ → (ListQueue → List Address) → ListQueue → List Address
  | .register q _ entry _, registered => Function.update registered q (registered q ++ [entry])
  | .unregister q (some entry), registered =>
    Function.update registered q ((registered q).erase entry)
  | .unregister _ none, registered => registered

/-- There is nothing for the call to unregister. -/
def ListCall.Absent (registered : ListQueue → List Address) : ListCall ρ → Prop
  | .register _ _ _ _ => False
  | .unregister q entry => ∀ e ∈ entry, e ∉ registered q

/-- The memory, together with what is registered. -/
structure ListSystem (ρ : Type) where
  memory : ListMemory ρ
  registered : ListQueue → List Address

def ListSystem.init : ListSystem ρ := ⟨.init, fun _ => []⟩

def listStep : Step (ListSystem ρ) (ListCall ρ) := fun s a t =>
  a.Fresh s.memory ∧ a.Returns s.memory t.memory ∧ t.registered = a.registered s.registered

/-- The queue is visited as it should be, and holds what is registered. -/
def ListSystem.Law (s : ListSystem ρ) (q : ListQueue) : Prop :=
  ∃ cells, Visits s.memory.lists (s.memory.heads q) cells ∧
    cells.map Prod.snd = (s.registered q).map some ∧ (s.registered q).Nodup

/-- The call comes back, the queues are as they should be, and nothing has changed if there was nothing
to unregister. -/
def Behaves (s : ListSystem ρ) (a : ListCall ρ) : Prop :=
  ∃ t, a.Returns s.memory t ∧ (∀ q, ListSystem.Law ⟨t, a.registered s.registered⟩ q) ∧
    (a.Absent s.registered → t = s.memory)

/-- A connection is unregistered only if it is registered. -/
def Regular (s : ListSystem ρ) (a : ListCall ρ) : Prop :=
  ∀ e, a = .unregister .gprsConnections (some e) → e ∈ s.registered .gprsConnections

end Calls

section Invariant

variable {ρ : Type} {s : ListSystem ρ} {a : ListCall ρ} {cells : ListQueue → List (Address × Address)}

/-- The queues hold what is registered, and share neither nodes nor entries. -/
structure Queues (s : ListSystem ρ) (cells : ListQueue → List (Address × Address)) : Prop where
  holds : ∀ q, Holds s.memory q (cells q)
  registered : ∀ q, (cells q).map Prod.snd = s.registered q
  nodes_apart : ∀ p q, p ≠ q → ∀ l ∈ (cells p).map Prod.fst, l ∉ (cells q).map Prod.fst
  entries_apart : ∀ p q, p ≠ q → ∀ e ∈ s.registered p, e ∉ s.registered q
  live : ∀ q, ∀ e ∈ s.registered q, (s.memory.entries e).isSome

theorem queues_init : Queues (.init : ListSystem ρ) fun _ => [] where
  holds _ := ⟨rfl, trivial, .nil, .nil⟩
  registered _ := rfl
  nodes_apart _ _ _ _ hl := nomatch hl
  entries_apart _ _ _ _ he := nomatch he
  live _ _ he := nomatch he

theorem Queues.law (h : Queues s cells) (q : ListQueue) : s.Law q := by
  have hholds := h.holds q
  refine ⟨(cells q).map entryCell, ?_, ?_, h.registered q ▸ hholds.entries_nodup⟩
  · rw [hholds.head]
    exact hholds.linked.visits (map_entryCell_fst ▸ hholds.nodes_nodup)
  · rw [map_entryCell_snd, h.registered]

/-- Lists that share nothing, after a change of one of them. -/
theorem apart_update {ι α : Type*} [DecidableEq ι] {f : ι → List α} {q : ι} {xs : List α}
    (h : ∀ p p', p ≠ p' → ∀ x ∈ f p, x ∉ f p') (hxs : ∀ p, p ≠ q → ∀ x ∈ f p, x ∉ xs) (p p' : ι)
    (hne : p ≠ p') : ∀ x ∈ Function.update f q xs p, x ∉ Function.update f q xs p' := by
  intro x hx
  rcases eq_or_ne p q with rfl | hp
  · rw [Function.update_self] at hx
    rw [Function.update_of_ne hne.symm]
    exact fun hx' => hxs p' hne.symm x hx' hx
  · rw [Function.update_of_ne hp] at hx
    rcases eq_or_ne p' q with rfl | hp'
    · rw [Function.update_self]
      exact hxs p hp x hx
    · rw [Function.update_of_ne hp']
      exact h p p' hne x hx

/-- One queue changes and the others are left alone. -/
theorem Queues.update (h : Queues s cells) {q : ListQueue} {t : ListMemory ρ}
    {cs : List (Address × Address)} (hq : Holds t q cs) (hheads : ∀ p, p ≠ q → t.heads p = s.memory.heads p)
    (hlists : ∀ p, p ≠ q → ∀ l ∈ (cells p).map Prod.fst, t.lists l = s.memory.lists l)
    (hnodes : ∀ p, p ≠ q → ∀ l ∈ (cells p).map Prod.fst, l ∉ cs.map Prod.fst)
    (hentries : ∀ p, p ≠ q → ∀ e ∈ s.registered p, e ∉ cs.map Prod.snd)
    (hlive : ∀ e ∈ cs.map Prod.snd, (t.entries e).isSome)
    (hkept : ∀ p, p ≠ q → ∀ e ∈ s.registered p, (t.entries e).isSome) :
    Queues ⟨t, Function.update s.registered q (cs.map Prod.snd)⟩ (Function.update cells q cs) where
  holds p := by
    rcases eq_or_ne p q with rfl | hp
    · rwa [Function.update_self]
    · rw [Function.update_of_ne hp]
      exact (h.holds p).congr (hheads p hp) (hlists p hp)
  registered p := by
    dsimp only
    rcases eq_or_ne p q with rfl | hp
    · rw [Function.update_self, Function.update_self]
    · rw [Function.update_of_ne hp, Function.update_of_ne hp, h.registered]
  nodes_apart := by
    intro p p' hne
    have hmap : ∀ p, (Function.update cells q cs p).map Prod.fst =
        Function.update (fun p => (cells p).map Prod.fst) q (cs.map Prod.fst) p :=
      Function.apply_update (fun _ l => l.map Prod.fst) cells q cs
    rw [hmap p, hmap p']
    exact apart_update (f := fun p => (cells p).map Prod.fst) h.nodes_apart hnodes p p' hne
  entries_apart := apart_update h.entries_apart hentries
  live p e he := by
    dsimp only at he ⊢
    rcases eq_or_ne p q with rfl | hp
    · rw [Function.update_self] at he
      exact hlive e he
    · rw [Function.update_of_ne hp] at he
      exact hkept p hp e he

theorem Queues.mem_snd (h : Queues s cells) {q : ListQueue} {e : Address} :
    e ∈ (cells q).map Prod.snd ↔ e ∈ s.registered q := by rw [h.registered]

/-- A new entry, with a new node. -/
theorem Queues.register (h : Queues s cells) (q : ListQueue) (r : ρ) {entry list : Address}
    (hentry : s.memory.entries entry = none) (hlist : s.memory.lists list = none) : ∃ t,
      (∀ fuel, (cells q).length < fuel → ListHead.register q fuel r entry list s.memory = some t) ∧
        Queues ⟨t, Function.update s.registered q (s.registered q ++ [entry])⟩
          (Function.update cells q (cells q ++ [(list, entry)])) := by
  have hnew : ∀ p, entry ∉ s.registered p := by
    intro p he
    exact Option.not_isSome_iff_eq_none.mpr hentry (h.live p entry he)
  have hnewNode : ∀ p, list ∉ (cells p).map Prod.fst := by
    intro p hl
    exact Option.not_isSome_iff_eq_none.mpr hlist ((h.holds p).isSome hl)
  obtain ⟨t, hregister, hholds, hentries, hheads, hlists⟩ :=
    (h.holds q).register r hlist fun he => hnew q (h.mem_snd.mp he)
  have hsnd : (cells q ++ [(list, entry)]).map Prod.snd = s.registered q ++ [entry] := by
    rw [List.map_append, h.registered]
    rfl
  refine ⟨t, hregister, ?_⟩
  rw [← hsnd]
  refine h.update hholds hheads ?_ ?_ ?_ ?_ ?_
  · intro p hp l hl
    refine hlists l ((h.holds p).isSome hl) ?_
    exact h.nodes_apart p q hp l hl
  · intro p hp l hl
    rw [List.map_append, List.mem_append, not_or]
    refine ⟨h.nodes_apart p q hp l hl, fun hl' => ?_⟩
    obtain rfl := List.mem_singleton.mp hl'
    exact hnewNode p hl
  · intro p hp e he
    rw [hsnd, List.mem_append, not_or]
    refine ⟨h.entries_apart p q hp e he, fun he' => ?_⟩
    obtain rfl := List.mem_singleton.mp he'
    exact hnew p he
  · intro e he
    rw [hsnd, List.mem_append, List.mem_singleton] at he
    rw [hentries]
    rcases he with he | rfl
    · rw [Function.update_of_ne (ne_of_mem_of_not_mem he (hnew q))]
      exact h.live q e he
    · rw [Function.update_self]
      rfl
  · intro p hp e he
    rw [hentries, Function.update_of_ne (ne_of_mem_of_not_mem he (hnew p))]
    exact h.live p e he

/-- An entry leaves its queue, and its record is freed. -/
theorem Queues.unlink (h : Queues s cells) {q : ListQueue} {entry list : Address}
    {xs ys : List (Address × Address)} (hcells : cells q = xs ++ (list, entry) :: ys)
    {t : ListMemory ρ} (hholds : Holds t q (xs ++ ys))
    (hentries : t.entries = Function.update s.memory.entries entry none)
    (hheads : ∀ p, p ≠ q → t.heads p = s.memory.heads p)
    (hlists : ∀ l ∉ (cells q).map Prod.fst, t.lists l = s.memory.lists l) :
    Queues ⟨t, Function.update s.registered q ((s.registered q).erase entry)⟩
      (Function.update cells q (xs ++ ys)) := by
  have hperm : (cells q).Perm ((list, entry) :: (xs ++ ys)) := hcells ▸ List.perm_middle
  have hregistered : s.registered q = xs.map Prod.snd ++ entry :: ys.map Prod.snd := by
    rw [← h.registered, hcells, List.map_append]
    rfl
  have hnodup : (s.registered q).Nodup := h.registered q ▸ (h.holds q).entries_nodup
  have hsnd : (xs ++ ys).map Prod.snd = (s.registered q).erase entry := by
    rw [hregistered, erase_middle (hregistered ▸ hnodup), List.map_append]
  rw [← hsnd]
  refine h.update hholds hheads ?_ ?_ ?_ ?_ ?_
  · exact fun p hp l hl => hlists l (h.nodes_apart p q hp l hl)
  · intro p hp l hl hl'
    refine h.nodes_apart p q hp l hl ((hperm.map Prod.fst).mem_iff.mpr ?_)
    exact List.mem_cons_of_mem _ hl'
  · intro p hp e he he'
    rw [hsnd] at he'
    exact h.entries_apart p q hp e he (List.mem_of_mem_erase he')
  · intro e he
    rw [hsnd, hnodup.mem_erase_iff] at he
    rw [hentries, Function.update_of_ne he.1]
    exact h.live q e he.2
  · intro p hp e he
    have hentry : entry ∈ s.registered q := hregistered ▸ List.mem_append_right _ List.mem_cons_self
    have hne : e ≠ entry := by
      rintro rfl
      exact h.entries_apart p q hp e he hentry
    rw [hentries, Function.update_of_ne hne]
    exact h.live p e he

/-- An entry is unregistered, from whatever place it has in the queue. -/
theorem Queues.unregister (h : Queues s cells) {q : ListQueue} {entry : Address}
    (hentry : entry ∈ s.registered q) : ∃ t cells',
      ListCall.Returns (.unregister q (some entry)) s.memory t ∧
        Queues ⟨t, Function.update s.registered q ((s.registered q).erase entry)⟩ cells' := by
  obtain ⟨⟨list, entry⟩, hmem, rfl⟩ := List.mem_map.mp (h.mem_snd.mpr hentry)
  obtain ⟨xs, ys, hcells⟩ := List.append_of_mem hmem
  have hholds : Holds s.memory q (xs ++ (list, entry) :: ys) := hcells ▸ h.holds q
  have hlive := h.live q entry hentry
  have hspec : ∃ t, (∀ fuel, (xs ++ (list, entry) :: ys).length < fuel →
        ListCall.exec fuel (.unregister q (some entry)) s.memory = some t) ∧
      Holds t q (xs ++ ys) ∧ t.entries = Function.update s.memory.entries entry none ∧
        (∀ p, p ≠ q → t.heads p = s.memory.heads p) ∧
          ∀ l ∉ (xs ++ (list, entry) :: ys).map Prod.fst, t.lists l = s.memory.lists l := by
    cases q with
    | gprsConnections => exact hholds.rilGprsConnectionUnregister hlive
    | _ => exact hholds.unregister hlive
  obtain ⟨t, ht, hleft, hentries, hheads, hlists⟩ := hspec
  exact ⟨t, _, ⟨_, ht⟩, h.unlink hcells hleft hentries hheads (hcells ▸ hlists)⟩

/-- Nothing happens to an entry that is not registered, unless it is a connection. -/
theorem Queues.returns_absent (h : Queues s cells) {q : ListQueue} {entry : Address}
    (hentry : entry ∉ s.registered q) (hq : q ≠ .gprsConnections) :
    ListCall.Returns (.unregister q (some entry)) s.memory s.memory := by
  have habsent : entry ∉ (cells q).map Prod.snd := fun he => hentry (h.mem_snd.mp he)
  refine ⟨(cells q).length + 1, fun fuel hfuel => ?_⟩
  cases q with
  | gprsConnections => exact absurd rfl hq
  | _ => exact (h.holds _).unlinkEntry_absent hfuel habsent _

/-- Where the condition is met a call does what it should. -/
theorem Queues.step (h : Queues s cells) (hfresh : a.Fresh s.memory) (hregular : Regular s a) :
    ∃ t cells', a.Returns s.memory t ∧ Queues ⟨t, a.registered s.registered⟩ cells' ∧
      (a.Absent s.registered → t = s.memory) := by
  cases a with
  | register q r entry list =>
    obtain ⟨t, ht, hqueues⟩ := h.register q r hfresh.1 hfresh.2
    refine ⟨t, _, ⟨(cells q).length + 1, fun fuel hfuel => ?_⟩, hqueues, fun hno => hno.elim⟩
    cases q with
    | _ => exact ht fuel hfuel
  | unregister q entry =>
    cases entry with
    | none =>
      refine ⟨s.memory, cells, ⟨0, fun fuel _ => ?_⟩, h, fun _ => rfl⟩
      cases q with
      | _ => rfl
    | some entry =>
      by_cases hentry : entry ∈ s.registered q
      · obtain ⟨t, cells', ht, hqueues⟩ := h.unregister hentry
        exact ⟨t, cells', ht, hqueues, fun habsent => absurd hentry (habsent entry rfl)⟩
      · have hq : q ≠ .gprsConnections := by
          rintro rfl
          exact hentry (hregular entry rfl)
        have hsame : ListCall.registered (.unregister q (some entry) : ListCall ρ) s.registered =
            s.registered := by
          rw [ListCall.registered, List.erase_of_not_mem hentry, Function.update_eq_self]
        refine ⟨s.memory, cells, h.returns_absent hentry hq, ?_, fun _ => rfl⟩
        rwa [hsame]

theorem Queues.listStep (h : Queues s cells) (hfresh : a.Fresh s.memory) (hregular : Regular s a) :
    ∃ t cells', listStep.when Regular s a t ∧ Queues t cells' := by
  obtain ⟨t, cells', ht, hqueues, -⟩ := h.step hfresh hregular
  exact ⟨⟨t, a.registered s.registered⟩, cells', ⟨hregular, hfresh, ht, rfl⟩, hqueues⟩

theorem ListCall.Returns.unique {s t t' : ListMemory ρ} (h : a.Returns s t) (h' : a.Returns s t') :
    t = t' := by
  obtain ⟨n, hn⟩ := h
  obtain ⟨m, hm⟩ := h'
  have heq := (hn (max n m) (le_max_left n m)).symm.trans (hm (max n m) (le_max_right n m))
  exact Option.some.inj heq

/-- A connection that is not registered is not unregistered without a change. -/
theorem Queues.regular_of_behaves (h : Queues s cells) (hbehaves : Behaves s a) : Regular s a := by
  rintro entry rfl
  obtain ⟨t, ⟨n, hn⟩, -, habsent⟩ := hbehaves
  by_contra hentry
  have hno : entry ∉ (cells .gprsConnections).map Prod.snd := fun he => hentry (h.mem_snd.mp he)
  have hcall := hn (max n ((cells .gprsConnections).length + 1)) (le_max_left _ _)
  rw [habsent fun e he => Option.some.inj he ▸ hentry, ListCall.exec,
    rilGprsConnectionUnregister] at hcall
  by_cases hlive : (s.memory.entries entry).isSome
  · -- the record is freed, and the search does not find it
    have hfreed : Holds { s.memory with entries := Function.update s.memory.entries entry none }
      .gprsConnections (cells .gprsConnections) := (h.holds _).congr rfl fun _ _ => rfl
    rw [freeEntry_eq hlive, Option.bind_some,
      hfreed.unlinkEntry_absent (Nat.lt_of_succ_le (le_max_right _ _)) hno] at hcall
    have hsame : Function.update s.memory.entries entry none = s.memory.entries :=
      congrArg ListMemory.entries (Option.some.inj hcall)
    rw [← hsame, Function.update_self] at hlive
    exact Bool.false_ne_true hlive
  · rw [freeEntry, if_neg hlive] at hcall
    exact Option.some_ne_none _ hcall.symm

end Invariant

/-- **The queues** hold what is registered after any calls that meet the condition, and the next call
does what it should exactly if it meets the condition too. -/
theorem behaves_iff {ρ : Type} {tr : List (ListCall ρ)} {s : ListSystem ρ}
    (hrun : Run (listStep.when Regular) .init tr s) :
    (∀ q, s.Law q) ∧ ∀ a, a.Fresh s.memory → (Behaves s a ↔ Regular s a) := by
  have hinv : ∃ cells, Queues s cells := by
    refine hrun.invariant (fun s => ∃ cells, Queues s cells) ?_ ⟨_, queues_init⟩
    rintro s a t ⟨cells, h⟩ ⟨hregular, hfresh, hreturns, hregistered⟩
    obtain ⟨t', cells', ht', hqueues, -⟩ := h.step hfresh hregular
    obtain rfl := hreturns.unique ht'
    rw [← hregistered] at hqueues
    exact ⟨cells', hqueues⟩
  obtain ⟨cells, h⟩ := hinv
  refine ⟨h.law, fun a hfresh => ⟨h.regular_of_behaves, fun hregular => ?_⟩⟩
  obtain ⟨t, cells', ht, hqueues, habsent⟩ := h.step hfresh hregular
  exact ⟨t, ht, hqueues.law, habsent⟩

/-- A connection that is registered is unregistered. -/
theorem behaves_registered : ∃ s : ListSystem Unit,
    Run (listStep.when Regular) .init [.register .gprsConnections () 1 1] s ∧
      (∀ q, s.Law q) ∧ Behaves s (.unregister .gprsConnections (some 1)) := by
  obtain ⟨s, cells, hstep, -⟩ :=
    (queues_init (ρ := Unit)).listStep (a := .register .gprsConnections () 1 1) ⟨rfl, rfl⟩ nofun
  have hrun := Run.one hstep
  obtain ⟨hlaw, hbehaves⟩ := behaves_iff hrun
  refine ⟨s, hrun, hlaw, (hbehaves (.unregister .gprsConnections (some 1)) trivial).mpr ?_⟩
  rintro e ⟨⟩
  rw [hstep.2.2.2]
  exact List.mem_singleton_self 1

/-- A connection is unregistered twice. -/
theorem not_behaves_twice : ∃ s : ListSystem Unit,
    Run listStep .init
        [.register .gprsConnections () 1 1, .unregister .gprsConnections (some 1)] s ∧
      ¬ Behaves s (.unregister .gprsConnections (some 1)) := by
  obtain ⟨s₁, cells₁, hstep₁, h₁⟩ :=
    (queues_init (ρ := Unit)).listStep (a := .register .gprsConnections () 1 1) ⟨rfl, rfl⟩ nofun
  have hregular : Regular s₁ (.unregister .gprsConnections (some 1)) := by
    rintro e ⟨⟩
    rw [hstep₁.2.2.2]
    exact List.mem_singleton_self 1
  obtain ⟨s₂, cells₂, hstep₂, h₂⟩ :=
    h₁.listStep (a := .unregister .gprsConnections (some 1)) trivial hregular
  refine ⟨s₂, .cons hstep₁.2 (.one hstep₂.2), fun hbehaves => ?_⟩
  have hmem := h₂.regular_of_behaves hbehaves 1 rfl
  rw [hstep₂.2.2.2, hstep₁.2.2.2] at hmem
  exact absurd hmem (by decide)

end Mocha.Ril.ListHead
