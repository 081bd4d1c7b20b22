import Mathlib.Algebra.BigOperators.Group.List.Basic
import Mathlib.Algebra.Order.Group.Multiset
import Mathlib.Algebra.Order.Monoid.OrderDual
import Mathlib.Data.List.Induction
import Mathlib.Data.List.Infix
import Mathlib.Tactic.Abel

/-! Finite runs of labelled transition systems, and the laws a run inherits from its steps. -/
namespace Mocha.Lib

variable {σ α β γ ι ω : Type*}

/-- One step of a system: the state before, the label of the step, the state after. -/
abbrev Step (σ α : Type*) := σ → α → σ → Prop

/-- `Run step s tr t`: the steps labelled `tr` lead, in this order, from `s` to `t`. -/
inductive Run (step : Step σ α) (s : σ) : List α → σ → Prop
  | nil : Run step s [] s
  | snoc {tr : List α} {u v : σ} {a : α} : Run step s tr u → step u a v → Run step s (tr ++ [a]) v

/-- The steps that satisfy a condition on the state they start from and on their label. -/
def Step.when (step : Step σ α) (C : σ → α → Prop) : Step σ α :=
  fun s a t => C s a ∧ step s a t

/-- A total transition function as a step relation; a label pairs the input with its outputs. -/
def Step.ofFun (f : σ → ι → σ × List ω) : Step σ (ι × List ω) :=
  fun s a t => f s a.1 = (t, a.2)

theorem Step.ofFun_deterministic {f : σ → ι → σ × List ω} {s t t' : σ} {a : ι × List ω}
    (h : Step.ofFun f s a t) (h' : Step.ofFun f s a t') : t = t' :=
  congrArg Prod.fst (h.symm.trans h')

/-- The run of a total transition function over given inputs: its labels and its last state. -/
def exec (f : σ → ι → σ × List ω) : σ → List ι → List (ι × List ω) × σ
  | s, [] => ([], s)
  | s, i :: is => ((i, (f s i).2) :: (exec f (f s i).1 is).1, (exec f (f s i).1 is).2)

/-- A partial transition function as a step relation: where it has no result there is no step. -/
def Step.ofPartial (f : σ → ι → Option (σ × List ω)) : Step σ (ι × List ω) :=
  fun s a t => f s a.1 = some (t, a.2)

theorem Step.ofPartial_deterministic {f : σ → ι → Option (σ × List ω)} {s t t' : σ} {a : ι × List ω}
    (h : Step.ofPartial f s a t) (h' : Step.ofPartial f s a t') : t = t' :=
  congrArg Prod.fst (Option.some.inj (h.symm.trans h'))

/-- The run of a partial transition function over given inputs, if it has a result at each of them. -/
def execPartial (f : σ → ι → Option (σ × List ω)) : σ → List ι → Option (List (ι × List ω) × σ)
  | s, [] => some ([], s)
  | s, i :: is => (f s i).bind fun r =>
    (execPartial f r.1 is).map fun r' => ((i, r.2) :: r'.1, r'.2)

/-- A partial result that is that of a total function, or none where the condition fails. -/
theorem eq_some_iff_of_or {α : Type*} {o : Option α} {a b : α} {p : Prop}
    (h : o = some a ∧ p ∨ o = none ∧ ¬p) : o = some b ↔ a = b ∧ p := by
  rcases h with ⟨rfl, hp⟩ | ⟨rfl, hp⟩
  · rw [Option.some_inj]
    exact (and_iff_left hp).symm
  · exact ⟨nofun, fun h => absurd h.2 hp⟩

/-- A function that is the restriction of a total one to some inputs. -/
theorem execPartial_eq_some {f : σ → ι → Option (σ × List ω)} {g : σ → ι → σ × List ω} {P : ι → Prop}
    (hf : ∀ s i r, f s i = some r ↔ g s i = r ∧ P i) {s : σ} {is : List ι}
    {r : List (ι × List ω) × σ} :
    execPartial f s is = some r ↔ exec g s is = r ∧ ∀ i ∈ is, P i := by
  induction is generalizing s r with
  | nil => simp [execPartial, exec]
  | cons i is ih =>
    rw [execPartial, Option.bind_eq_some_iff, List.forall_mem_cons]
    constructor
    · rintro ⟨r₁, h₁, h⟩
      obtain ⟨rfl, hi⟩ := (hf ..).mp h₁
      obtain ⟨r₂, h₂, rfl⟩ := Option.map_eq_some_iff.mp h
      obtain ⟨rfl, his⟩ := ih.mp h₂
      exact ⟨rfl, hi, his⟩
    · rintro ⟨rfl, hi, his⟩
      refine ⟨g s i, (hf ..).mpr ⟨rfl, hi⟩, ?_⟩
      rw [ih.mpr ⟨rfl, his⟩]
      rfl

/-- The inputs of a run, in order. -/
def inputs (tr : List (ι × List ω)) : List ι := tr.map Prod.fst

/-- The outputs of a run, in order. -/
def outputs (tr : List (ι × List ω)) : List ω := tr.flatMap Prod.snd

@[simp] theorem inputs_append (tr tr' : List (ι × List ω)) :
    inputs (tr ++ tr') = inputs tr ++ inputs tr' := List.map_append ..

@[simp] theorem outputs_singleton (a : ι × List ω) : outputs [a] = a.2 := by simp [outputs]

/-- A run has the inputs that it is made from. -/
theorem inputs_exec (f : σ → ι → σ × List ω) (s : σ) (is : List ι) : inputs (exec f s is).1 = is := by
  induction is generalizing s with
  | nil => rfl
  | cons i is ih => exact congrArg (i :: ·) (ih (f s i).1)

/-- The last value that one of a list of labels carries, or else a given one. -/
def latest (f : α → Option β) (l : List α) (b : β) : β := (l.filterMap f).getLastD b

theorem latest_snoc (f : α → Option β) (l : List α) (a : α) (b : β) :
    latest f (l ++ [a]) b = (f a).getD (latest f l b) := by
  unfold latest
  cases h : f a <;> simp [h, List.getLastD_eq_getLast?]

theorem filterMap_inputs (f : ι → Option β) (tr : List (ι × List ω)) :
    (inputs tr).filterMap f = tr.flatMap fun a => (f a.1).toList := by
  rw [inputs, List.filterMap_map, List.filterMap_eq_flatMap_toList]
  rfl

theorem filterMap_outputs (f : ω → Option β) (tr : List (ι × List ω)) :
    (outputs tr).filterMap f = tr.flatMap fun a => a.2.filterMap f := by
  rw [outputs, List.filterMap_flatMap]

/-- What is collected without repetition along a run is so along its beginnings. -/
theorem nodup_of_isPrefix (f : α → List β) (tr tr' : List α) (h : tr <+: tr')
    (hnodup : (tr'.flatMap f).Nodup) : (tr.flatMap f).Nodup :=
  hnodup.sublist (h.flatMap f).sublist

/-- Lists collected along a run, as multisets. -/
theorem sum_map_coe (f : α → List β) (tr : List α) :
    (tr.map fun a => (f a : Multiset β)).sum = (tr.flatMap f : List β) := by
  induction tr with
  | nil => rfl
  | cons a tr ih => rw [List.map_cons, List.sum_cons, ih, List.flatMap_cons, Multiset.coe_add]

/-! Accounts: what is owed is held or has been paid. -/

section Account

variable {stock : Multiset β} {owed paid : List β} {b : β}

theorem held_or_paid (h : (owed : Multiset β) ≤ stock + paid) (hb : b ∈ owed) :
    b ∈ stock ∨ b ∈ paid := by
  have hmem := Multiset.mem_of_le h (Multiset.mem_coe.mpr hb)
  rw [Multiset.mem_add, Multiset.mem_coe] at hmem
  exact hmem

theorem owed_of_held (h : stock + (paid : Multiset β) ≤ owed) (hb : b ∈ stock) : b ∈ owed :=
  Multiset.mem_coe.mp (Multiset.mem_of_le h (Multiset.mem_add.mpr (.inl hb)))

theorem owed_of_paid (h : stock + (paid : Multiset β) ≤ owed) (hb : b ∈ paid) : b ∈ owed :=
  Multiset.mem_coe.mp (Multiset.mem_of_le h (Multiset.mem_add.mpr (.inr (Multiset.mem_coe.mpr hb))))

/-- What is owed once is held once or paid once, and not both. -/
theorem nodup_of_owed (h : stock + (paid : Multiset β) ≤ owed) (hnodup : owed.Nodup) :
    stock.Nodup ∧ paid.Nodup ∧ ∀ b ∈ stock, b ∉ paid := by
  have hall : (stock + (paid : Multiset β)).Nodup :=
    Multiset.nodup_of_le h (Multiset.coe_nodup.mpr hnodup)
  obtain ⟨hstock, hpaid, hdisjoint⟩ := Multiset.nodup_add.mp hall
  refine ⟨hstock, Multiset.coe_nodup.mp hpaid, ?_⟩
  intro b hb hdone
  exact Multiset.disjoint_left.mp hdisjoint hb (Multiset.mem_coe.mpr hdone)

end Account

namespace Run

variable {step : Step σ α} {s t u : σ} {tr tr' : List α} {a : α}

theorem one (h : step s a t) : Run step s [a] t := (Run.snoc .nil h : Run step s ([] ++ [a]) t)

theorem append (h : Run step s tr t) (h' : Run step t tr' u) : Run step s (tr ++ tr') u := by
  induction h' with
  | nil => simpa using h
  | snoc _ hs ih => simpa using ih.snoc hs

theorem cons (h : step s a t) (h' : Run step t tr u) : Run step s (a :: tr) u :=
  (one h).append h'

theorem exec (f : σ → ι → σ × List ω) (s : σ) (is : List ι) :
    Run (Step.ofFun f) s (Lib.exec f s is).1 (Lib.exec f s is).2 := by
  induction is generalizing s with
  | nil => exact .nil
  | cons i is ih => exact .cons rfl (ih _)

theorem execPartial {f : σ → ι → Option (σ × List ω)} {is : List ι} {r : List (ι × List ω) × σ}
    (h : Lib.execPartial f s is = some r) : Run (Step.ofPartial f) s r.1 r.2 := by
  induction is generalizing s r with
  | nil =>
    obtain rfl := Option.some.inj h
    exact .nil
  | cons i is ih =>
    obtain ⟨r₁, h₁, h⟩ := Option.bind_eq_some_iff.mp h
    obtain ⟨r₂, h₂, rfl⟩ := Option.map_eq_some_iff.mp h
    exact .cons h₁ (ih h₂)

theorem exec_append (f : σ → ι → σ × List ω) (s : σ) (is js : List ι) :
    Lib.exec f s (is ++ js) = ((Lib.exec f s is).1 ++ (Lib.exec f (Lib.exec f s is).2 js).1,
      (Lib.exec f (Lib.exec f s is).2 js).2) := by
  induction is generalizing s with
  | nil => rfl
  | cons i is ih => rw [List.cons_append, Lib.exec, ih, Lib.exec, List.cons_append]

@[simp] theorem nil_iff : Run step s [] t ↔ t = s := by
  refine ⟨fun h => ?_, by rintro rfl; exact .nil⟩
  generalize htr : ([] : List α) = tr at h
  cases h with
  | nil => rfl
  | snoc => simp at htr

theorem snoc_iff : Run step s (tr ++ [a]) t ↔ ∃ v, Run step s tr v ∧ step v a t := by
  refine ⟨fun h => ?_, fun ⟨_, h, hs⟩ => h.snoc hs⟩
  generalize htr : tr ++ [a] = tr' at h
  cases h with
  | nil => simp at htr
  | snoc h hs =>
    obtain ⟨rfl, h1⟩ := List.append_inj' htr rfl
    obtain rfl := List.singleton_inj.mp h1
    exact ⟨_, h, hs⟩

theorem append_iff : Run step s (tr ++ tr') u ↔ ∃ t, Run step s tr t ∧ Run step t tr' u := by
  refine ⟨fun h => ?_, fun ⟨_, h, h'⟩ => h.append h'⟩
  induction tr' using List.reverseRecOn generalizing u with
  | nil => exact ⟨u, by simpa using h, .nil⟩
  | append_singleton tr' a ih =>
    rw [← List.append_assoc, snoc_iff] at h
    obtain ⟨v, hv, hs⟩ := h
    obtain ⟨t, ht, ht'⟩ := ih hv
    exact ⟨t, ht, ht'.snoc hs⟩

theorem cons_iff : Run step s (a :: tr) u ↔ ∃ t, step s a t ∧ Run step t tr u := by
  rw [← List.singleton_append, append_iff]
  refine ⟨fun ⟨t, h, h'⟩ => ⟨t, ?_, h'⟩, fun ⟨t, h, h'⟩ => ⟨t, one h, h'⟩⟩
  obtain ⟨v, hv, hs⟩ := snoc_iff.mp (show Run step s ([] ++ [a]) t from h)
  obtain rfl := nil_iff.mp hv
  exact hs

/-- The rule for invariants: what holds at the start and is kept by every step holds at the end. -/
theorem invariant (I : σ → Prop) (hI : ∀ s a t, I s → step s a t → I t)
    (h : Run step s tr t) (hs : I s) : I t := by
  induction h with
  | nil => exact hs
  | snoc _ hstep ih => exact hI _ _ _ ih hstep

/-- The rule for invariants that speak of the labels as well. -/
theorem invariant_trace (I : List α → σ → Prop)
    (hI : ∀ tr u a v, I tr u → step u a v → I (tr ++ [a]) v) (h : Run step s tr t) (hs : I [] s) :
    I tr t := by
  induction h with
  | nil => exact hs
  | snoc _ hstep ih => exact hI _ _ _ _ ih hstep

/-- An invariant may be assumed of the state that each step of a run starts from. -/
theorem strengthen (I : σ → Prop) (hI : ∀ s a t, I s → step s a t → I t)
    (h : Run step s tr t) (hs : I s) : Run (step.when fun s _ => I s) s tr t := by
  induction h with
  | nil => exact .nil
  | snoc hrun hstep ih => exact ih.snoc ⟨hrun.invariant I hI hs, hstep⟩

theorem mono {step' : Step σ α} (hm : ∀ s a t, step s a t → step' s a t) (h : Run step s tr t) :
    Run step' s tr t := by
  induction h with
  | nil => exact .nil
  | snoc _ hs ih => exact ih.snoc (hm _ _ _ hs)

theorem of_when {C : σ → α → Prop} (h : Run (step.when C) s tr t) : Run step s tr t :=
  h.mono fun _ _ _ hs => hs.2

/-- Systems whose steps agree in the states of an invariant have the same runs. -/
theorem congr {step' : Step σ α} (I : σ → Prop) (hI : ∀ s a t, I s → step s a t → I t)
    (hstep : ∀ s a t, I s → (step s a t ↔ step' s a t)) (hs : I s) :
    Run step s tr t ↔ Run step' s tr t := by
  have hI' : ∀ s a t, I s → step' s a t → I t := fun s a t hs h => hI s a t hs ((hstep s a t hs).mpr h)
  constructor
  · intro h
    exact (h.strengthen I hI hs).mono fun s a t ⟨hs, h⟩ => (hstep s a t hs).mp h
  · intro h
    exact (h.strengthen I hI' hs).mono fun s a t ⟨hs, h⟩ => (hstep s a t hs).mpr h

theorem deterministic (hdet : ∀ s a t t', step s a t → step s a t' → t = t')
    (h : Run step s tr t) {t' : σ} (h' : Run step s tr t') : t = t' := by
  induction h generalizing t' with
  | nil => exact (nil_iff.mp h').symm
  | snoc _ hs ih =>
    obtain ⟨v, hv, hs'⟩ := snoc_iff.mp h'
    obtain rfl := ih hv
    exact hdet _ _ _ _ hs hs'

/-- The runs whose prefixes all obey a law are those whose steps all meet a condition, if the law
follows from an invariant `I` that such steps keep, and fails after a step that does not meet the
condition. `N` is what the runs are assumed to keep to. -/
theorem prefixes_iff {C : σ → α → Prop} {N : List α → Prop} {I P : List α → σ → Prop}
    (hdet : ∀ s a t t', step s a t → step s a t' → t = t')
    (hN : ∀ tr tr', tr <+: tr' → N tr' → N tr) (hinit : I [] s)
    (hI : ∀ tr u a v, N (tr ++ [a]) → I tr u → C u a → step u a v → I (tr ++ [a]) v)
    (hP : ∀ tr u, N tr → I tr u → P tr u)
    (hC : ∀ tr u a v, N (tr ++ [a]) → I tr u → step u a v → P (tr ++ [a]) v → C u a) (hn : N tr) :
    (Run step s tr t ∧ ∀ tr₁ u, tr₁ <+: tr → Run step s tr₁ u → P tr₁ u) ↔
      Run (step.when C) s tr t := by
  have hinv : ∀ {tr t}, N tr → Run (step.when C) s tr t → I tr t := by
    intro tr t hn h
    refine h.invariant_trace (fun tr u => N tr → I tr u) (fun tr u a v ih hstep hn => ?_)
      (fun _ => hinit) hn
    exact hI tr u a v hn (ih (hN _ _ (List.prefix_append _ _) hn)) hstep.1 hstep.2
  constructor
  · rintro ⟨h, hall⟩
    induction h with
    | nil => exact .nil
    | @snoc tr u v a h hstep ih =>
      have hpre : tr <+: tr ++ [a] := List.prefix_append _ _
      have hrun := ih (hN _ _ hpre hn) fun tr₁ u h₁ => hall tr₁ u (h₁.trans hpre)
      have hafter := hall (tr ++ [a]) v (List.prefix_refl _) (h.snoc hstep)
      exact hrun.snoc ⟨hC tr u a v hn (hinv (hN _ _ hpre hn) hrun) hstep hafter, hstep⟩
  · intro h
    refine ⟨h.of_when, fun tr₁ u hpre hu => ?_⟩
    have hn₁ := hN _ _ hpre hn
    obtain ⟨tr₂, rfl⟩ := hpre
    obtain ⟨v, hv, -⟩ := append_iff.mp h
    obtain rfl := hu.deterministic hdet hv.of_when
    exact hP tr₁ u hn₁ (hinv hn₁ hv)

/-- What holds of the label of every step holds of every label of a run. -/
theorem labels (P : α → Prop) (hP : ∀ s a t, step s a t → P a) (h : Run step s tr t) :
    ∀ a ∈ tr, P a := by
  induction h with
  | nil => simp
  | snoc _ hs ih =>
    intro a ha
    rcases List.mem_append.mp ha with ha | ha
    · exact ih a ha
    · exact List.mem_singleton.mp ha ▸ hP _ _ _ hs

/-- The last writer: what every step takes from its label, or leaves as it is, is at the end what the
last label that carries it has. -/
theorem latest (get : σ → β) (f : α → Option β)
    (hget : ∀ s a t, step s a t → get t = (f a).getD (get s)) (h : Run step s tr t) :
    get t = Lib.latest f tr (get s) := by
  induction h with
  | nil => rfl
  | snoc _ hs ih => rw [latest_snoc, hget _ _ _ hs, ih]

/-- The last writer, for a transition function and its inputs. -/
theorem exec_latest (f : σ → ι → σ × List ω) (get : σ → β) (g : ι → Option β)
    (hget : ∀ s i, get (f s i).1 = (g i).getD (get s)) (s : σ) (is : List ι) :
    get (Lib.exec f s is).2 = Lib.latest g is (get s) := by
  have hstep : ∀ s a t, Step.ofFun f s a t → get t = (g a.1).getD (get s) := by
    intro s a t hs
    rw [← hget, hs]
  have hlatest := (Run.exec f s is).latest get (fun a => g a.1) hstep
  have hinputs := inputs_exec f s is
  rw [hlatest, ← congrArg (fun l => Lib.latest g l (get s)) hinputs, Lib.latest, Lib.latest, inputs,
    List.filterMap_map]
  rfl

/-- Where a step is determined by its input, so is a run by its inputs. -/
theorem functional {step : Step σ (ι × List ω)}
    (hf : ∀ s i o o' t t', step s (i, o) t → step s (i, o') t' → t = t' ∧ o = o')
    {tr tr' : List (ι × List ω)} {t t' : σ} (h : Run step s tr t) (h' : Run step s tr' t')
    (hi : inputs tr = inputs tr') : t = t' ∧ tr = tr' := by
  induction h generalizing tr' t' with
  | nil =>
    obtain rfl := List.map_eq_nil_iff.mp hi.symm
    exact ⟨(nil_iff.mp h').symm, rfl⟩
  | @snoc tr u v a _ hs ih =>
    rw [inputs_append] at hi
    obtain ⟨tr'', last, rfl, hi', hl⟩ := List.append_eq_map_iff.mp hi
    obtain ⟨b, rfl, hb⟩ := List.map_eq_singleton_iff.mp hl
    obtain ⟨u', hu', hs'⟩ := snoc_iff.mp h'
    obtain ⟨rfl, rfl⟩ := ih hu' hi'.symm
    obtain ⟨i, o⟩ := a
    obtain ⟨i', o'⟩ := b
    obtain rfl : i' = i := hb
    obtain ⟨rfl, rfl⟩ := hf _ _ _ _ _ _ hs hs'
    exact ⟨rfl, rfl⟩

/-- What holds of every step of a run over given inputs holds of its last step. -/
theorem exec_last {f : σ → ι → σ × List ω} {P : σ → ι × List ω → σ → Prop} {is : List ι} {i : ι}
    (h : Run (fun s a t => Step.ofFun f s a t ∧ P s a t) s (Lib.exec f s (is ++ [i])).1 t) :
    P (Lib.exec f s is).2 (i, (f (Lib.exec f s is).2 i).2) (f (Lib.exec f s is).2 i).1 := by
  rw [exec_append] at h
  obtain ⟨u, hu, hstep, hP⟩ := snoc_iff.mp h
  have hu' : Run (Step.ofFun f) s (Lib.exec f s is).1 u := hu.mono fun _ _ _ hs => hs.1
  have hdet : ∀ s i o o' t t', Step.ofFun f s (i, o) t → Step.ofFun f s (i, o') t' →
      t = t' ∧ o = o' := fun s i o o' t t' h h' => Prod.mk.inj (h.symm.trans h')
  obtain ⟨rfl, -⟩ := functional hdet hu' (Run.exec f s is) rfl
  obtain rfl : (f (Lib.exec f s is).2 i).1 = t := congrArg Prod.fst hstep
  exact hP

/-! Conservation: what a state holds, what a step brings in and what it pays out. -/

section Conservation

variable {M : Type*} [AddCommMonoid M] [PartialOrder M] [AddLeftMono M]

/-- If no step creates anything, nothing is created along a run. -/
theorem conservation_le (held : σ → M) (owed paid : α → M)
    (hc : ∀ s a t, step s a t → held t + paid a ≤ held s + owed a) (h : Run step s tr t) :
    held t + (tr.map paid).sum ≤ held s + (tr.map owed).sum := by
  induction h with
  | nil => simp
  | @snoc tr u v a _ hs ih =>
    simp only [List.map_append, List.sum_append, List.map_singleton, List.sum_singleton]
    calc held v + ((tr.map paid).sum + paid a) = held v + paid a + (tr.map paid).sum := by abel
      _ ≤ held u + owed a + (tr.map paid).sum := by
        rw [add_comm _ (tr.map paid).sum, add_comm _ (tr.map paid).sum]
        exact add_le_add_right (hc _ _ _ hs) _
      _ = held u + (tr.map paid).sum + owed a := by abel
      _ ≤ held s + (tr.map owed).sum + owed a := by
        rw [add_comm _ (owed a), add_comm _ (owed a)]
        exact add_le_add_right ih _
      _ = held s + ((tr.map owed).sum + owed a) := by abel

/-- If no step loses anything, nothing is lost along a run. -/
theorem conservation_ge (held : σ → M) (owed paid : α → M)
    (hc : ∀ s a t, step s a t → held s + owed a ≤ held t + paid a) (h : Run step s tr t) :
    held s + (tr.map owed).sum ≤ held t + (tr.map paid).sum :=
  conservation_le (M := Mᵒᵈ) held owed paid hc h

/-- If every step keeps the balance, so does a run. -/
theorem conservation (held : σ → M) (owed paid : α → M)
    (hc : ∀ s a t, step s a t → held t + paid a = held s + owed a) (h : Run step s tr t) :
    held t + (tr.map paid).sum = held s + (tr.map owed).sum :=
  le_antisymm (h.conservation_le held owed paid fun _ _ _ hs => (hc _ _ _ hs).le)
    (h.conservation_ge held owed paid fun _ _ _ hs => (hc _ _ _ hs).ge)

end Conservation

/-- First in, first out: if every step takes what leaves from the front of the queue and adds what
arrives at the back, then so does a whole run. What leaves is seen through `sight`. -/
theorem fifo (queue : σ → List β) (arrivals : α → List β) (departures : α → List γ)
    (sight : β → γ) (hq : ∀ s a t, step s a t → ∃ gone,
      queue s ++ arrivals a = gone ++ queue t ∧ departures a = gone.map sight)
    (h : Run step s tr t) : ∃ gone,
      queue s ++ tr.flatMap arrivals = gone ++ queue t ∧
        tr.flatMap departures = gone.map sight := by
  induction h with
  | nil => exact ⟨[], by simp⟩
  | @snoc tr u v a _ hs ih =>
    obtain ⟨gone, hin, hout⟩ := ih
    obtain ⟨more, hin', hout'⟩ := hq _ _ _ hs
    refine ⟨gone ++ more, ?_, ?_⟩
    · simp only [List.flatMap_append, List.flatMap_singleton]
      rw [← List.append_assoc, hin, List.append_assoc, hin', List.append_assoc]
    · simp only [List.flatMap_append, List.flatMap_singleton, hout, hout', List.map_append]

end Run
end Mocha.Lib
