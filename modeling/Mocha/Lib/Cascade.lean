import Mocha.Lib.Run

/-! Systems that answer inputs with outputs, and two of them behind each other: the outputs of the first
are the inputs of the second. -/
namespace Mocha.Lib

variable {σ τ ι β ω : Type*}

/-- The inputs lead from one state to another, with these outputs. -/
def Responds (step : Step σ (ι × List ω)) (s : σ) (is : List ι) (out : List ω) (t : σ) : Prop :=
  ∃ tr, Run step s tr t ∧ inputs tr = is ∧ outputs tr = out

/-- Two systems behind each other: what the first puts out for an input, the second takes in. -/
def cascade (front : Step σ (ι × List β)) (back : Step τ (β × List ω)) : Step (σ × τ) (ι × List ω) :=
  fun s a t => ∃ bs, front s.1 (a.1, bs) t.1 ∧ Responds back s.2 bs a.2 t.2

section Responds

variable {step : Step σ (ι × List ω)} {s t u : σ} {is js : List ι} {i : ι} {out outs : List ω}

theorem outputs_append (tr tr' : List (ι × List ω)) : outputs (tr ++ tr') = outputs tr ++ outputs tr' :=
  List.flatMap_append

theorem responds_nil_iff : Responds step s [] out t ↔ out = [] ∧ t = s := by
  constructor
  · rintro ⟨tr, h, hin, rfl⟩
    obtain rfl := List.map_eq_nil_iff.mp hin
    exact ⟨rfl, Run.nil_iff.mp h⟩
  · rintro ⟨rfl, rfl⟩
    exact ⟨[], .nil, rfl, rfl⟩

theorem Responds.refl (step : Step σ (ι × List ω)) (s : σ) : Responds step s [] [] s :=
  responds_nil_iff.mpr ⟨rfl, rfl⟩

theorem Responds.append (h : Responds step s is out t) (h' : Responds step t js outs u) :
    Responds step s (is ++ js) (out ++ outs) u := by
  obtain ⟨tr, hrun, rfl, rfl⟩ := h
  obtain ⟨tr', hrun', rfl, rfl⟩ := h'
  exact ⟨tr ++ tr', hrun.append hrun', inputs_append .., outputs_append ..⟩

/-- The inputs can be taken in two parts. -/
theorem responds_append_iff : Responds step s (is ++ js) out u ↔
    ∃ t first rest, out = first ++ rest ∧ Responds step s is first t ∧ Responds step t js rest u := by
  constructor
  · rintro ⟨tr, h, hin, rfl⟩
    obtain ⟨tr₁, tr₂, rfl, rfl, rfl⟩ := List.map_eq_append_iff.mp hin
    obtain ⟨t, h₁, h₂⟩ := Run.append_iff.mp h
    exact ⟨t, outputs tr₁, outputs tr₂, outputs_append .., ⟨tr₁, h₁, rfl, rfl⟩, ⟨tr₂, h₂, rfl, rfl⟩⟩
  · rintro ⟨t, first, rest, rfl, h₁, h₂⟩
    exact h₁.append h₂

theorem responds_one_iff : Responds step s [i] out t ↔ step s (i, out) t := by
  constructor
  · rintro ⟨tr, h, hin, rfl⟩
    obtain ⟨⟨i', out⟩, rfl, rfl⟩ := List.map_eq_singleton_iff.mp hin
    obtain ⟨v, hv, hstep⟩ := Run.snoc_iff.mp (show Run step s ([] ++ [_]) t from h)
    obtain rfl := Run.nil_iff.mp hv
    rw [outputs_singleton]
    exact hstep
  · intro h
    exact ⟨[(i, out)], .one h, rfl, outputs_singleton _⟩

theorem responds_cons_iff : Responds step s (i :: is) out u ↔
    ∃ t first rest, out = first ++ rest ∧ step s (i, first) t ∧ Responds step t is rest u := by
  rw [← List.singleton_append, responds_append_iff]
  simp only [responds_one_iff]

/-- Where a step is determined by its input, so is what all inputs lead to. -/
theorem Responds.functional
    (hf : ∀ s i o o' t t', step s (i, o) t → step s (i, o') t' → t = t' ∧ o = o')
    (h : Responds step s is out t) (h' : Responds step s is outs u) : t = u ∧ out = outs := by
  obtain ⟨tr, hrun, hin, rfl⟩ := h
  obtain ⟨tr', hrun', hin', rfl⟩ := h'
  obtain ⟨rfl, rfl⟩ := hrun.functional hf hrun' (hin.trans hin'.symm)
  exact ⟨rfl, rfl⟩

end Responds

/-- The second system sees nothing of how its inputs came about: all of the first may come before all of
the second. -/
theorem responds_cascade_iff {front : Step σ (ι × List β)} {back : Step τ (β × List ω)} {s t : σ × τ}
    {is : List ι} {out : List ω} : Responds (cascade front back) s is out t ↔
      ∃ bs, Responds front s.1 is bs t.1 ∧ Responds back s.2 bs out t.2 := by
  induction is generalizing s out with
  | nil =>
    simp only [responds_nil_iff]
    constructor
    · rintro ⟨rfl, rfl⟩
      exact ⟨[], ⟨rfl, rfl⟩, .refl ..⟩
    · rintro ⟨bs, ⟨rfl, hfront⟩, hback⟩
      obtain ⟨rfl, hsecond⟩ := responds_nil_iff.mp hback
      exact ⟨rfl, Prod.ext hfront hsecond⟩
  | cons i is ih =>
    rw [responds_cons_iff]
    constructor
    · rintro ⟨u, first, rest, rfl, ⟨bs, hfront, hback⟩, hrest⟩
      obtain ⟨bs', hfront', hback'⟩ := ih.mp hrest
      exact ⟨bs ++ bs', responds_cons_iff.mpr ⟨u.1, bs, bs', rfl, hfront, hfront'⟩, hback.append hback'⟩
    · rintro ⟨bs, hfront, hback⟩
      obtain ⟨u, bs₁, bs₂, rfl, hstep, hfront'⟩ := responds_cons_iff.mp hfront
      obtain ⟨v, first, rest, rfl, hback₁, hback₂⟩ := responds_append_iff.mp hback
      exact ⟨(u, v), first, rest, rfl, ⟨bs₁, hstep, hback₁⟩, ih.mpr ⟨bs₂, hfront', hback₂⟩⟩

/-- Where the first system is determined by its inputs, what it puts out for them is all that the second
one depends on. -/
theorem responds_cascade_of_front {front : Step σ (ι × List β)} {back : Step τ (β × List ω)} {s : σ × τ}
    {is : List ι} {bs : List β} {t : σ} (hf : ∀ s i o o' t t', front s (i, o) t → front s (i, o') t' →
      t = t' ∧ o = o') (hfront : Responds front s.1 is bs t) {out : List ω} {u : σ × τ} :
    Responds (cascade front back) s is out u ↔ u.1 = t ∧ Responds back s.2 bs out u.2 := by
  rw [responds_cascade_iff]
  constructor
  · rintro ⟨bs', hfront', hback⟩
    obtain ⟨rfl, rfl⟩ := hfront.functional hf hfront'
    exact ⟨rfl, hback⟩
  · rintro ⟨rfl, hback⟩
    exact ⟨bs, hfront, hback⟩

end Mocha.Lib
