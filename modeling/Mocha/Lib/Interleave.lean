import Mocha.Lib.Run

/-! Order-preserving interleavings of two lists, and runs over interleaved inputs. -/
namespace Mocha.Lib

variable {σ α : Type*}

/-- `Interleave l r m`: `m` consists of the elements of `l` and of `r`, each in its own order. -/
inductive Interleave : List α → List α → List α → Prop
  | nil : Interleave [] [] []
  | left {l r m : List α} (a : α) : Interleave l r m → Interleave (a :: l) r (a :: m)
  | right {l r m : List α} (a : α) : Interleave l r m → Interleave l (a :: r) (a :: m)

/-- Steps that can be taken anywhere and change nothing may be mixed into any run. -/
theorem Interleave.run {step : Step σ α} {l r m : List α} (hm : Interleave l r m)
    (hr : ∀ a ∈ r, ∀ s, step s a s) {s t : σ} (h : Run step s l t) : Run step s m t := by
  induction hm generalizing s with
  | nil => exact h
  | left a _ ih =>
    obtain ⟨u, hs, hu⟩ := Run.cons_iff.mp h
    exact .cons hs (ih hr hu)
  | right a _ ih =>
    exact .cons (hr a (List.mem_cons_self ..) s)
      (ih (fun b hb => hr b (List.mem_cons_of_mem a hb)) h)

/-- Elements that contribute nothing do not show. -/
theorem Interleave.flatMap_left {β : Type*} {l r m : List α} (h : Interleave l r m) {f : α → List β}
    (hr : ∀ a ∈ r, f a = []) : m.flatMap f = l.flatMap f := by
  induction h with
  | nil => rfl
  | left a _ ih => rw [List.flatMap_cons, List.flatMap_cons, ih hr]
  | right a _ ih =>
    rw [List.flatMap_cons, hr a List.mem_cons_self, List.nil_append]
    exact ih fun b hb => hr b (List.mem_cons_of_mem a hb)

theorem Interleave.append_left {l r m : List α} (h : Interleave l r m) (as : List α) :
    Interleave (as ++ l) r (as ++ m) := by
  induction as with
  | nil => exact h
  | cons a as ih => exact .left a ih

theorem Interleave.append_right {l r m : List α} (h : Interleave l r m) (as : List α) :
    Interleave l (as ++ r) (as ++ m) := by
  induction as with
  | nil => exact h
  | cons a as ih => exact .right a ih

/-- What the elements stand for is interleaved as they are. -/
theorem Interleave.flatMap {β : Type*} {l r m : List α} (h : Interleave l r m) (f : α → List β) :
    Interleave (l.flatMap f) (r.flatMap f) (m.flatMap f) := by
  induction h with
  | nil => exact .nil
  | left a _ ih => exact ih.append_left (f a)
  | right a _ ih => exact ih.append_right (f a)

/-- An interleaving of images is the image of an interleaving. -/
theorem Interleave.exists_of_map {β : Type*} {g : β → α} {l r : List β} {m : List α}
    (h : Interleave (l.map g) (r.map g) m) : ∃ m', m'.map g = m ∧ Interleave l r m' := by
  generalize hl : l.map g = gl at h
  generalize hr : r.map g = gr at h
  induction h generalizing l r with
  | nil =>
    obtain rfl := List.map_eq_nil_iff.mp hl
    obtain rfl := List.map_eq_nil_iff.mp hr
    exact ⟨[], rfl, .nil⟩
  | left a _ ih =>
    obtain ⟨b, l', rfl, rfl, rfl⟩ := List.map_eq_cons_iff.mp hl
    obtain ⟨m', rfl, hm'⟩ := ih rfl hr
    exact ⟨b :: m', rfl, .left b hm'⟩
  | right a _ ih =>
    obtain ⟨b, r', rfl, rfl, rfl⟩ := List.map_eq_cons_iff.mp hr
    obtain ⟨m', rfl, hm'⟩ := ih hl rfl
    exact ⟨b :: m', rfl, .right b hm'⟩

end Mocha.Lib
