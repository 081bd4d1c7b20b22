import Mathlib.Data.List.Basic
import Mathlib.Data.List.GetD
import Mathlib.Tactic.Linarith

/-! Frames sent over a byte stream to a reader that takes every chunk it reads for one frame. The
reader fills a chunk up with a blank where it is shorter than the frame that it announces. -/
namespace Mocha.Lib

variable {α : Type*}

/-- A chunk, filled up with blanks, begins with the frame. -/
def Fits (blank : α) (chunk frame : List α) : Prop :=
  ∀ j < frame.length, chunk.getD j blank = frame.getD j blank

/-- The chunks are the frames; or they are up to the last one, whose chunk lacks only blanks, and
the blanks come in chunks of which the first stops the reader. -/
def Aligned (blank : α) (header : ℕ) (frames chunks : List (List α)) : Prop :=
  chunks = frames ∨ ∃ before last chunk next rest, frames = before ++ [last] ∧
    chunks = before ++ chunk :: next :: rest ∧ header ≤ chunk.length ∧ next.length < header ∧
      ∀ b ∈ (next :: rest).flatten, b = blank

section

variable {blank : α} {header : ℕ} {frames chunks : List (List α)} {frame chunk : List α}

theorem Aligned.cons (h : Aligned blank header frames chunks) :
    Aligned blank header (frame :: frames) (frame :: chunks) := by
  rcases h with rfl | ⟨before, last, chunk, next, rest, rfl, rfl, h⟩
  · exact .inl rfl
  · exact .inr ⟨frame :: before, last, chunk, next, rest, rfl, rfl, h⟩

end

/-! A reader that takes exactly one message from the front of the stream. -/

section ReadMany

variable {β γ : Type*} {read : List α → Option (β × List α)} {encode : γ → List α} {view : γ → β}

/-- So many messages, read one after another, and what is left of the stream. -/
def readMany (read : List α → Option (β × List α)) : ℕ → List α → Option (List β × List α)
  | 0, stream => some ([], stream)
  | n + 1, stream => do
    let (m, stream) ← read stream
    let (ms, stream) ← readMany read n stream
    pure (m :: ms, stream)

/-- A reader that gets one message back gets any number of them back. -/
theorem readMany_flatten (hread : ∀ m rest, read (encode m ++ rest) = some (view m, rest))
    (ms : List γ) (rest : List α) :
    readMany read ms.length ((ms.map encode).flatten ++ rest) = some (ms.map view, rest) := by
  induction ms with
  | nil => rfl
  | cons m ms ih =>
    rw [List.length_cons, readMany, List.map_cons, List.flatten_cons, List.append_assoc, hread]
    simp only [Option.bind_eq_bind, Option.bind_some, ih, List.map_cons]
    rfl

end ReadMany

end Mocha.Lib
