import Mathlib.Data.Set.List
import Mathlib.InformationTheory.Coding.UniquelyDecodable

/-! Codes that are read symbol by symbol: where a code word ends is seen from the word itself. -/
namespace Mocha.Lib
open InformationTheory

/-- The code words of the symbols, and a reader of the first one that leaves the rest. -/
structure PrefixCode (α β : Type*) where
  encode : α → List β
  read : List β → Option (α × List β)
  encode_ne_nil : ∀ a, encode a ≠ []
  read_encode : ∀ a rest, read (encode a ++ rest) = some (a, rest)

namespace PrefixCode

variable {α β : Type*} (c : PrefixCode α β)

/-- The words of a text, one behind the other. -/
def encodeAll (l : List α) : List β := l.flatMap c.encode

@[simp] theorem encodeAll_cons (a : α) (l : List α) :
    c.encodeAll (a :: l) = c.encode a ++ c.encodeAll l := rfl

theorem encodeAll_snoc (l : List α) (a : α) :
    c.encodeAll (l ++ [a]) = c.encodeAll l ++ c.encode a := by
  rw [encodeAll, List.flatMap_append, List.flatMap_singleton]
  rfl

/-- A text is determined by its words. -/
theorem encodeAll_injective : Function.Injective c.encodeAll := by
  intro l l' h
  induction l generalizing l' with
  | nil =>
    cases l' with
    | nil => rfl
    | cons b l' => exact absurd (List.append_eq_nil_iff.mp h.symm).1 (c.encode_ne_nil b)
  | cons a l ih =>
    cases l' with
    | nil => exact absurd (List.append_eq_nil_iff.mp h).1 (c.encode_ne_nil a)
    | cons b l' =>
      have hread := congrArg c.read h
      rw [encodeAll_cons, encodeAll_cons, c.read_encode, c.read_encode] at hread
      obtain ⟨rfl, hrest⟩ := Prod.mk.inj (Option.some.inj hread)
      rw [ih hrest]

/-- No other words give the same text. -/
theorem uniquelyDecodable : UniquelyDecodable (Set.range c.encode) := by
  intro words words' hwords hwords' h
  obtain ⟨l, rfl⟩ : words ∈ Set.range (List.map c.encode) := by rwa [Set.range_list_map]
  obtain ⟨l', rfl⟩ : words' ∈ Set.range (List.map c.encode) := by rwa [Set.range_list_map]
  rw [c.encodeAll_injective h]

theorem encodeAll_length_le {n : ℕ} (h : ∀ a, (c.encode a).length ≤ n) (l : List α) :
    (c.encodeAll l).length ≤ n * l.length := by
  induction l with
  | nil => exact Nat.zero_le _
  | cons a l ih =>
    have ha := h a
    rw [encodeAll_cons, List.length_append, List.length_cons, Nat.mul_succ]
    omega

end PrefixCode
end Mocha.Lib
