import Mathlib.Data.List.Basic

/-! Heap blocks: what `malloc` returns, `memcpy` fills and `free` gives back. An access that the C
standard leaves undefined has no result. -/
namespace Mocha.Lib

/-- The bytes of an allocation, and whether it has not been freed yet. -/
structure Block where
  bytes : List UInt8
  live : Bool
deriving DecidableEq, Repr

namespace Block

/-- A fresh allocation of `n` bytes; `fresh` is what the memory happens to contain. -/
def malloc (fresh : ℕ → UInt8) (n : ℕ) : Block := ⟨(List.range n).map fresh, true⟩

/-- What `calloc` returns, for `n` bytes. -/
def calloc (n : ℕ) : Block := ⟨List.replicate n 0, true⟩

/-- Copy `src` to offset `pos` of the block, which has to be live and long enough. -/
def memcpy (b : Block) (pos : ℕ) (src : List UInt8) : Option Block :=
  if b.live ∧ pos + src.length ≤ b.bytes.length then
    some { b with bytes := b.bytes.take pos ++ src ++ b.bytes.drop (pos + src.length) }
  else none

/-- The `n` bytes at offset `pos` of the block. -/
def read (b : Block) (pos n : ℕ) : Option (List UInt8) :=
  if b.live ∧ pos + n ≤ b.bytes.length then some ((b.bytes.drop pos).take n) else none

def free (b : Block) : Option Block := if b.live then some { b with live := false } else none

/-- A string in a field of `n` bytes, with zeros behind it. -/
def padTo (n : ℕ) (s : List UInt8) : List UInt8 := s ++ List.replicate (n - s.length) 0

theorem padTo_length {n : ℕ} {s : List UInt8} (h : s.length ≤ n) : (padTo n s).length = n := by
  rw [padTo, List.length_append, List.length_replicate]
  omega

@[simp] theorem malloc_length (fresh : ℕ → UInt8) (n : ℕ) : (malloc fresh n).bytes.length = n := by
  simp [malloc]

theorem memcpy_eq_none_iff {b : Block} {pos : ℕ} {src : List UInt8} :
    b.memcpy pos src = none ↔ ¬(b.live ∧ pos + src.length ≤ b.bytes.length) := by
  simp [memcpy]

/-- What a copy changes: the copied range, and neither the length nor the liveness. -/
theorem memcpy_eq_some {b c : Block} {pos : ℕ} {src : List UInt8} (h : b.memcpy pos src = some c) :
    b.live ∧ c.live ∧ c.bytes.length = b.bytes.length ∧ pos + src.length ≤ b.bytes.length ∧
      c.bytes.take (pos + src.length) = b.bytes.take pos ++ src := by
  unfold memcpy at h
  split_ifs at h with hb
  obtain ⟨hlive, hlen⟩ := hb
  obtain rfl := Option.some.inj h
  have hpos : (b.bytes.take pos).length = pos := by rw [List.length_take]; omega
  refine ⟨hlive, hlive, ?_, hlen, ?_⟩
  · simp only [List.length_append, hpos, List.length_drop]
    omega
  · exact List.take_left' (by rw [List.length_append, hpos])

/-- A copy right behind a filled prefix fills a longer prefix. -/
theorem memcpy_extend {b : Block} {filled src : List UInt8} (hlive : b.live)
    (hfilled : b.bytes.take filled.length = filled)
    (hlen : filled.length + src.length ≤ b.bytes.length) :
    ∃ c, b.memcpy filled.length src = some c ∧ c.live ∧ c.bytes.length = b.bytes.length ∧
      c.bytes.take (filled ++ src).length = filled ++ src := by
  obtain ⟨c, hc⟩ := Option.ne_none_iff_exists'.mp
    (mt memcpy_eq_none_iff.mp (not_not.mpr ⟨hlive, hlen⟩))
  obtain ⟨-, hcl, hcn, -, hct⟩ := memcpy_eq_some hc
  refine ⟨c, hc, hcl, hcn, ?_⟩
  rw [List.length_append, hct, hfilled]

/-- A copy behind the first bytes of a live block. -/
theorem memcpy_behind (filled : List UInt8) {rest src : List UInt8} (hlen : src.length ≤ rest.length) :
    memcpy ⟨filled ++ rest, true⟩ filled.length src =
      some ⟨filled ++ (src ++ rest.drop src.length), true⟩ := by
  have hfits : filled.length + src.length ≤ (filled ++ rest).length := by
    rw [List.length_append]
    omega
  unfold memcpy
  rw [if_pos ⟨rfl, hfits⟩, List.take_left, List.drop_append, List.append_assoc]
  simp

/-- A copy over all of a live block. -/
theorem memcpy_whole {b : Block} {src : List UInt8} (hlive : b.live)
    (hlength : src.length = b.bytes.length) : b.memcpy 0 src = some ⟨src, true⟩ := by
  unfold memcpy
  rw [if_pos ⟨hlive, by omega⟩, List.take_zero, List.nil_append, List.drop_of_length_le (by omega),
    List.append_nil, hlive]

/-- Two copies, the second one behind the first. -/
theorem memcpy_append (b : Block) (pos : ℕ) (src src' : List UInt8) :
    (b.memcpy pos src).bind (·.memcpy (pos + src.length) src') = b.memcpy pos (src ++ src') := by
  by_cases hfits : b.live ∧ pos + src.length ≤ b.bytes.length
  · have hhead : (b.bytes.take pos ++ src).length = pos + src.length := by
      rw [List.length_append, List.length_take_of_le (by omega)]
    have hlength : (b.bytes.take pos ++ src ++ b.bytes.drop (pos + src.length)).length =
        b.bytes.length := by
      rw [List.length_append, hhead, List.length_drop]
      omega
    have hwhole : pos + (src ++ src').length = pos + src.length + src'.length := by
      rw [List.length_append]
      omega
    have hrest : (b.bytes.take pos ++ src ++ b.bytes.drop (pos + src.length)).drop
        (pos + src.length + src'.length) = b.bytes.drop (pos + src.length + src'.length) := by
      rw [List.drop_append, List.drop_of_length_le (by omega), hhead, List.nil_append, List.drop_drop]
      congr 1
      omega
    unfold memcpy
    rw [if_pos hfits, Option.bind_some]
    dsimp only
    rw [hlength, hwhole, List.take_left' hhead, hrest]
    simp only [List.append_assoc]
  · have hnone : b.memcpy pos src = none := memcpy_eq_none_iff.mpr hfits
    have hnone' : b.memcpy pos (src ++ src') = none := by
      refine memcpy_eq_none_iff.mpr fun h => hfits ⟨h.1, ?_⟩
      have hle := h.2
      rw [List.length_append] at hle
      omega
    rw [hnone, hnone', Option.bind_none]

/-- A copy to the start of one of the fields of a packed structure. -/
theorem memcpy_field (fields : List (List UInt8)) {i : ℕ} (pos : ℕ) (src : List UInt8)
    (hi : i < fields.length) (hpos : (fields.take i).flatten.length = pos)
    (hsrc : src.length ≤ fields[i].length) :
    memcpy ⟨fields.flatten, true⟩ pos src =
      some ⟨(fields.set i (src ++ fields[i].drop src.length)).flatten, true⟩ := by
  have hfields : fields.flatten =
      (fields.take i).flatten ++ (fields[i] ++ (fields.drop (i + 1)).flatten) := by
    rw [← List.flatten_cons, ← List.drop_eq_getElem_cons hi, ← List.flatten_append,
      List.take_append_drop]
  have hset : (fields.set i (src ++ fields[i].drop src.length)).flatten =
      (fields.take i).flatten ++ (src ++ fields[i].drop src.length ++
        (fields.drop (i + 1)).flatten) := by
    rw [List.set_eq_take_append_cons_drop, if_pos hi, List.flatten_append, List.flatten_cons]
  have hlength : src.length ≤ (fields[i] ++ (fields.drop (i + 1)).flatten).length := by
    rw [List.length_append]
    omega
  subst hpos
  rw [hfields, hset, memcpy_behind _ hlength, List.drop_append_of_le_length hsrc, List.append_assoc]

theorem read_eq {b : Block} {pos n : ℕ} (hlive : b.live) (hlen : pos + n ≤ b.bytes.length) :
    b.read pos n = some ((b.bytes.drop pos).take n) := if_pos ⟨hlive, hlen⟩

end Block
end Mocha.Lib
