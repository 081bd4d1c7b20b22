import Mocha.Ril.Gsm7Inverse

/-! The bytes that `gsm72ascii` and `ascii2gsm7` read and write. The buffers are modelled with the
cells that are allocated only, so the updates are listed with the index that the code computes. -/
namespace Mocha.Ril
open Mocha.Lib

/-- Every update is of a byte of a buffer of that length. -/
def InBuffer (length : ℕ) (updates : List (ℤ × UInt8)) : Prop :=
  ∀ p ∈ updates, 0 ≤ p.1 ∧ p.1 < length

instance (length : ℕ) (updates : List (ℤ × UInt8)) : Decidable (InBuffer length updates) :=
  inferInstanceAs (Decidable (∀ p ∈ updates, 0 ≤ p.1 ∧ p.1 < length))

theorem inBuffer_nil (length : ℕ) : InBuffer length [] := fun _ hp => absurd hp List.not_mem_nil

theorem inBuffer_append {length : ℕ} {updates updates' : List (ℤ × UInt8)} :
    InBuffer length (updates ++ updates') ↔ InBuffer length updates ∧ InBuffer length updates' :=
  List.forall_mem_append

/-- The updates of a buffer, one after the other. -/
def updateAll (update : List UInt8 → ℕ → UInt8 → Option (List UInt8))
    (updates : List (ℤ × UInt8)) (buffer : List UInt8) : Option (List UInt8) :=
  updates.foldlM (fun buffer p => update buffer p.1.toNat p.2) buffer

section Decoder

/-- The updates of the body of the loop of `gsm72ascii`, for byte `i` of the octets. -/
def gsm72asciiStepUpdates (i o : ℕ) (b : UInt8) : List (ℤ × UInt8) :=
  let d := 7 - i % 7
  let t := b.toNat - ((b.toNat >>> d &&& 0xff) <<< d)
  let u := b.toNat >>> d &&& 0xff
  ((i + o : ℕ), UInt8.ofNat (t <<< ((i + o) % 8))) ::
    if u ≠ 0 then [((i + 1 + o : ℕ), UInt8.ofNat u)] else []

/-- The updates of the loop of `gsm72ascii`, from byte `i` on. -/
def gsm72asciiUpdates : List UInt8 → ℕ → ℕ → List (ℤ × UInt8)
  | [], _, _ => []
  | b :: gsm7, i, o =>
    let o := if 7 - i % 7 = 7 ∧ i ≠ 0 then o + 1 else o
    gsm72asciiStepUpdates i o b ++ gsm72asciiUpdates gsm7 (i + 1) o

variable {dec : List UInt8} {b : UInt8} {i o : ℕ}

theorem gsm72asciiStep_updates :
    gsm72asciiStep dec i o b = updateAll addAt (gsm72asciiStepUpdates i o b) dec := by
  unfold gsm72asciiStep gsm72asciiStepUpdates updateAll
  extract_lets d t u
  rw [List.foldlM_cons]
  apply bind_congr
  intro dec'
  split_ifs
  · exact (bind_pure _).symm
  · rfl

theorem gsm72asciiLoop_updates (gsm7 : List UInt8) :
    gsm72asciiLoop gsm7 i o dec = updateAll addAt (gsm72asciiUpdates gsm7 i o) dec := by
  induction gsm7 generalizing i o dec with
  | nil => rfl
  | cons b gsm7 ih =>
    rw [gsm72asciiLoop, gsm72asciiUpdates, updateAll, List.foldlM_append]
    exact (congrArg (· >>= _) gsm72asciiStep_updates).trans (bind_congr fun _ => ih)

/-- `gsm72ascii` makes its updates in a buffer of as many bytes as there are whole septets. -/
theorem gsm72ascii_updates (gsm7 : List UInt8) : gsm72ascii gsm7 =
    updateAll addAt (gsm72asciiUpdates gsm7 0 0) (List.replicate (8 * gsm7.length / 7) 0) := by
  have hlength : (gsm7.length * 8 - gsm7.length * 8 % 7) / 7 = 8 * gsm7.length / 7 := by omega
  rw [gsm72ascii, hlength]
  exact gsm72asciiLoop_updates gsm7

theorem inBuffer_gsm72asciiStepUpdates {length : ℕ} :
    InBuffer length (gsm72asciiStepUpdates i o b) ↔
      i + o < length ∧ (b.toNat >>> (7 - i % 7) ≠ 0 → i + 1 + o < length) := by
  have hu : b.toNat >>> (7 - i % 7) &&& 0xff = b.toNat >>> (7 - i % 7) := by
    have hle : b.toNat >>> (7 - i % 7) ≤ b.toNat := Nat.shiftRight_le ..
    have hb := b.toNat_lt
    show _ &&& 2 ^ 8 - 1 = _
    rw [Nat.and_two_pow_sub_one_eq_mod, Nat.mod_eq_of_lt (by omega)]
  unfold InBuffer gsm72asciiStepUpdates
  extract_lets d t u
  rw [List.forall_mem_cons, show u = b.toNat >>> (7 - i % 7) from hu]
  refine and_congr (by omega) ?_
  split_ifs with hzero
  · rw [List.forall_mem_singleton]
    omega
  · exact iff_of_true (inBuffer_nil length) fun hne => absurd hne hzero

/-- The second byte of a step is missing for the last octet alone, and only if its highest bits
complete no septet. -/
theorem inBuffer_gsm72asciiUpdates (gsm7 : List UInt8) :
    InBuffer (8 * (i + gsm7.length) / 7) (gsm72asciiUpdates gsm7 i ((i - 1) / 7)) ↔
      ∀ c ∈ gsm7.getLast?, c.toNat >>> (8 - (i + gsm7.length) % 7) = 0 := by
  induction gsm7 generalizing i with
  | nil => exact iff_of_true (inBuffer_nil _) fun c hc => absurd hc (Option.not_mem_none c)
  | cons b gsm7 ih =>
    have ho : (if 7 - i % 7 = 7 ∧ i ≠ 0 then (i - 1) / 7 + 1 else (i - 1) / 7) = i / 7 := by
      split_ifs <;> omega
    have hrest := ih (i := i + 1)
    rw [Nat.add_sub_cancel, Nat.add_right_comm i 1, Nat.add_assoc i, ← List.length_cons (a := b)]
      at hrest
    have hroom : 8 * (i + 1) / 7 = i + 1 + (i + 1) / 7 := by omega
    rw [gsm72asciiUpdates, ho, inBuffer_append, inBuffer_gsm72asciiStepUpdates, hrest]
    cases gsm7 with
    | nil =>
      rw [List.getLast?_singleton, List.length_singleton, hroom]
      simp only [List.getLast?_nil, Option.not_mem_none, false_implies, implies_true, and_true,
        Option.mem_some_iff, forall_eq']
      by_cases hwhole : (i + 1) % 7 = 0
      · have hb : b.toNat >>> 8 = 0 := by
          rw [Nat.shiftRight_eq_div_pow]
          exact Nat.div_eq_of_lt b.toNat_lt
        rw [hwhole]
        exact iff_of_true ⟨by omega, fun _ => by omega⟩ hb
      · rw [show 8 - (i + 1) % 7 = 7 - i % 7 by omega]
        constructor
        · rintro ⟨-, hsecond⟩
          by_contra hne
          have hlt := hsecond hne
          omega
        · intro hzero
          exact ⟨by omega, fun hne => absurd hzero hne⟩
    | cons c gsm7 =>
      rw [List.getLast?_cons_cons]
      apply and_iff_right
      rw [List.length_cons, List.length_cons]
      exact ⟨by omega, fun _ => by omega⟩

end Decoder

section Encoder

/-- The updates of the body of the loop of `ascii2gsm7`, for character `i`. -/
def ascii2gsm7StepUpdates (i : ℕ) (c : UInt8) : List (ℤ × UInt8) :=
  let dOff := i % 8
  let dPos := (i * 7 - i * 7 % 8) / 8 + if 0 < i * 7 % 8 then 1 else 0
  let aOff := 8 - dOff
  let aPos := (dPos : ℤ) - 1
  [((dPos : ℤ), UInt8.ofNat (c.toNat >>> dOff)), (aPos, UInt8.ofNat (c.toNat <<< aOff))]

/-- The updates of the loop of `ascii2gsm7`, from character `i` on. -/
def ascii2gsm7Updates : List UInt8 → ℕ → List (ℤ × UInt8)
  | [], _ => []
  | c :: ascii, i => ascii2gsm7StepUpdates i c ++ ascii2gsm7Updates ascii (i + 1)

variable {enc : List UInt8} {i : ℕ}

/-- The model or's what belongs in front of the buffer into its first byte, which keeps it. -/
theorem ascii2gsm7Step_updates (c : UInt8) :
    ascii2gsm7Step enc i c = updateAll orAt (ascii2gsm7StepUpdates i c) enc := by
  unfold ascii2gsm7Step ascii2gsm7StepUpdates updateAll
  extract_lets dOff dPos aOff aPos
  have haPos : aPos.toNat = dPos - 1 := by omega
  rw [List.foldlM_cons]
  apply bind_congr
  intro enc'
  rw [List.foldlM_cons, haPos]
  exact (bind_pure _).symm

theorem ascii2gsm7Loop_updates (ascii : List UInt8) :
    ascii2gsm7Loop ascii i enc = updateAll orAt (ascii2gsm7Updates ascii i) enc := by
  induction ascii generalizing i enc with
  | nil => rfl
  | cons c ascii ih =>
    rw [ascii2gsm7Loop, ascii2gsm7Updates, updateAll, List.foldlM_append]
    exact (congrArg (· >>= _) (ascii2gsm7Step_updates c)).trans (bind_congr fun _ => ih)

/-- `ascii2gsm7` makes its updates in a buffer of as many bytes as the septets begin. -/
theorem ascii2gsm7_updates (ascii : List UInt8) : ascii2gsm7 ascii =
    updateAll orAt (ascii2gsm7Updates ascii 0)
      (List.replicate ((7 * ascii.length + 7) / 8) 0) := by
  rw [ascii2gsm7, ascii2gsm7_length]
  exact ascii2gsm7Loop_updates ascii

/-- An update outside the buffer, in front of it or behind it, is of no bit. -/
theorem ascii2gsm7Updates_outside {ascii : List UInt8} (hascii : IsDigits 128 ascii) {p : ℤ × UInt8}
    (hp : p ∈ ascii2gsm7Updates ascii i) :
    0 ≤ p.1 ∧ p.1 < ((7 * (i + ascii.length) + 7) / 8 : ℕ) ∨ p.2 = 0 := by
  induction ascii generalizing i with
  | nil => cases hp
  | cons c ascii ih =>
    have hc : c.toNat < 128 := hascii c List.mem_cons_self
    rw [ascii2gsm7Updates, ascii2gsm7StepUpdates, ascii2gsm7_dPos, List.cons_append,
      List.cons_append, List.mem_cons, List.mem_cons] at hp
    rw [List.length_cons]
    rcases hp with rfl | rfl | hp
    · by_cases hlast : i % 8 = 7
      · right
        rw [hlast, Nat.shiftRight_eq_div_pow, Nat.div_eq_of_lt hc]
        rfl
      · left
        dsimp only
        omega
    · by_cases hfirst : i = 0
      · right
        subst hfirst
        apply UInt8.toNat_inj.mp
        rw [UInt8.toNat_ofNat', Nat.shiftLeft_eq]
        exact Nat.mul_mod_left ..
      · left
        dsimp only
        omega
    · have hrest := ih (fun d hd => hascii d (List.mem_cons_of_mem c hd)) hp
      rwa [Nat.add_right_comm i 1] at hrest

theorem inBuffer_ascii2gsm7Updates {length : ℕ} (ascii : List UInt8) :
    InBuffer length (ascii2gsm7Updates ascii 0) ↔ ascii = [] := by
  cases ascii with
  | nil => exact iff_of_true (inBuffer_nil length) rfl
  | cons c ascii =>
    refine iff_of_false (fun h => ?_) (List.cons_ne_nil c ascii)
    -- The first character has no octet in front of it.
    have hfront : (0 : ℤ) ≤ -1 :=
      (h (-1, UInt8.ofNat (c.toNat <<< 8)) (List.mem_cons_of_mem _ List.mem_cons_self)).1
    exact absurd hfront (by decide)

end Encoder

/-- **The indices** of the output stay inside it for octets with no bit in excess, and for no
character at all. -/
theorem accesses_inBuffer_iff (gsm7 ascii : List UInt8) :
    (InBuffer (8 * gsm7.length / 7) (gsm72asciiUpdates gsm7 0 0) ↔ UnusedBitsZero gsm7) ∧
    (InBuffer ((7 * ascii.length + 7) / 8) (ascii2gsm7Updates ascii 0) ↔ ascii = []) := by
  refine ⟨?_, inBuffer_ascii2gsm7Updates ascii⟩
  have hdec := inBuffer_gsm72asciiUpdates (i := 0) gsm7
  rwa [Nat.zero_add] at hdec

/-- The highest bit of a single octet and the first character of a string. -/
theorem not_accesses_inBuffer :
    ¬((∀ gsm7, InBuffer (8 * gsm7.length / 7) (gsm72asciiUpdates gsm7 0 0)) ∧
      ∀ ascii, IsDigits 128 ascii →
        InBuffer ((7 * ascii.length + 7) / 8) (ascii2gsm7Updates ascii 0)) ∧
    ¬InBuffer (8 * 1 / 7) (gsm72asciiUpdates [0x80] 0 0) ∧
    ¬InBuffer ((7 * 1 + 7) / 8) (ascii2gsm7Updates [0x41] 0) := by
  have hdec : ¬InBuffer (8 * 1 / 7) (gsm72asciiUpdates [0x80] 0 0) := by decide
  have henc : ¬InBuffer ((7 * 1 + 7) / 8) (ascii2gsm7Updates [0x41] 0) := by decide
  exact ⟨fun h => hdec (h.1 [0x80]), hdec, henc⟩

end Mocha.Ril
