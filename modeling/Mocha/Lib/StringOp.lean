import Mathlib.Logic.Function.Basic
import Mathlib.Data.List.Basic

/-! The strings in the character arrays of a program, and what `sprintf` and `strcat` make of them. -/
namespace Mocha.Lib

/-- `print` puts a text into an array, and `append` puts one behind the string that the array holds;
`none` is a null pointer. -/
inductive StringOp (β : Type)
  | print (b : β) (text : List UInt8)
  | append (b : β) (text : Option (List UInt8))
deriving DecidableEq, Repr

namespace StringOp

section Run

variable {β : Type}

/-- The array that is written to. -/
def buffer : StringOp β → β
  | print b _ => b
  | append b _ => b

@[simp] theorem buffer_print (b : β) (t : List UInt8) : (print b t).buffer = b := rfl

@[simp] theorem buffer_append (b : β) (t : Option (List UInt8)) : (append b t).buffer = b := rfl

/-- The text that is written. -/
def text : StringOp β → List UInt8
  | print _ t => t
  | append _ t => t.getD []

/-- The string after an operation on an array of `size` characters, one of them for the terminator.
There is none outside the array or for a null pointer. -/
def execOn (size : ℕ) (s : List UInt8) : StringOp β → Option (List UInt8)
  | print _ t => if t.length < size then some t else none
  | append _ none => none
  | append _ (some t) => if s.length + t.length < size then some (s ++ t) else none

/-- The operations on one array, one after the other. -/
def runOn (size : ℕ) (s : List UInt8) (ops : List (StringOp β)) : Option (List UInt8) :=
  ops.foldlM (execOn size) s

variable [DecidableEq β]

/-- An operation on its array, which leaves the others as they are. -/
def exec (size : β → ℕ) (strings : β → List UInt8) (op : StringOp β) : Option (β → List UInt8) :=
  (op.execOn (size op.buffer) (strings op.buffer)).map (Function.update strings op.buffer)

/-- The operations of a program, one after the other. -/
def run (size : β → ℕ) (strings : β → List UInt8) (ops : List (StringOp β)) :
    Option (β → List UInt8) :=
  ops.foldlM (exec size) strings

/-- The operations on the array `b`. -/
def on (b : β) (ops : List (StringOp β)) : List (StringOp β) := ops.filter fun op => op.buffer = b

theorem mem_on {op : StringOp β} {ops : List (StringOp β)} (h : op ∈ ops) : op ∈ on op.buffer ops :=
  List.mem_filter.mpr ⟨h, decide_eq_true rfl⟩

@[simp] theorem on_nil (b : β) : on b [] = [] := rfl

@[simp] theorem on_cons (b : β) (op : StringOp β) (ops : List (StringOp β)) :
    on b (op :: ops) = if op.buffer = b then op :: on b ops else on b ops := by
  simp [on, List.filter_cons]

@[simp] theorem on_append (b : β) (ops ops' : List (StringOp β)) :
    on b (ops ++ ops') = on b ops ++ on b ops' := List.filter_append ..

@[simp] theorem on_ite (b : β) (p : Prop) [Decidable p] (ops ops' : List (StringOp β)) :
    on b (if p then ops else ops') = if p then on b ops else on b ops' := apply_ite ..

variable {size : β → ℕ} {strings strings' : β → List UInt8} {ops : List (StringOp β)}

/-- **The arrays are independent**: a program runs just when its operations on every single array do. -/
theorem run_eq_some_iff : run size strings ops = some strings' ↔
    ∀ b, runOn (size b) (strings b) (on b ops) = some (strings' b) := by
  unfold run runOn
  induction ops generalizing strings with
  | nil =>
    rw [List.foldlM_nil, Option.pure_def, Option.some_inj, funext_iff]
    exact forall_congr' fun b => Option.some_inj.symm
  | cons op ops ih =>
    rw [List.foldlM_cons, exec, Option.bind_eq_bind]
    cases hop : op.execOn (size op.buffer) (strings op.buffer) with
    | none =>
      refine iff_of_false (fun h => by cases h) fun h => ?_
      have hown := h op.buffer
      rw [on_cons, if_pos rfl, List.foldlM_cons, hop] at hown
      cases hown
    | some s =>
      rw [Option.map_some, Option.bind_some, ih]
      apply forall_congr'
      intro b
      rw [on_cons]
      by_cases hb : op.buffer = b
      · subst hb
        rw [Function.update_self, if_pos rfl, List.foldlM_cons, hop, Option.bind_eq_bind,
          Option.bind_some]
      · rw [Function.update_of_ne (Ne.symm hb), if_neg hb]

theorem run_isSome_iff : (run size strings ops).isSome ↔
    ∀ b, (runOn (size b) (strings b) (on b ops)).isSome := by
  constructor
  · intro h b
    obtain ⟨strings', hrun⟩ := Option.isSome_iff_exists.mp h
    rw [run_eq_some_iff.mp hrun b]
    rfl
  · intro h
    rw [run_eq_some_iff.mpr fun b => (Option.some_get (h b)).symm]
    rfl

end Run

section One

variable {β : Type} {b : β} {size : ℕ} {s t : List UInt8} {ops ops' : List (StringOp β)}

theorem runOn_append : runOn size s (ops ++ ops') = runOn size s ops >>= fun s => runOn size s ops' :=
  List.foldlM_append ..

/-- Texts that replace each other have to fit on their own. -/
theorem runOn_prints (hops : ∀ op ∈ ops, ∃ t, op = print b t) :
    (runOn size s ops).isSome ↔ ∀ op ∈ ops, op.text.length < size := by
  induction ops generalizing s with
  | nil => exact iff_of_true rfl fun op hop => absurd hop List.not_mem_nil
  | cons op ops ih =>
    obtain ⟨⟨t, rfl⟩, hrest⟩ := List.forall_mem_cons.mp hops
    rw [List.forall_mem_cons, runOn, List.foldlM_cons, execOn]
    by_cases hfits : t.length < size
    · rw [if_pos hfits]
      exact (ih hrest).trans (and_iff_right hfits).symm
    · rw [if_neg hfits]
      exact iff_of_false (fun h => by cases h) fun h => hfits h.1

/-- What is appended, one text behind the other. -/
def written (ops : List (StringOp β)) : List UInt8 := ops.flatMap text

@[simp] theorem written_nil : written ([] : List (StringOp β)) = [] := rfl

@[simp] theorem written_cons (op : StringOp β) (ops : List (StringOp β)) :
    written (op :: ops) = op.text ++ written ops := List.flatMap_cons

@[simp] theorem written_append (ops ops' : List (StringOp β)) :
    written (ops ++ ops') = written ops ++ written ops' := List.flatMap_append

/-- Every operation appends a text. -/
def Appends (b : β) (ops : List (StringOp β)) : Prop := ∀ op ∈ ops, ∃ t, op = append b (some t)

theorem appends_nil : Appends b [] := fun _ hop => absurd hop List.not_mem_nil

theorem appends_cons {t : List UInt8} : Appends b (append b (some t) :: ops) ↔ Appends b ops :=
  List.forall_mem_cons.trans (and_iff_right ⟨t, rfl⟩)

theorem appends_append : Appends b (ops ++ ops') ↔ Appends b ops ∧ Appends b ops' :=
  List.forall_mem_append

theorem Appends.on_eq [DecidableEq β] (h : Appends b ops) (b' : β) :
    on b' ops = if b = b' then ops else [] := by
  unfold on
  split_ifs with hb
  · rw [List.filter_eq_self]
    intro op hop
    obtain ⟨t, rfl⟩ := h op hop
    exact decide_eq_true hb
  · rw [List.filter_eq_nil_iff]
    intro op hop
    obtain ⟨t, rfl⟩ := h op hop
    exact fun heq => hb (of_decide_eq_true heq)

/-- Texts that are appended have to fit together. -/
theorem runOn_appends (hops : Appends b ops) (hs : s.length < size) :
    runOn size s ops = if s.length + (written ops).length < size then some (s ++ written ops) else none := by
  induction ops generalizing s with
  | nil =>
    rw [written_nil, List.length_nil, Nat.add_zero, if_pos hs, List.append_nil]
    rfl
  | cons op ops ih =>
    obtain ⟨⟨t, rfl⟩, hrest⟩ := List.forall_mem_cons.mp hops
    rw [written_cons, text, Option.getD_some, List.length_append, ← Nat.add_assoc, runOn,
      List.foldlM_cons, execOn]
    by_cases hfits : s.length + t.length < size
    · rw [if_pos hfits, Option.bind_eq_bind, Option.bind_some, ← runOn,
        ih hrest (by rw [List.length_append]; exact hfits), List.length_append, List.append_assoc]
    · rw [if_neg hfits, if_neg (by omega)]
      rfl

/-- A null pointer is not appended. -/
theorem runOn_null (h : append b none ∈ ops) : runOn size s ops = none := by
  obtain ⟨before, behind, rfl⟩ := List.append_of_mem h
  rw [runOn_append, Option.bind_eq_bind]
  cases runOn size s before <;> rfl

end One

section Memory

/-- A text with its terminator at `pos` of a memory. -/
def putString (mem : List UInt8) (pos : ℕ) (t : List UInt8) : List UInt8 :=
  mem.take pos ++ ((t ++ [0]) ++ mem.drop (pos + (t.length + 1)))

variable {mem t : List UInt8} {pos i : ℕ}

theorem putString_length (h : pos + t.length < mem.length) :
    (putString mem pos t).length = mem.length := by
  simp only [putString, List.length_append, List.length_take, List.length_drop, List.length_singleton]
  omega

theorem getElem?_putString_of_outside (h : pos + t.length < mem.length)
    (hi : i < pos ∨ pos + t.length < i) : (putString mem pos t)[i]? = mem[i]? := by
  have hpos : (mem.take pos).length = pos := List.length_take_of_le (by omega)
  unfold putString
  rcases hi with hi | hi
  · rw [List.getElem?_append_left (by omega), List.getElem?_take_of_lt hi]
  · have htext : (t ++ [0]).length ≤ i - pos := by
      rw [List.length_append, List.length_singleton]
      omega
    rw [List.getElem?_append_right (by omega), hpos, List.getElem?_append_right htext,
      List.getElem?_drop, List.length_append, List.length_singleton]
    congr 1
    omega

theorem getElem?_putString (h : pos + t.length < mem.length) (hi : i ≤ t.length) :
    (putString mem pos t)[pos + i]? = (t ++ [0])[i]? := by
  have hpos : (mem.take pos).length = pos := List.length_take_of_le (by omega)
  unfold putString
  rw [List.getElem?_append_right (by omega), hpos, Nat.add_sub_cancel_left, List.getElem?_append_left]
  rw [List.length_append, List.length_singleton]
  omega

/-- The memory holds the string `s`, with its terminator, at `off`. -/
def HoldsAt (mem : List UInt8) (off : ℕ) (s : List UInt8) : Prop :=
  0 ∉ s ∧ ∀ i, i ≤ s.length → mem[off + i]? = (s ++ [0])[i]?

/-- `strlen` -/
def strlen (mem : List UInt8) (off : ℕ) : ℕ := ((mem.drop off).takeWhile (· ≠ 0)).length

theorem HoldsAt.kept {off : ℕ} {s : List UInt8} (h : HoldsAt mem off s) :
    ∀ i, i < s.length → mem[off + i]? = s[i]? := by
  intro i hi
  rw [h.2 i (Nat.le_of_lt hi), List.getElem?_append_left hi]

/-- What can be read at a string: its characters, the terminator, and what stands behind. -/
theorem HoldsAt.drop_eq {off : ℕ} {s : List UInt8} (h : HoldsAt mem off s) :
    mem.drop off = s ++ 0 :: (mem.drop off).drop (s.length + 1) := by
  have hstart : (mem.drop off).take (s.length + 1) = s ++ [0] := by
    apply List.ext_getElem?
    intro i
    by_cases hi : i ≤ s.length
    · rw [List.getElem?_take_of_lt (by omega), List.getElem?_drop, h.2 i hi]
    · rw [List.getElem?_take_eq_none (by omega), List.getElem?_eq_none]
      rw [List.length_append, List.length_singleton]
      omega
  conv_lhs => rw [← List.take_append_drop (s.length + 1) (mem.drop off), hstart, List.append_assoc]
  rfl

theorem HoldsAt.strlen {off : ℕ} {s : List UInt8} (h : HoldsAt mem off s) :
    strlen mem off = s.length := by
  have hne : ∀ c ∈ s, decide (c ≠ 0) = true := by
    intro c hc
    apply decide_eq_true
    rintro rfl
    exact h.1 hc
  rw [StringOp.strlen, h.drop_eq, List.takeWhile_append_of_pos hne,
    List.takeWhile_cons_of_neg (by decide), List.append_nil]

/-- A text behind what is kept of a string makes one string with it. -/
theorem holdsAt_putString {off : ℕ} {s : List UInt8} (hs : 0 ∉ s) (ht : 0 ∉ t)
    (hkept : ∀ i, i < s.length → mem[off + i]? = s[i]?) (h : off + s.length + t.length < mem.length) :
    HoldsAt (putString mem (off + s.length) t) off (s ++ t) := by
  refine ⟨fun hmem => (List.mem_append.mp hmem).elim hs ht, ?_⟩
  intro i hi
  rw [List.length_append] at hi
  rw [List.append_assoc]
  rcases Nat.lt_or_ge i s.length with hlt | hge
  · rw [getElem?_putString_of_outside h (Or.inl (by omega)), hkept i hlt,
      List.getElem?_append_left hlt]
  · obtain ⟨j, rfl⟩ := Nat.exists_eq_add_of_le hge
    rw [← Nat.add_assoc, getElem?_putString h (by omega), List.getElem?_append_right hge,
      Nat.add_sub_cancel_left]

/-- A text elsewhere leaves a string as it is. -/
theorem HoldsAt.putString_of_apart {off : ℕ} {s : List UInt8} (hholds : HoldsAt mem off s)
    (h : pos + t.length < mem.length) (hapart : off + s.length < pos ∨ pos + t.length < off) :
    HoldsAt (putString mem pos t) off s := by
  refine ⟨hholds.1, ?_⟩
  intro i hi
  rw [getElem?_putString_of_outside h (by omega), hholds.2 i hi]

variable {β : Type} [DecidableEq β] {size : β → ℕ} {offset : β → Option ℕ}
  {strings strings' : β → List UInt8} {op : StringOp β} {ops : List (StringOp β)}

/-- An operation on a memory with some of the arrays in it. -/
def store (offset : β → Option ℕ) (mem : List UInt8) (op : StringOp β) : List UInt8 :=
  match offset op.buffer, op with
  | none, _ => mem
  | some off, print _ t => putString mem off t
  | some off, append _ t => putString mem (off + strlen mem off) (t.getD [])

/-- The arrays are in the memory, apart from each other. -/
structure Layout (size : β → ℕ) (offset : β → Option ℕ) (length : ℕ) : Prop where
  inside : ∀ {b off}, offset b = some off → off + size b ≤ length
  apart : ∀ {b b' off off'}, offset b = some off → offset b' = some off' → b ≠ b' →
    off + size b ≤ off' ∨ off' + size b' ≤ off

/-- The arrays hold the strings. -/
def Represents (size : β → ℕ) (offset : β → Option ℕ) (mem : List UInt8)
    (strings : β → List UInt8) : Prop :=
  ∀ b off, offset b = some off → HoldsAt mem off (strings b) ∧ (strings b).length < size b

/-- What an operation writes: its text, behind what it keeps of the string. -/
theorem store_eq {off : ℕ} (hrep : Represents size offset mem strings)
    (hexec : exec size strings op = some strings') (hoff : offset op.buffer = some off) :
    ∃ s, store offset mem op = putString mem (off + s.length) op.text ∧
      strings' = Function.update strings op.buffer (s ++ op.text) ∧
        s.length + op.text.length < size op.buffer ∧ 0 ∉ s ∧ ∀ i, i < s.length → mem[off + i]? = s[i]? := by
  obtain ⟨s', hon, rfl⟩ := Option.map_eq_some_iff.mp hexec
  unfold store
  rw [hoff]
  cases op with
  | print b t =>
    rw [execOn] at hon
    split_ifs at hon with hfits
    obtain rfl := Option.some.inj hon
    refine ⟨[], rfl, rfl, ?_, List.not_mem_nil, fun i hi => absurd hi (Nat.not_lt_zero i)⟩
    rw [List.length_nil, Nat.zero_add]
    exact hfits
  | append b t =>
    obtain ⟨hholds, -⟩ := hrep b off hoff
    cases t with
    | none => cases hon
    | some t =>
      rw [execOn] at hon
      split_ifs at hon with hfits
      obtain rfl := Option.some.inj hon
      exact ⟨strings b, congrArg (putString mem · t) (congrArg (off + ·) hholds.strlen), rfl, hfits,
        hholds.1, hholds.kept⟩

/-- **A step in the memory** follows the step of the strings, and changes no byte elsewhere. -/
theorem store_represents (hlayout : Layout size offset mem.length)
    (hrep : Represents size offset mem strings) (hexec : exec size strings op = some strings')
    (hnull : offset op.buffer ≠ none → 0 ∉ op.text) :
    (store offset mem op).length = mem.length ∧ Represents size offset (store offset mem op) strings' ∧
      ∀ i, (∀ b off, offset b = some off → i < off ∨ off + size b ≤ i) →
        (store offset mem op)[i]? = mem[i]? := by
  cases hoff : offset op.buffer with
  | none =>
    have hstore : store offset mem op = mem := by
      unfold store
      rw [hoff]
    obtain ⟨s', -, rfl⟩ := Option.map_eq_some_iff.mp hexec
    rw [hstore]
    refine ⟨rfl, ?_, fun i _ => rfl⟩
    intro b off hb
    have hne : b ≠ op.buffer := by
      rintro rfl
      rw [hoff] at hb
      cases hb
    rw [Function.update_of_ne hne]
    exact hrep b off hb
  | some off =>
    obtain ⟨s, hstore, rfl, hfits, hzero, hkept⟩ := store_eq hrep hexec hoff
    have hinside := hlayout.inside hoff
    have hroom : off + s.length + op.text.length < mem.length := by omega
    have htext : 0 ∉ op.text := hnull (by rw [hoff]; exact Option.some_ne_none off)
    rw [hstore]
    refine ⟨putString_length hroom, ?_, ?_⟩
    · intro b off' hb
      by_cases hself : b = op.buffer
      · subst hself
        obtain rfl := Option.some.inj (hoff.symm.trans hb)
        rw [Function.update_self, List.length_append]
        exact ⟨holdsAt_putString hzero htext hkept hroom, hfits⟩
      · obtain ⟨hholds, hlength⟩ := hrep b off' hb
        have hapart := hlayout.apart hb hoff hself
        rw [Function.update_of_ne hself]
        exact ⟨hholds.putString_of_apart hroom (by omega), hlength⟩
    · intro i hi
      have hout := hi op.buffer off hoff
      exact getElem?_putString_of_outside hroom (by omega)

/-- **A run in the memory** follows the run of the strings, and changes no byte elsewhere. -/
theorem foldl_store_represents (hlayout : Layout size offset mem.length)
    (hrep : Represents size offset mem strings) (hrun : run size strings ops = some strings')
    (hnull : ∀ op ∈ ops, offset op.buffer ≠ none → 0 ∉ op.text) :
    Represents size offset (ops.foldl (store offset) mem) strings' ∧
      ∀ i, (∀ b off, offset b = some off → i < off ∨ off + size b ≤ i) →
        (ops.foldl (store offset) mem)[i]? = mem[i]? := by
  induction ops generalizing mem strings with
  | nil =>
    obtain rfl := Option.some.inj hrun
    exact ⟨hrep, fun i _ => rfl⟩
  | cons op ops ih =>
    obtain ⟨hop, hops⟩ := List.forall_mem_cons.mp hnull
    rw [run, List.foldlM_cons, Option.bind_eq_bind] at hrun
    obtain ⟨between, hexec, hrest⟩ := Option.bind_eq_some_iff.mp hrun
    obtain ⟨hlength, hrep', hframe⟩ := store_represents hlayout hrep hexec hop
    obtain ⟨hfinal, hframe'⟩ := ih (hlength ▸ hlayout) hrep' hrest hops
    exact ⟨hfinal, fun i hi => (hframe' i hi).trans (hframe i hi)⟩

end Memory

end StringOp
end Mocha.Lib
