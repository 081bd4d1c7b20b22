import Mathlib.Data.List.Induction
import Mathlib.Data.List.Nodup
import Mathlib.Logic.Function.Basic

/-! Doubly linked lists in memory. A pointer is `none` when it is null, and an access to a node that is
not allocated has no result. -/
namespace Mocha.Lib

variable {ν ε : Type*}

structure Node (ν ε : Type*) where
  prev : Option ν
  next : Option ν
  data : ε

/-- The nodes that are allocated, by their addresses. -/
abbrev Nodes (ν ε : Type*) := ν → Option (Node ν ε)

/-- A pointer to the first of some cells, in front of a pointer. -/
def headPtr : List (ν × ε) → Option ν → Option ν
  | [], after => after
  | c :: _, _ => some c.1

/-- A pointer to the last of some cells, behind a pointer. -/
def lastPtr (before : Option ν) : List (ν × ε) → Option ν
  | [] => before
  | c :: cells => lastPtr (some c.1) cells

/-- The nodes of the cells are linked, between two pointers. -/
def Linked (h : Nodes ν ε) (before : Option ν) : List (ν × ε) → Option ν → Prop
  | [], _ => True
  | c :: cells, after => h c.1 = some ⟨before, headPtr cells after, c.2⟩ ∧ Linked h (some c.1) cells after

namespace Nodes

/-- A change to the node at a pointer, if this is not null. -/
def modify [DecidableEq ν] (h : Nodes ν ε) (p : Option ν) (f : Node ν ε → Node ν ε) :
    Option (Nodes ν ε) :=
  match p with
  | none => some h
  | some l => (h l).map fun n => Function.update h l (some (f n))

/-- The last node, with `next` followed so many times at most. -/
def lastNode (h : Nodes ν ε) : ℕ → Option ν → Option (Option ν)
  | 0, _ => none
  | _ + 1, none => some none
  | fuel + 1, some l =>
    (h l).bind fun n => if n.next.isSome then lastNode h fuel n.next else some (some l)

/-- The first node whose data satisfy a test. -/
def findNode (h : Nodes ν ε) (test : ε → Option Bool) : ℕ → Option ν → Option (Option ν)
  | 0, _ => none
  | _ + 1, none => some none
  | fuel + 1, some l =>
    (h l).bind fun n => (test n.data).bind fun found =>
      if found then some (some l) else findNode h test fuel n.next

/-- All nodes on the way of `next`. -/
def walk (h : Nodes ν ε) : ℕ → Option ν → Option (List (ν × ε))
  | 0, _ => none
  | _ + 1, none => some []
  | fuel + 1, some l => (h l).bind fun n => (walk h fuel n.next).map ((l, n.data) :: ·)

end Nodes

section Pointers

variable {xs ys : List (ν × ε)} {before after : Option ν}

theorem headPtr_append : headPtr (xs ++ ys) after = headPtr xs (headPtr ys after) := by
  cases xs with
  | nil => rfl
  | cons c xs => rfl

theorem lastPtr_append : lastPtr before (xs ++ ys) = lastPtr (lastPtr before xs) ys := by
  induction xs generalizing before with
  | nil => rfl
  | cons c xs ih => exact ih

theorem lastPtr_snoc (c : ν × ε) : lastPtr before (xs ++ [c]) = some c.1 := lastPtr_append

end Pointers

/-- What stands between two lists is left out of them. -/
theorem erase_middle {α : Type*} [BEq α] [LawfulBEq α] {xs ys : List α} {a : α}
    (h : (xs ++ a :: ys).Nodup) : (xs ++ a :: ys).erase a = xs ++ ys := by
  have ha : a ∉ xs := fun ha => (List.nodup_append.mp h).2.2 a ha a List.mem_cons_self rfl
  rw [List.erase_append_right _ ha, List.erase_cons_head]

section Linked

variable {h h' : Nodes ν ε} {xs ys cells : List (ν × ε)} {before after : Option ν} {c : ν × ε}

theorem linked_append : Linked h before (xs ++ ys) after ↔
    Linked h before xs (headPtr ys after) ∧ Linked h (lastPtr before xs) ys after := by
  induction xs generalizing before with
  | nil => exact (and_iff_right trivial).symm
  | cons c xs ih =>
    rw [List.cons_append, Linked, Linked, ih, headPtr_append, and_assoc]
    rfl

/-- Nothing but the nodes of the cells matters. -/
theorem Linked.congr (hlinked : Linked h before cells after)
    (hsame : ∀ l ∈ cells.map Prod.fst, h' l = h l) : Linked h' before cells after := by
  induction cells generalizing before with
  | nil => trivial
  | cons c cells ih =>
    rw [List.map_cons, List.forall_mem_cons] at hsame
    exact ⟨hsame.1.trans hlinked.1, ih hlinked.2 hsame.2⟩

/-- The node of a cell points to its neighbours. -/
theorem Linked.node (hlinked : Linked h before (xs ++ c :: ys) after) :
    h c.1 = some ⟨lastPtr before xs, headPtr ys after, c.2⟩ := (linked_append.mp hlinked).2.1

theorem Linked.isSome (hlinked : Linked h before cells after) {l : ν}
    (hl : l ∈ cells.map Prod.fst) : (h l).isSome := by
  obtain ⟨c, hc, rfl⟩ := List.mem_map.mp hl
  obtain ⟨xs, ys, rfl⟩ := List.append_of_mem hc
  rw [hlinked.node]
  rfl

end Linked

section Search

variable {h : Nodes ν ε} {cells : List (ν × ε)} {before : Option ν} {fuel : ℕ}

theorem Linked.lastNode (hlinked : Linked h before cells none) (hfuel : cells.length < fuel) :
    h.lastNode fuel (headPtr cells none) = some (lastPtr none cells) := by
  induction cells generalizing before fuel with
  | nil =>
    obtain ⟨fuel, rfl⟩ := Nat.exists_eq_add_one.mpr (Nat.zero_lt_of_lt hfuel)
    rfl
  | cons c cells ih =>
    obtain ⟨fuel, rfl⟩ := Nat.exists_eq_add_one.mpr (Nat.zero_lt_of_lt hfuel)
    rw [headPtr, Nodes.lastNode, hlinked.1, Option.bind_some]
    cases cells with
    | nil => rfl
    | cons d cells => exact ih hlinked.2 (Nat.lt_of_succ_lt_succ hfuel)

theorem Linked.walk (hlinked : Linked h before cells none) (hfuel : cells.length < fuel) :
    h.walk fuel (headPtr cells none) = some cells := by
  induction cells generalizing before fuel with
  | nil =>
    obtain ⟨fuel, rfl⟩ := Nat.exists_eq_add_one.mpr (Nat.zero_lt_of_lt hfuel)
    rfl
  | cons c cells ih =>
    obtain ⟨fuel, rfl⟩ := Nat.exists_eq_add_one.mpr (Nat.zero_lt_of_lt hfuel)
    rw [headPtr, Nodes.walk, hlinked.1, Option.bind_some,
      ih hlinked.2 (Nat.lt_of_succ_lt_succ hfuel)]
    rfl

/-- The search finds what it would find in the list of the cells. -/
theorem Linked.findNode (hlinked : Linked h before cells none) (hfuel : cells.length < fuel)
    {test : ε → Option Bool} {p : ν × ε → Bool} (htest : ∀ c ∈ cells, test c.2 = some (p c)) :
    h.findNode test fuel (headPtr cells none) = some ((cells.find? p).map Prod.fst) := by
  induction cells generalizing before fuel with
  | nil =>
    obtain ⟨fuel, rfl⟩ := Nat.exists_eq_add_one.mpr (Nat.zero_lt_of_lt hfuel)
    rfl
  | cons c cells ih =>
    obtain ⟨fuel, rfl⟩ := Nat.exists_eq_add_one.mpr (Nat.zero_lt_of_lt hfuel)
    rw [List.forall_mem_cons] at htest
    rw [headPtr, Nodes.findNode, hlinked.1, Option.bind_some, htest.1,
      Option.bind_some, List.find?_cons]
    cases hp : p c with
    | true => rfl
    | false => exact ih hlinked.2 (Nat.lt_of_succ_lt_succ hfuel) htest.2

end Search

section Change

variable [DecidableEq ν] {h : Nodes ν ε} {xs ys cells : List (ν × ε)} {before : Option ν} {c : ν × ε}

/-- The last node before a pointer gets that pointer. -/
theorem Linked.relinkLast {mid : Option ν} (hlinked : Linked h none xs mid)
    (hnodup : (xs.map Prod.fst).Nodup) (p : Option ν) : ∃ h',
      h.modify (lastPtr none xs) (fun n => { n with next := p }) = some h' ∧ Linked h' none xs p ∧
        ∀ l ∉ xs.map Prod.fst, h' l = h l := by
  induction xs using List.reverseRecOn with
  | nil => exact ⟨h, rfl, trivial, fun _ _ => rfl⟩
  | append_singleton xs c =>
    obtain ⟨hxs, hc, -⟩ := linked_append.mp hlinked
    rw [List.map_append, List.map_singleton, List.nodup_append_comm, List.singleton_append,
      List.nodup_cons] at hnodup
    refine ⟨Function.update h c.1 (some ⟨lastPtr none xs, p, c.2⟩), ?_, ?_, ?_⟩
    · rw [lastPtr_snoc, Nodes.modify, hc]
      rfl
    · refine linked_append.mpr ⟨hxs.congr fun l hl => ?_, ?_, trivial⟩
      · refine Function.update_of_ne ?_ _ _
        rintro rfl
        exact hnodup.1 hl
      · rw [Function.update_self]
        rfl
    · intro l hl
      refine Function.update_of_ne (fun heq => hl ?_) _ _
      rw [List.map_append, List.map_singleton, heq]
      exact List.mem_append_right _ (List.mem_singleton_self _)

/-- The first node behind a pointer gets that pointer. -/
theorem Linked.relinkFirst (hlinked : Linked h before ys none) (hnodup : (ys.map Prod.fst).Nodup)
    (p : Option ν) : ∃ h',
      h.modify (headPtr ys none) (fun n => { n with prev := p }) = some h' ∧ Linked h' p ys none ∧
        ∀ l ∉ ys.map Prod.fst, h' l = h l := by
  cases ys with
  | nil => exact ⟨h, rfl, trivial, fun _ _ => rfl⟩
  | cons c ys =>
    obtain ⟨hc, hys⟩ := hlinked
    rw [List.map_cons, List.nodup_cons] at hnodup
    refine ⟨Function.update h c.1 (some ⟨p, headPtr ys none, c.2⟩), ?_, ⟨?_, ?_⟩, ?_⟩
    · rw [headPtr, Nodes.modify, hc]
      rfl
    · rw [Function.update_self]
    · refine hys.congr fun l hl => Function.update_of_ne ?_ _ _
      rintro rfl
      exact hnodup.1 hl
    · intro l hl
      refine Function.update_of_ne (fun heq => hl ?_) _ _
      rw [List.map_cons, heq]
      exact List.mem_cons_self

/-- A new node behind the last one. -/
theorem Linked.snoc (hlinked : Linked h none cells none) (hnodup : (cells.map Prod.fst).Nodup)
    (hnew : c.1 ∉ cells.map Prod.fst) : ∃ h',
      Nodes.modify (Function.update h c.1 (some ⟨lastPtr none cells, none, c.2⟩)) (lastPtr none cells)
          (fun n => { n with next := some c.1 }) = some h' ∧
        Linked h' none (cells ++ [c]) none ∧
          ∀ l ∉ cells.map Prod.fst, l ≠ c.1 → h' l = h l := by
  have hapart : ∀ l ∈ cells.map Prod.fst, l ≠ c.1 := fun l hl heq => hnew (heq ▸ hl)
  have hupdated : Linked (Function.update h c.1 (some ⟨lastPtr none cells, none, c.2⟩)) none cells none :=
    hlinked.congr fun l hl => Function.update_of_ne (hapart l hl) _ _
  obtain ⟨h', hmodify, hcells, hrest⟩ := hupdated.relinkLast hnodup (some c.1)
  refine ⟨h', hmodify, linked_append.mpr ⟨hcells, ?_, trivial⟩, fun l hl hne => ?_⟩
  · rw [hrest c.1 hnew, Function.update_self]
    rfl
  · rw [hrest l hl, Function.update_of_ne hne]

/-- The neighbours of a node are linked to each other, and the node is left out. -/
theorem Linked.unlink (hlinked : Linked h none (xs ++ c :: ys) none)
    (hnodup : ((xs ++ c :: ys).map Prod.fst).Nodup) : ∃ h₁ h₂,
      h.modify (headPtr ys none) (fun n => { n with prev := lastPtr none xs }) = some h₁ ∧
        h₁ c.1 = h c.1 ∧
        h₁.modify (lastPtr none xs) (fun n => { n with next := headPtr ys none }) = some h₂ ∧
          Linked h₂ none (xs ++ ys) none ∧
            ∀ l ∉ (xs ++ ys).map Prod.fst, h₂ l = h l := by
  obtain ⟨hxs, -, hys⟩ := linked_append.mp hlinked
  rw [List.map_append, List.map_cons, List.nodup_append, List.nodup_cons] at hnodup
  obtain ⟨hxsNodup, ⟨hc, hysNodup⟩, hapart⟩ := hnodup
  have hdisjoint : ∀ l ∈ xs.map Prod.fst, l ∉ ys.map Prod.fst :=
    fun l hl hl' => hapart l hl l (List.mem_cons_of_mem _ hl') rfl
  obtain ⟨h₁, hfirst, hys₁, hrest₁⟩ := hys.relinkFirst hysNodup (lastPtr none xs)
  have hxs₁ : Linked h₁ none xs (some c.1) := hxs.congr fun l hl => hrest₁ l (hdisjoint l hl)
  obtain ⟨h₂, hlast, hxs₂, hrest₂⟩ := hxs₁.relinkLast hxsNodup (headPtr ys none)
  have hys₂ : Linked h₂ (lastPtr none xs) ys none :=
    hys₁.congr fun l hl => hrest₂ l fun hl' => hdisjoint l hl' hl
  refine ⟨h₁, h₂, hfirst, hrest₁ c.1 hc, hlast, linked_append.mpr ⟨hxs₂, hys₂⟩, fun l hl => ?_⟩
  rw [List.map_append, List.mem_append, not_or] at hl
  rw [hrest₂ l hl.1, hrest₁ l hl.2]

end Change

section Visits

variable {h : Nodes ν ε} {cells : List (ν × ε)}

/-- What one sees of a list from its head: `next` leads to each cell once, in order; `prev` is its
inverse; nothing is before the head, or behind the last node. -/
structure Visits (h : Nodes ν ε) (head : Option ν) (cells : List (ν × ε)) : Prop where
  walk : ∀ fuel, cells.length < fuel → h.walk fuel head = some cells
  once : (cells.map Prod.fst).Nodup
  inverse : ∀ a ∈ cells, ∀ b ∈ cells, ∀ n m, h a.1 = some n → h b.1 = some m →
    (n.next = some b.1 ↔ m.prev = some a.1)
  first : ∀ c n, cells.head? = some c → h c.1 = some n → n.prev = none
  last : ∀ c n, cells.getLast? = some c → h c.1 = some n → n.next = none

theorem headPtr_eq_some {l : ν} (hl : headPtr cells none = some l) :
    ∃ c rest, cells = c :: rest ∧ c.1 = l := by
  cases cells with
  | nil => exact nomatch hl
  | cons c rest => exact ⟨c, rest, rfl, Option.some.inj hl⟩

theorem lastPtr_eq_some {l : ν} (hl : lastPtr none cells = some l) :
    ∃ rest c, cells = rest ++ [c] ∧ c.1 = l := by
  induction cells using List.reverseRecOn with
  | nil => exact nomatch hl
  | append_singleton rest c => exact ⟨rest, c, rfl, by rwa [lastPtr_snoc, Option.some.injEq] at hl⟩

/-- Linked nodes are visited as they should be. -/
theorem Linked.visits (hlinked : Linked h none cells none) (hnodup : (cells.map Prod.fst).Nodup) :
    Visits h (headPtr cells none) cells where
  walk _ hfuel := hlinked.walk hfuel
  once := hnodup
  inverse a ha b hb n m hn hm := by
    constructor
    · intro hnext
      obtain ⟨xs, ys, rfl⟩ := List.append_of_mem ha
      obtain rfl := Option.some.inj (hn.symm.trans hlinked.node)
      obtain ⟨d, rest, rfl, hd⟩ := headPtr_eq_some hnext
      rw [List.append_cons] at hlinked
      have hnode := hlinked.node
      rw [hd, hm, lastPtr_snoc] at hnode
      rw [Option.some.inj hnode]
    · intro hprev
      obtain ⟨xs, ys, rfl⟩ := List.append_of_mem hb
      obtain rfl := Option.some.inj (hm.symm.trans hlinked.node)
      obtain ⟨rest, d, rfl, hd⟩ := lastPtr_eq_some hprev
      rw [← List.append_cons] at hlinked
      have hnode := hlinked.node
      rw [hd, hn] at hnode
      rw [Option.some.inj hnode]
      rfl
  first c n hc hn := by
    obtain ⟨ys, rfl⟩ := List.head?_eq_some_iff.mp hc
    rw [Option.some.inj (hn.symm.trans hlinked.1)]
  last c n hc hn := by
    obtain ⟨xs, rfl⟩ := List.getLast?_eq_some_iff.mp hc
    rw [Option.some.inj (hn.symm.trans hlinked.node)]
    rfl

end Visits

end Mocha.Lib
