import Mocha.Lib.Linked
import Mocha.Lib.Run

/-! The queues that are built on `list_head` (`util.c`), in memory: the functions that register and
unregister an entry, for all five. What `calloc` returns comes with the call. -/
namespace Mocha.Ril.ListHead
open Mocha.Lib

/-- The address of a structure; `none` is a null pointer where there can be one. -/
abbrev Address := ℕ

/-- The variables that point to the first node of a list. -/
inductive ListQueue
  | requests
  | outgoingSms
  | simIo
  | clients
  | gprsConnections
deriving DecidableEq, Repr

/-- The nodes and the entries that are allocated, and the heads. -/
structure ListMemory (ρ : Type) where
  lists : Nodes Address (Option Address)
  entries : Address → Option ρ
  heads : ListQueue → Option Address

section Program

variable {ρ : Type}

def ListMemory.init : ListMemory ρ := ⟨fun _ => none, fun _ => none, fun _ => none⟩

/-- `list_head_alloc`; `list` is what `calloc` returns. -/
def listHeadAlloc (lists : Nodes Address (Option Address)) (list : Address)
    (data prev next : Option Address) : Option (Nodes Address (Option Address)) := do
  let lists : Nodes Address (Option Address) := Function.update lists list (some ⟨prev, next, data⟩)
  let lists ← lists.modify prev fun n => { n with next := some list }
  lists.modify next fun n => { n with prev := some list }

/-- `list_head_free` -/
def listHeadFree (lists : Nodes Address (Option Address)) (list : Option Address) :
    Option (Nodes Address (Option Address)) :=
  match list with
  | none => some lists
  | some l => do
    let node ← lists l
    let lists ← lists.modify node.next fun n => { n with prev := node.prev }
    let node ← lists l
    let lists ← lists.modify node.prev fun n => { n with next := node.next }
    some (Function.update lists l none)

/-- What the five functions do that register an entry: `entry` and `list` are what `calloc` returns for
the record and for the node. -/
def register (q : ListQueue) (fuel : ℕ) (r : ρ) (entry list : Address) (s : ListMemory ρ) :
    Option (ListMemory ρ) := do
  let listEnd ← s.lists.lastNode fuel (s.heads q)
  let lists ← listHeadAlloc s.lists list (some entry) listEnd none
  return {
    lists := lists
    entries := Function.update s.entries entry (some r)
    heads := if s.heads q = none then Function.update s.heads q (some list) else s.heads }

/-- `memset` and `free` of a record -/
def freeEntry (entry : Address) (s : ListMemory ρ) : Option (ListMemory ρ) :=
  if (s.entries entry).isSome then some { s with entries := Function.update s.entries entry none }
  else none

/-- The search for the node of an entry; `release` is done to the record before the node is freed. -/
def unlinkEntry (q : ListQueue) (fuel : ℕ) (entry : Address)
    (release : ListMemory ρ → Option (ListMemory ρ)) (s : ListMemory ρ) : Option (ListMemory ρ) := do
  let found ← s.lists.findNode (fun data => some (data = some entry)) fuel (s.heads q)
  match found with
  | none => some s
  | some list => do
    let s ← release s
    let node ← s.lists list
    let heads := if s.heads q = some list then Function.update s.heads q node.next else s.heads
    let lists ← listHeadFree s.lists (some list)
    return { s with lists := lists, heads := heads }

/-- What four of the five functions do that unregister an entry. -/
def unregister (q : ListQueue) (fuel : ℕ) (entry : Option Address) (s : ListMemory ρ) :
    Option (ListMemory ρ) :=
  match entry with
  | none => some s
  | some entry => unlinkEntry q fuel entry (freeEntry entry) s

def rilRequestRegister (fuel : ℕ) (r : ρ) (entry list : Address) (s : ListMemory ρ) :=
  register .requests fuel r entry list s

def rilRequestUnregister (fuel : ℕ) (entry : Option Address) (s : ListMemory ρ) :=
  unregister .requests fuel entry s

def rilRequestSendSmsRegister (fuel : ℕ) (r : ρ) (entry list : Address) (s : ListMemory ρ) :=
  register .outgoingSms fuel r entry list s

def rilRequestSendSmsUnregister (fuel : ℕ) (entry : Option Address) (s : ListMemory ρ) :=
  unregister .outgoingSms fuel entry s

def rilRequestSimIoRegister (fuel : ℕ) (r : ρ) (entry list : Address) (s : ListMemory ρ) :=
  register .simIo fuel r entry list s

def rilRequestSimIoUnregister (fuel : ℕ) (entry : Option Address) (s : ListMemory ρ) :=
  unregister .simIo fuel entry s

def srsClientRegister (fuel : ℕ) (r : ρ) (entry list : Address) (s : ListMemory ρ) :=
  register .clients fuel r entry list s

def srsClientUnregister (fuel : ℕ) (entry : Option Address) (s : ListMemory ρ) :=
  unregister .clients fuel entry s

def rilGprsConnectionRegister (fuel : ℕ) (r : ρ) (entry list : Address) (s : ListMemory ρ) :=
  register .gprsConnections fuel r entry list s

/-- The thread of the connection is stopped and the record is freed first, whether or not there is a
node for it. -/
def rilGprsConnectionUnregister (fuel : ℕ) (entry : Option Address) (s : ListMemory ρ) :
    Option (ListMemory ρ) :=
  match entry with
  | none => some s
  | some entry => (freeEntry entry s).bind (unlinkEntry .gprsConnections fuel entry some)

end Program

section Nodes

variable {lists : Nodes Address (Option Address)} {xs ys cells : List (Address × Option Address)}
  {c : Address × Option Address}

/-- A new node behind the last one. -/
theorem listHeadAlloc_linked (h : Linked lists none cells none) (hnodup : (cells.map Prod.fst).Nodup)
    (hnew : c.1 ∉ cells.map Prod.fst) : ∃ lists',
      listHeadAlloc lists c.1 c.2 (lastPtr none cells) none = some lists' ∧
        Linked lists' none (cells ++ [c]) none ∧
          ∀ l ∉ cells.map Prod.fst, l ≠ c.1 → lists' l = lists l := by
  obtain ⟨lists', hmodify, hrest⟩ := h.snoc hnodup hnew
  refine ⟨lists', ?_, hrest⟩
  rw [listHeadAlloc]
  exact (congrArg (Option.bind · _) hmodify).trans rfl

/-- A node is left out, and freed. -/
theorem listHeadFree_linked (h : Linked lists none (xs ++ c :: ys) none)
    (hnodup : ((xs ++ c :: ys).map Prod.fst).Nodup) : ∃ lists',
      listHeadFree lists (some c.1) = some lists' ∧ Linked lists' none (xs ++ ys) none ∧
        ∀ l ∉ (xs ++ c :: ys).map Prod.fst, lists' l = lists l := by
  have hperm : (xs ++ c :: ys).Perm (c :: (xs ++ ys)) := List.perm_middle
  obtain ⟨hc, -⟩ := List.nodup_cons.mp ((hperm.map Prod.fst).nodup_iff.mp hnodup)
  have hnode := h.node
  obtain ⟨lists₁, lists₂, hnext, hsame, hprev, hlinked, hrest⟩ := h.unlink hnodup
  have hfree : listHeadFree lists (some c.1) = some (Function.update lists₂ c.1 none) := by
    simp only [listHeadFree, hnode, hnext, hsame, hprev, Option.bind_eq_bind, Option.bind_some]
  refine ⟨_, hfree, hlinked.congr fun l hl => Function.update_of_ne ?_ _ _, fun l hl => ?_⟩
  · rintro rfl
    exact hc hl
  · rw [(hperm.map Prod.fst).mem_iff, List.map_cons, List.mem_cons, not_or] at hl
    rw [Function.update_of_ne hl.1, hrest l hl.2]

end Nodes

section Heads

variable {heads : ListQueue → Option Address} {p q : ListQueue} {v : Option Address} {P : Prop}
  [Decidable P]

theorem ite_update_self : (if P then Function.update heads q v else heads) q = if P then v else heads q := by
  split
  · exact Function.update_self ..
  · rfl

theorem ite_update_of_ne (hp : p ≠ q) : (if P then Function.update heads q v else heads) p = heads p := by
  split
  · exact Function.update_of_ne hp ..
  · rfl

end Heads

section Queue

variable {ρ : Type} {s : ListMemory ρ} {q : ListQueue} {cells xs ys : List (Address × Address)} {fuel : ℕ}
  {entry list : Address}

/-- A node with its entry, as it is in memory. -/
def entryCell (c : Address × Address) : Address × Option Address := (c.1, some c.2)

/-- A queue has these nodes, with these entries. -/
structure Holds (s : ListMemory ρ) (q : ListQueue) (cells : List (Address × Address)) : Prop where
  head : s.heads q = headPtr (cells.map entryCell) none
  linked : Linked s.lists none (cells.map entryCell) none
  nodes_nodup : (cells.map Prod.fst).Nodup
  entries_nodup : (cells.map Prod.snd).Nodup

theorem map_entryCell_fst : (cells.map entryCell).map Prod.fst = cells.map Prod.fst := by
  rw [List.map_map]
  rfl

theorem map_entryCell_snd : (cells.map entryCell).map Prod.snd = (cells.map Prod.snd).map some := by
  rw [List.map_map, List.map_map]
  rfl

/-- Nothing but the head and the nodes of a queue matters to it. -/
theorem Holds.congr {t : ListMemory ρ} (h : Holds s q cells) (hhead : t.heads q = s.heads q)
    (hlists : ∀ l ∈ cells.map Prod.fst, t.lists l = s.lists l) : Holds t q cells where
  head := hhead.trans h.head
  linked := h.linked.congr fun l hl => hlists l (map_entryCell_fst ▸ hl)
  nodes_nodup := h.nodes_nodup
  entries_nodup := h.entries_nodup

theorem Holds.isSome (h : Holds s q cells) {l : Address} (hl : l ∈ cells.map Prod.fst) :
    (s.lists l).isSome := h.linked.isSome (map_entryCell_fst ▸ hl)

/-- A new entry comes behind the others. -/
theorem Holds.register (h : Holds s q cells) (r : ρ) (hlist : s.lists list = none)
    (hentry : entry ∉ cells.map Prod.snd) : ∃ t,
      (∀ fuel, cells.length < fuel → register q fuel r entry list s = some t) ∧
        Holds t q (cells ++ [(list, entry)]) ∧ t.entries = Function.update s.entries entry (some r) ∧
          (∀ p, p ≠ q → t.heads p = s.heads p) ∧
            ∀ l, (s.lists l).isSome → l ∉ cells.map Prod.fst → t.lists l = s.lists l := by
  have hnodup : ((cells.map entryCell).map Prod.fst).Nodup := map_entryCell_fst ▸ h.nodes_nodup
  have hnew : list ∉ (cells.map entryCell).map Prod.fst := by
    intro hmem
    exact Option.not_isSome_iff_eq_none.mpr hlist (h.linked.isSome hmem)
  have hlast : ∀ fuel, cells.length < fuel →
      s.lists.lastNode fuel (s.heads q) = some (lastPtr none (cells.map entryCell)) := by
    intro fuel hfuel
    rw [h.head]
    exact h.linked.lastNode (by rwa [List.length_map])
  obtain ⟨lists, halloc, hlinked, hrest⟩ :=
    listHeadAlloc_linked (c := entryCell (list, entry)) h.linked hnodup hnew
  have hregister : ∀ fuel, cells.length < fuel → ListHead.register q fuel r entry list s = some
      { lists := lists
        entries := Function.update s.entries entry (some r)
        heads := if s.heads q = none then Function.update s.heads q (some list) else s.heads } := by
    intro fuel hfuel
    rw [ListHead.register, hlast fuel hfuel, Option.bind_eq_bind, Option.bind_some]
    exact congrArg (Option.bind · _) halloc
  refine ⟨_, hregister, ⟨?_, ?_, ?_, ?_⟩, rfl, fun p hp => ite_update_of_ne hp, fun l hl hcells => ?_⟩
  · refine ite_update_self.trans ?_
    rw [h.head]
    cases cells with
    | nil => rfl
    | cons c cells => rfl
  · rw [List.map_append]
    exact hlinked
  · rw [List.map_append, List.nodup_append_comm]
    exact List.nodup_cons.mpr ⟨fun hmem => hnew (map_entryCell_fst ▸ hmem), h.nodes_nodup⟩
  · rw [List.map_append, List.nodup_append_comm]
    exact List.nodup_cons.mpr ⟨hentry, h.entries_nodup⟩
  · refine hrest l (fun hmem => hcells (map_entryCell_fst ▸ hmem)) ?_
    rintro rfl
    exact Option.not_isSome_iff_eq_none.mpr hlist hl

/-- The search finds what it would find in the list of the entries. -/
theorem Holds.findNode (h : Holds s q cells) (hfuel : cells.length < fuel)
    {test : Option Address → Option Bool} {p : Address → Bool}
    (htest : ∀ c ∈ cells, test (some c.2) = some (p c.2)) :
    s.lists.findNode test fuel (s.heads q) = some ((cells.find? fun c => p c.2).map Prod.fst) := by
  have hcells : ∀ c ∈ cells.map entryCell, test c.2 = some ((c.2.map p).getD false) := by
    intro c hc
    obtain ⟨d, hd, rfl⟩ := List.mem_map.mp hc
    exact htest d hd
  rw [h.head, h.linked.findNode (by rwa [List.length_map]) hcells, List.find?_map, Option.map_map]
  rfl

theorem Holds.findEntry (h : Holds s q cells) (hfuel : cells.length < fuel) :
    s.lists.findNode (fun data => some (data = some entry)) fuel (s.heads q) =
      some ((cells.find? fun c => c.2 = entry).map Prod.fst) := by
  have htest : ∀ c ∈ cells, some (decide (some c.2 = some entry)) = some (decide (c.2 = entry)) :=
    fun c _ => congrArg some (decide_eq_decide.mpr Option.some_inj)
  exact h.findNode hfuel (p := fun e => e = entry) htest

/-- Nothing happens where the entry is not in the queue. -/
theorem Holds.unlinkEntry_absent (h : Holds s q cells) (hfuel : cells.length < fuel)
    (hentry : entry ∉ cells.map Prod.snd) (release : ListMemory ρ → Option (ListMemory ρ)) :
    unlinkEntry q fuel entry release s = some s := by
  have hfind : (cells.find? fun c => c.2 = entry) = none := by
    rw [List.find?_eq_none]
    intro c hc heq
    exact hentry (List.mem_map.mpr ⟨c, hc, of_decide_eq_true heq⟩)
  rw [unlinkEntry, h.findEntry hfuel, hfind]
  rfl

theorem Holds.find (h : Holds s q (xs ++ (list, entry) :: ys)) :
    ((xs ++ (list, entry) :: ys).find? fun c => c.2 = entry) = some (list, entry) := by
  have hentries := h.entries_nodup
  rw [List.map_append, List.map_cons, List.nodup_append] at hentries
  refine List.find?_eq_some_iff_append.mpr ⟨decide_eq_true rfl, xs, ys, rfl, fun c hc => ?_⟩
  have hne := hentries.2.2 c.2 (List.mem_map_of_mem hc) entry List.mem_cons_self
  rw [decide_eq_false hne]
  rfl

/-- An entry of the queue leaves it, from whatever place. -/
theorem Holds.unlinkEntry (h : Holds s q (xs ++ (list, entry) :: ys))
    (release : ListMemory ρ → Option (ListMemory ρ)) {u : ListMemory ρ} (hrelease : release s = some u)
    (hlists : u.lists = s.lists) (hheads : u.heads = s.heads) : ∃ t,
      (∀ fuel, (xs ++ (list, entry) :: ys).length < fuel → unlinkEntry q fuel entry release s = some t) ∧
        Holds t q (xs ++ ys) ∧ t.entries = u.entries ∧ (∀ p, p ≠ q → t.heads p = s.heads p) ∧
          ∀ l ∉ (xs ++ (list, entry) :: ys).map Prod.fst, t.lists l = s.lists l := by
  have hperm : (xs ++ (list, entry) :: ys).Perm ((list, entry) :: (xs ++ ys)) := List.perm_middle
  obtain ⟨hlist, hnodes⟩ := List.nodup_cons.mp ((hperm.map Prod.fst).nodup_iff.mp h.nodes_nodup)
  obtain ⟨-, hentries⟩ := List.nodup_cons.mp ((hperm.map Prod.snd).nodup_iff.mp h.entries_nodup)
  have hnodup : (((xs ++ (list, entry) :: ys).map entryCell).map Prod.fst).Nodup :=
    map_entryCell_fst ▸ h.nodes_nodup
  have hlinked := h.linked
  rw [List.map_append, List.map_cons] at hnodup hlinked
  have hnode : s.lists list = some
    ⟨lastPtr none (xs.map entryCell), headPtr (ys.map entryCell) none, some entry⟩ := hlinked.node
  obtain ⟨lists, hfree, hleft, hrest⟩ := listHeadFree_linked hlinked hnodup
  have hunlink : ∀ fuel, (xs ++ (list, entry) :: ys).length < fuel →
      ListHead.unlinkEntry q fuel entry release s = some
        { u with
          lists := lists
          heads := if s.heads q = some list
            then Function.update s.heads q (headPtr (ys.map entryCell) none) else s.heads } := by
    intro fuel hfuel
    simp only [ListHead.unlinkEntry, h.findEntry hfuel, h.find, Option.map_some, Option.bind_eq_bind,
      Option.bind_some, hrelease, hlists, hheads, hnode]
    exact congrArg (Option.bind · _) hfree
  refine ⟨_, hunlink, ⟨?_, ?_, hnodes, hentries⟩, rfl, fun p hp => ite_update_of_ne hp, fun l hl => ?_⟩
  · refine ite_update_self.trans ?_
    rw [h.head]
    cases xs with
    | nil => exact if_pos rfl
    | cons d xs =>
      refine if_neg fun heq => hlist (List.mem_map.mpr ⟨d, List.mem_cons_self, ?_⟩)
      exact Option.some.inj heq
  · rw [List.map_append]
    exact hleft
  · refine hrest l fun hmem => hl ?_
    rw [← map_entryCell_fst, List.map_append]
    exact hmem

theorem freeEntry_eq (hentry : (s.entries entry).isSome) :
    freeEntry entry s = some { s with entries := Function.update s.entries entry none } := if_pos hentry

/-- The record of an entry of the queue is freed, and the entry leaves the queue. -/
theorem Holds.unregister (h : Holds s q (xs ++ (list, entry) :: ys))
    (hentry : (s.entries entry).isSome) : ∃ t,
      (∀ fuel, (xs ++ (list, entry) :: ys).length < fuel → unregister q fuel (some entry) s = some t) ∧
        Holds t q (xs ++ ys) ∧ t.entries = Function.update s.entries entry none ∧
          (∀ p, p ≠ q → t.heads p = s.heads p) ∧
            ∀ l ∉ (xs ++ (list, entry) :: ys).map Prod.fst, t.lists l = s.lists l :=
  h.unlinkEntry _ (freeEntry_eq hentry) rfl rfl

theorem Holds.rilGprsConnectionUnregister
    (h : Holds s .gprsConnections (xs ++ (list, entry) :: ys)) (hentry : (s.entries entry).isSome) :
    ∃ t, (∀ fuel, (xs ++ (list, entry) :: ys).length < fuel →
        rilGprsConnectionUnregister fuel (some entry) s = some t) ∧
      Holds t .gprsConnections (xs ++ ys) ∧ t.entries = Function.update s.entries entry none ∧
        (∀ p, p ≠ .gprsConnections → t.heads p = s.heads p) ∧
          ∀ l ∉ (xs ++ (list, entry) :: ys).map Prod.fst, t.lists l = s.lists l := by
  have hfreed : Holds { s with entries := Function.update s.entries entry none } .gprsConnections
    (xs ++ (list, entry) :: ys) := h.congr rfl fun _ _ => rfl
  obtain ⟨t, ht, hrest⟩ := hfreed.unlinkEntry some rfl rfl rfl
  refine ⟨t, fun fuel hfuel => ?_, hrest⟩
  rw [ListHead.rilGprsConnectionUnregister, freeEntry_eq hentry, Option.bind_some]
  exact ht fuel hfuel

end Queue

end Mocha.Ril.ListHead
