import Mocha.Lib.Merge
import Mocha.Ril.Network

/-! The result of a network search (`ipc_network_search_cnf`), with the counter that the size of the
response is taken from, and the array of strings that is filled from the list. Allocations are taken to
succeed. -/
namespace Mocha.Ril
open Mocha.Lib

/-- `ril_net_select_unregister` -/
def rilNetSelectUnregister : List RilNetSelect → List RilNetSelect
  | [] => []
  | _ :: list => rilNetSelectUnregister list

/-- One round of the loop over the entries, with `count`. -/
def countNetwork (m : List RilNetSelect × ℕ) (entry : TapiNetSearchCnf) : List RilNetSelect × ℕ :=
  match rilNetSelectFindPlmn m.1 (decimal entry.plmnDec) with
  | some _ => (addNetwork m.1 entry, m.2)
  | none => (addNetwork m.1 entry, m.2 + 1)

/-- `response[index] = s`, in an array of pointers. -/
def setString (response : List (Option CString)) (index : ℕ) (s : CString) :
    Option (List (Option CString)) :=
  if index < response.length then some (response.set index (some s)) else none

/-- One round of the loop over the list, with `count`. -/
def fillNetwork (m : List (Option CString) × ℕ) (netSelect : RilNetSelect) :
    Option (List (Option CString) × ℕ) := do
  let index := m.2 * 4
  let response ← setString m.1 index netSelect.netSelectEntry.name
  let response ← setString response (index + 1) netSelect.netSelectEntry.name
  let response ← setString response (index + 2) netSelect.plmn
  let response ← setString response (index + 3) netSelect.netSelectEntry.status
  return (response, m.2 + 1)

/-- `ipc_network_search_cnf`, which has no result when a string is put outside the array. -/
def ipcNetworkSearchCnfArray (s : RilData) (entries : List TapiNetSearchCnf) :
    Option (RilData × List RilEffect) := do
  let cleaned := if s.netSelectList ≠ [] then rilNetSelectUnregister s.netSelectList
    else s.netSelectList
  let (netSelectList, count) := entries.foldl countNetwork (cleaned, 0)
  let s := { s with netSelectList := netSelectList }
  if count = 0 then return (s, [.complete ⟨s.tokens.queryAvailNetworks, .success, none⟩])
  else
    let (response, _) ← netSelectList.foldlM fillNetwork (List.replicate (4 * count) none, 0)
    return (s, [.complete ⟨s.tokens.queryAvailNetworks, .success, some (.strings response)⟩])

/-- What an entry is registered as. -/
def TapiNetSearchCnf.netSelect (entry : TapiNetSearchCnf) : RilNetSelect :=
  ⟨decimal entry.plmnDec, entry⟩

def RilNetSelect.systemType (netSelect : RilNetSelect) : ℕ :=
  netSelect.netSelectEntry.systemType.toNat

section List

theorem rilNetSelectUnregister_eq (list : List RilNetSelect) : rilNetSelectUnregister list = [] := by
  induction list with
  | nil => rfl
  | cons netSelect list ih => exact ih

/-- A round merges the entry into the list. -/
theorem addNetwork_eq_merge (netSelectList : List RilNetSelect) (entry : TapiNetSearchCnf) :
    addNetwork netSelectList entry =
      merge RilNetSelect.plmn RilNetSelect.systemType netSelectList entry.netSelect := by
  unfold addNetwork merge
  dsimp only
  cases hfind : findCell? (fun b => RilNetSelect.plmn b = entry.netSelect.plmn) netSelectList with
  | none =>
    have hplmn : rilNetSelectFindPlmn netSelectList (decimal entry.plmnDec) = none := hfind
    rw [hplmn]
    rfl
  | some cell =>
    obtain ⟨i, netSelect⟩ := cell
    obtain ⟨left, right, hfirst, -⟩ := findCell?_eq_some hfind
    have hplmn : rilNetSelectFindPlmn netSelectList (decimal entry.plmnDec) = some (i, netSelect) := hfind
    have hsame : netSelect.plmn = entry.netSelect.plmn := by simpa using hfirst.test
    have hset : { netSelect with netSelectEntry := entry } = entry.netSelect := by rw [hsame]; rfl
    rw [hplmn]
    dsimp only [RilNetSelect.systemType, TapiNetSearchCnf.netSelect]
    simp only [UInt8.lt_iff_toNat_lt]
    rw [hset]
    rfl

theorem foldl_addNetwork (entries : List TapiNetSearchCnf) (netSelectList : List RilNetSelect) :
    entries.foldl addNetwork netSelectList = (entries.map TapiNetSearchCnf.netSelect).foldl
      (merge RilNetSelect.plmn RilNetSelect.systemType) netSelectList := by
  rw [List.foldl_map]
  congr
  funext l entry
  exact addNetwork_eq_merge l entry

/-- The counter is increased when the list grows. -/
theorem countNetwork_eq {m : List RilNetSelect × ℕ} (hcount : m.2 = m.1.length)
    (entry : TapiNetSearchCnf) : (countNetwork m entry).1 = addNetwork m.1 entry ∧
      (countNetwork m entry).2 = (countNetwork m entry).1.length := by
  unfold countNetwork addNetwork
  dsimp only
  cases hfind : rilNetSelectFindPlmn m.1 (decimal entry.plmnDec) with
  | none => exact ⟨rfl, by rw [hcount, List.length_append, List.length_singleton]⟩
  | some cell =>
    dsimp only
    split_ifs
    · exact ⟨rfl, by rw [hcount, List.length_set]⟩
    · exact ⟨rfl, hcount⟩

theorem foldl_countNetwork (entries : List TapiNetSearchCnf) {m : List RilNetSelect × ℕ}
    (hcount : m.2 = m.1.length) : entries.foldl countNetwork m =
      (entries.foldl addNetwork m.1, (entries.foldl addNetwork m.1).length) := by
  induction entries generalizing m with
  | nil => exact Prod.ext rfl hcount
  | cons entry entries ih =>
    obtain ⟨hlist, hnext⟩ := countNetwork_eq hcount entry
    rw [List.foldl_cons, List.foldl_cons, ih hnext, hlist]

end List

section Array

/-- A slot of the network that is filled in. -/
theorem setString_slot {filled : List (Option CString)} {n : ℕ} (hfilled : filled.length = n * 4)
    (before : List (Option CString)) {slot : Option CString} {rest : List (Option CString)}
    (s : CString) : setString (filled ++ (before ++ slot :: rest)) (n * 4 + before.length) s =
      some (filled ++ (before ++ some s :: rest)) := by
  have hindex : n * 4 + before.length = (filled ++ before).length := by
    rw [List.length_append, hfilled]
  unfold setString
  rw [← List.append_assoc, hindex, if_pos (by simp), set_split, List.append_assoc]

/-- One round sets the four strings of a network. -/
theorem fillNetwork_next {filled : List (Option CString)} {n : ℕ} (hfilled : filled.length = n * 4)
    (rest : List (Option CString)) (netSelect : RilNetSelect) :
    fillNetwork (filled ++ none :: none :: none :: none :: rest, n) netSelect =
      some (filled ++ netSelect.response ++ rest, n + 1) := by
  let name := netSelect.netSelectEntry.name
  have h0 : setString (filled ++ none :: none :: none :: none :: rest) (n * 4) name =
      some (filled ++ some name :: none :: none :: none :: rest) := setString_slot hfilled [] name
  have h1 : setString (filled ++ some name :: none :: none :: none :: rest) (n * 4 + 1) name =
      some (filled ++ some name :: some name :: none :: none :: rest) :=
    setString_slot hfilled [some name] name
  have h2 : setString (filled ++ some name :: some name :: none :: none :: rest) (n * 4 + 2)
      netSelect.plmn = some (filled ++ some name :: some name :: some netSelect.plmn :: none :: rest) :=
    setString_slot hfilled [some name, some name] netSelect.plmn
  have h3 : setString (filled ++ some name :: some name :: some netSelect.plmn :: none :: rest)
      (n * 4 + 3) netSelect.netSelectEntry.status = some (filled ++ (netSelect.response ++ rest)) :=
    setString_slot hfilled [some name, some name, some netSelect.plmn] netSelect.netSelectEntry.status
  unfold fillNetwork
  dsimp only
  rw [h0, Option.bind_eq_bind, Option.bind_some, h1, Option.bind_some, h2, Option.bind_some, h3,
    Option.bind_some, List.append_assoc]
  rfl

theorem foldlM_fillNetwork (netSelectList : List RilNetSelect) {filled : List (Option CString)} {n : ℕ}
    (hfilled : filled.length = n * 4) : netSelectList.foldlM fillNetwork
      (filled ++ List.replicate (4 * netSelectList.length) none, n) =
        some (filled ++ netSelectList.flatMap RilNetSelect.response, n + netSelectList.length) := by
  induction netSelectList generalizing filled n with
  | nil => rfl
  | cons netSelect netSelectList ih =>
    have hslots : List.replicate (4 * (netSelect :: netSelectList).length) (none : Option CString) =
        none :: none :: none :: none :: List.replicate (4 * netSelectList.length) none := rfl
    have hlength : (filled ++ netSelect.response).length = (n + 1) * 4 := by
      rw [List.length_append, hfilled, Nat.succ_mul]
      rfl
    rw [List.foldlM_cons, hslots, fillNetwork_next hfilled, Option.bind_eq_bind, Option.bind_some,
      ih hlength, List.flatMap_cons, List.append_assoc, List.length_cons, Nat.add_assoc, Nat.add_comm 1]

end Array

/-- Every string is put inside the array, and none is left out. -/
theorem ipcNetworkSearchCnfArray_eq (s : RilData) (entries : List TapiNetSearchCnf) :
    ipcNetworkSearchCnfArray s entries = some (ipcNetworkSearchCnf s entries) := by
  have hnone : ([] : List (Option CString)).length = 0 * 4 := rfl
  have hfill := foldlM_fillNetwork (entries.foldl addNetwork []) hnone
  rw [List.nil_append, List.nil_append] at hfill
  have hcleaned : (if s.netSelectList ≠ [] then rilNetSelectUnregister s.netSelectList
      else s.netSelectList) = [] := by
    split_ifs with h
    · exact rilNetSelectUnregister_eq s.netSelectList
    · exact not_not.mp h
  unfold ipcNetworkSearchCnfArray ipcNetworkSearchCnf
  dsimp only
  rw [hcleaned, foldl_countNetwork entries (m := ([], 0)) rfl]
  dsimp only
  rw [hfill]
  split_ifs with hcount hnil hnil
  · rfl
  · exact absurd (List.length_eq_zero_iff.mp hcount) hnil
  · exact absurd (List.length_eq_zero_iff.mpr hnil) hcount
  · rfl

/-- **The result of a search**: the list has each network once, with the earliest entry of the largest
system type, and the response has the four strings of each. -/
theorem ipcNetworkSearchCnfArray_merged (s : RilData) (entries : List TapiNetSearchCnf) :
    ∃ netSelectList, Merged RilNetSelect.plmn RilNetSelect.systemType
        (entries.map TapiNetSearchCnf.netSelect) netSelectList ∧
      ipcNetworkSearchCnfArray s entries = some ({ s with netSelectList := netSelectList },
        [.complete ⟨s.tokens.queryAvailNetworks, .success, if netSelectList = [] then none
          else some (.strings (netSelectList.flatMap RilNetSelect.response))⟩]) := by
  have hnil : Merged RilNetSelect.plmn RilNetSelect.systemType [] [] := .nil
  have hmerged := hnil.foldl (entries.map TapiNetSearchCnf.netSelect)
  rw [List.nil_append, ← foldl_addNetwork] at hmerged
  exact ⟨_, hmerged, ipcNetworkSearchCnfArray_eq s entries⟩

end Mocha.Ril
