/-
  File:      MatriXpost/Lib/SortedMap.lean
  Subject:   MAPS KEPT AS SORTED ASSOCIATION LISTS. Nothing here names a program.

  A `SortedMap κ ν` is the list of its entries, keys strictly increasing; the order is a field,
  so the entries are what iterating over the map yields.

  * `insert` puts a value under a key, in the place of the one that stood there;
  * `ofPairs` inserts pairs in their order: of two pairs with one key the later counts;
  * `ofPairs_entries`: a map is made again from its own entries. `ofPairs_perm`: pairs with
    different keys are its entries, in their order.
-/
import Mathlib.Order.Defs.LinearOrder
import Mathlib.Data.List.Pairwise
import Mathlib.Order.Lattice

namespace MatriXpost

/-- The entries of a map, by increasing key. -/
@[ext] structure SortedMap (κ ν : Type) [LinearOrder κ] where
  entries : List (κ × ν)
  sorted : entries.Pairwise fun a b => a.1 < b.1

namespace SortedMap

variable {κ ν : Type} [LinearOrder κ]

/-- The place of a key among sorted entries. -/
def insertEntry (k : κ) (v : ν) : List (κ × ν) → List (κ × ν)
  | [] => [(k, v)]
  | e :: rest =>
    if k < e.1 then (k, v) :: e :: rest
    else if k = e.1 then (k, v) :: rest
    else e :: insertEntry k v rest

theorem mem_insertEntry {k : κ} {v : ν} {e : κ × ν} {entries : List (κ × ν)}
    (h : e ∈ insertEntry k v entries) : e = (k, v) ∨ e ∈ entries := by
  induction entries with
  | nil => exact .inl (List.mem_singleton.mp h)
  | cons e' rest ih =>
    unfold insertEntry at h
    split at h
    · exact List.mem_cons.mp h
    split at h
    · exact (List.mem_cons.mp h).imp_right (List.mem_cons_of_mem e')
    · rcases List.mem_cons.mp h with rfl | h
      · exact .inr List.mem_cons_self
      · exact (ih h).imp_right (List.mem_cons_of_mem e')

theorem sorted_insertEntry (k : κ) (v : ν) {entries : List (κ × ν)}
    (h : entries.Pairwise fun a b => a.1 < b.1) :
    (insertEntry k v entries).Pairwise fun a b => a.1 < b.1 := by
  induction entries with
  | nil => exact List.pairwise_singleton _ _
  | cons e rest ih =>
    obtain ⟨hhead, hrest⟩ := List.pairwise_cons.mp h
    unfold insertEntry
    split
    · rename_i hlt
      refine List.pairwise_cons.mpr ⟨fun b hb => ?_, h⟩
      rcases List.mem_cons.mp hb with rfl | hb
      · exact hlt
      · exact lt_trans hlt (hhead b hb)
    split
    · rename_i heq
      exact List.pairwise_cons.mpr ⟨fun b hb => heq ▸ hhead b hb, hrest⟩
    · rename_i hlt hne
      refine List.pairwise_cons.mpr ⟨fun b hb => ?_, ih hrest⟩
      rcases mem_insertEntry hb with rfl | hb
      · exact lt_of_le_of_ne (not_lt.mp hlt) (Ne.symm hne)
      · exact hhead b hb

/-- `insert(k, v)`. -/
def insert (m : SortedMap κ ν) (k : κ) (v : ν) : SortedMap κ ν :=
  ⟨insertEntry k v m.entries, sorted_insertEntry k v m.sorted⟩

def empty : SortedMap κ ν := ⟨[], List.Pairwise.nil⟩

instance : Inhabited (SortedMap κ ν) := ⟨empty⟩

instance [DecidableEq ν] : DecidableEq (SortedMap κ ν) := fun a b =>
  decidable_of_iff (a.entries = b.entries) SortedMap.ext_iff.symm

/-- The pairs inserted one after the other. -/
def ofPairs (pairs : List (κ × ν)) : SortedMap κ ν :=
  pairs.foldl (fun m e => m.insert e.1 e.2) empty

/-- A key above all others goes to the end. -/
theorem insertEntry_append {k : κ} {v : ν} {entries : List (κ × ν)}
    (h : ∀ e ∈ entries, e.1 < k) : insertEntry k v entries = entries ++ [(k, v)] := by
  induction entries with
  | nil => rfl
  | cons e rest ih =>
    have hlt := h e List.mem_cons_self
    rw [insertEntry, if_neg (not_lt_of_gt hlt), if_neg (ne_of_gt hlt),
      ih fun e' he' => h e' (List.mem_cons_of_mem e he'), List.cons_append]

/-- **A map is made again from its own entries.** -/
theorem ofPairs_entries (m : SortedMap κ ν) : ofPairs m.entries = m := by
  suffices hgen : ∀ (rest : List (κ × ν)) (m' : SortedMap κ ν),
      (m'.entries ++ rest).Pairwise (fun a b => a.1 < b.1) →
      (rest.foldl (fun m e => m.insert e.1 e.2) m').entries = m'.entries ++ rest from
    SortedMap.ext (hgen m.entries empty m.sorted)
  intro rest
  induction rest with
  | nil => exact fun m' _ => (List.append_nil _).symm
  | cons e rest ih =>
    intro m' h
    have habove : ∀ e' ∈ m'.entries, e'.1 < e.1 := fun e' he' =>
      (List.pairwise_append.mp h).2.2 e' he' e List.mem_cons_self
    have hinsert : (m'.insert e.1 e.2).entries = m'.entries ++ [e] := insertEntry_append habove
    rw [List.foldl_cons, ih _ (by rw [hinsert, List.append_assoc]; exact h), hinsert,
      List.append_assoc]
    rfl

/-- A new key adds its entry and moves no other. -/
theorem insertEntry_perm {k : κ} {v : ν} {entries : List (κ × ν)} (h : ∀ e ∈ entries, e.1 ≠ k) :
    (insertEntry k v entries).Perm ((k, v) :: entries) := by
  induction entries with
  | nil => exact .refl _
  | cons e rest ih =>
    unfold insertEntry
    split
    · exact .refl _
    split
    · rename_i hkey
      exact absurd hkey.symm (h e List.mem_cons_self)
    · exact ((ih fun e' he' => h e' (List.mem_cons_of_mem e he')).cons e).trans (.swap _ _ _)

/-- **Pairs with different keys are the entries of the map made from them.** -/
theorem ofPairs_perm {pairs : List (κ × ν)} (h : (pairs.map Prod.fst).Nodup) :
    (ofPairs pairs).entries.Perm pairs := by
  suffices hgen : ∀ (rest : List (κ × ν)) (m : SortedMap κ ν),
      ((m.entries ++ rest).map Prod.fst).Nodup →
      (rest.foldl (fun m e => m.insert e.1 e.2) m).entries.Perm (m.entries ++ rest) from
    hgen pairs empty h
  intro rest
  induction rest with
  | nil =>
    intro m _
    rw [List.append_nil]
    exact .refl _
  | cons e rest ih =>
    intro m hnodup
    have hnew : ∀ e' ∈ m.entries, e'.1 ≠ e.1 := by
      rw [List.map_append, List.nodup_append] at hnodup
      intro e' he'
      exact hnodup.2.2 e'.1 (List.mem_map_of_mem he') e.1 (List.mem_map_of_mem List.mem_cons_self)
    have hperm : (m.insert e.1 e.2).entries.Perm (e :: m.entries) := insertEntry_perm hnew
    have hmiddle : ((m.insert e.1 e.2).entries ++ rest).Perm (m.entries ++ e :: rest) :=
      (hperm.append_right rest).trans List.perm_middle.symm
    exact (ih (m.insert e.1 e.2) ((hmiddle.map Prod.fst).nodup_iff.mpr hnodup)).trans hmiddle

end SortedMap

end MatriXpost
