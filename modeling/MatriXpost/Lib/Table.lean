/-
  File:      MatriXpost/Lib/Table.lean
  Subject:   RELATIONAL TABLES WITH A PRIMARY KEY. Nothing here names a program.

  A `Table key` is a list of rows in insertion order whose keys are pairwise different; the
  invariant is a field, so no operation can return a table that breaks it.

  * `Table.insert` refuses a key that is present (a violated PRIMARY KEY);
  * `Table.upsert` writes the row or, where its key is present, rewrites the row that has it;
    `Table.delete p` drops the rows `p` selects;
  * `Table.update p f` rewrites the rows `p` selects by a function that keeps the key, and
    `Table.count p` is the number of rows such a statement reports;
  * `Table.find?` is the point query. Its value after each of the writes is what every
    later proof reads (`find?_insert`, `find?_update`, `find?_upsert`, `find?_delete`);
  * `count_key`: a statement guarded by the key touches one row or none.
-/
import Mathlib.Data.List.Nodup
import Mathlib.Data.List.Perm.Basic
import Mathlib.Data.List.Count

namespace MatriXpost

/-- Rows in insertion order, no two of them under one key. -/
@[ext] structure Table {ρ κ : Type} (key : ρ → κ) where
  rows : List ρ
  nodup : (rows.map key).Nodup

namespace Table

variable {ρ κ : Type} {key : ρ → κ}

/-! ## 1. The operations -/

/-- The table without rows. -/
def empty : Table key := ⟨[], List.nodup_nil⟩

instance : Inhabited (Table key) := ⟨empty⟩

/-- `SELECT … WHERE key = k`. -/
def find? [DecidableEq κ] (t : Table key) (k : κ) : Option ρ :=
  t.rows.find? fun r => key r = k

/-- `INSERT`: `none` when the key is present. -/
def insert [DecidableEq κ] (t : Table key) (r : ρ) : Option (Table key) :=
  if h : key r ∈ t.rows.map key then none
  else some ⟨t.rows ++ [r], by
    rw [List.map_append, List.map_singleton, List.nodup_append]
    refine ⟨t.nodup, List.nodup_singleton _, fun a ha b hb => ?_⟩
    rw [List.mem_singleton] at hb
    rintro rfl
    exact h (hb ▸ ha)⟩

/-- `UPDATE … SET f WHERE p`, for an assignment that leaves the key alone. -/
def update (t : Table key) (p : ρ → Bool) (f : ρ → ρ) (hf : ∀ r, key (f r) = key r) : Table key :=
  ⟨t.rows.map fun r => if p r then f r else r, by
    have e : (fun r => key (if p r then f r else r)) = key := by
      funext r
      split
      · exact hf r
      · rfl
    rw [List.map_map, Function.comp_def, e]
    exact t.nodup⟩

/-- `INSERT … ON CONFLICT(key) DO UPDATE SET f`. -/
def upsert [DecidableEq κ] (t : Table key) (r : ρ) (f : ρ → ρ) (hf : ∀ r, key (f r) = key r) :
    Table key :=
  (t.insert r).getD (t.update (fun r' => key r' = key r) f hf)

/-- `DELETE … WHERE p`. -/
def delete (t : Table key) (p : ρ → Bool) : Table key :=
  ⟨t.rows.filter fun r => !p r, t.nodup.sublist (List.filter_sublist.map key)⟩

/-- The rows a statement with the condition `p` reports as changed. -/
def count (t : Table key) (p : ρ → Bool) : Nat := t.rows.countP p

/-! ## 2. Point queries -/

variable [DecidableEq κ]

theorem find?_key {t : Table key} {k : κ} {r : ρ} (h : t.find? k = some r) : key r = k := by
  simpa using List.find?_some h

theorem find?_mem {t : Table key} {k : κ} {r : ρ} (h : t.find? k = some r) : r ∈ t.rows :=
  List.mem_of_find?_eq_some h

omit [DecidableEq κ] in
/-- Two rows of a table under one key are one row. -/
theorem eq_of_key {t : Table key} {r r' : ρ} (hr : r ∈ t.rows) (hr' : r' ∈ t.rows)
    (h : key r = key r') : r = r' :=
  List.inj_on_of_nodup_map t.nodup hr hr' h

theorem find?_of_mem {t : Table key} {r : ρ} (hr : r ∈ t.rows) : t.find? (key r) = some r := by
  cases h : t.find? (key r) with
  | none =>
    have hne := List.find?_eq_none.mp h r hr
    simp at hne
  | some r' => rw [eq_of_key hr (find?_mem h) (find?_key h).symm]

theorem find?_eq_some {t : Table key} {k : κ} {r : ρ} :
    t.find? k = some r ↔ r ∈ t.rows ∧ key r = k :=
  ⟨fun h => ⟨find?_mem h, find?_key h⟩, fun ⟨hr, hk⟩ => hk ▸ find?_of_mem hr⟩

theorem find?_eq_none {t : Table key} {k : κ} : t.find? k = none ↔ k ∉ t.rows.map key := by
  simp [find?, List.find?_eq_none]

/-- **A statement guarded by the key touches the row found there, or nothing.** -/
theorem count_key (t : Table key) (k : κ) (q : ρ → Bool) :
    t.count (fun r => decide (key r = k) && q r) = ((t.find? k).any q).toNat := by
  obtain ⟨rows, hn⟩ := t
  simp only [count, find?]
  induction rows with
  | nil => rfl
  | cons r rs ih =>
    rw [List.map_cons, List.nodup_cons] at hn
    by_cases hk : key r = k
    · have hrest : rs.countP (fun r => decide (key r = k) && q r) = 0 := by
        refine List.countP_eq_zero.mpr fun r' hr' hp => hn.1 ?_
        have : key r' = k := by simpa using (Bool.and_eq_true_iff.mp hp).1
        exact hk ▸ this ▸ List.mem_map_of_mem hr'
      cases hq : q r <;> simp [hk, hq, hrest]
    · simpa [hk] using ih hn.2

theorem count_key_eq_one {t : Table key} {k : κ} {q : ρ → Bool} :
    t.count (fun r => decide (key r = k) && q r) = 1 ↔ ∃ r, t.find? k = some r ∧ q r = true := by
  rw [count_key]
  cases h : t.find? k with
  | none => simp
  | some r => cases hq : q r <;> simp [hq]

/-! ## 3. The writes, seen by point queries -/

theorem insert_eq_some {t t' : Table key} {r : ρ} (h : t.insert r = some t') :
    t.find? (key r) = none ∧ t'.rows = t.rows ++ [r] := by
  unfold insert at h
  split at h
  · cases h
  · rename_i hk
    cases h
    exact ⟨find?_eq_none.mpr hk, rfl⟩

/-- A row that was inserted is there. -/
theorem mem_of_insert {t t' : Table key} {r : ρ} (h : t.insert r = some t') : r ∈ t'.rows := by
  rw [(insert_eq_some h).2]
  exact List.mem_append_right _ (List.mem_singleton_self r)

theorem insert_of_find?_none {t : Table key} {r : ρ} (h : t.find? (key r) = none) :
    ∃ t', t.insert r = some t' := by
  unfold insert
  rw [dif_neg (find?_eq_none.mp h)]
  exact ⟨_, rfl⟩

theorem insert_eq_none {t : Table key} {r : ρ} :
    t.insert r = none ↔ ∃ r', t.find? (key r) = some r' := by
  cases h : t.find? (key r) with
  | none =>
    obtain ⟨t', ht'⟩ := insert_of_find?_none h
    simp [ht']
  | some r' =>
    refine ⟨fun _ => ⟨r', rfl⟩, fun _ => ?_⟩
    cases hi : t.insert r with
    | none => rfl
    | some t' => rw [(insert_eq_some hi).1] at h; cases h

/-- What a point query reads after an insert. -/
theorem find?_insert {t t' : Table key} {r : ρ} (h : t.insert r = some t') (k : κ) :
    t'.find? k = if key r = k then some r else t.find? k := by
  obtain ⟨hnone, hrows⟩ := insert_eq_some h
  unfold find? at hnone ⊢
  rw [hrows, List.find?_append]
  by_cases hk : key r = k
  · subst hk
    rw [hnone]
    simp
  · simp [hk]

/-- An insert never hides a row. -/
theorem find?_insert_of_some {t t' : Table key} {r r' : ρ} {k : κ} (h : t.insert r = some t')
    (hk : t.find? k = some r') : t'.find? k = some r' := by
  rw [find?_insert h]
  split
  · rename_i e
    have hnone := (insert_eq_some h).1
    rw [e, hk] at hnone
    cases hnone
  · exact hk

/-- What a point query reads after an update. -/
theorem find?_update (t : Table key) (p : ρ → Bool) (f : ρ → ρ) (hf : ∀ r, key (f r) = key r)
    (k : κ) : (t.update p f hf).find? k = (t.find? k).map fun r => if p r then f r else r := by
  unfold find? update
  rw [List.find?_map]
  congr 2
  funext r
  simp only [Function.comp_apply]
  split
  · rw [hf]
  · rfl

/-- What a point query reads after an upsert. -/
theorem find?_upsert (t : Table key) (r : ρ) (f : ρ → ρ) (hf : ∀ r, key (f r) = key r) (k : κ) :
    (t.upsert r f hf).find? k =
      if key r = k then some ((t.find? k).elim r f) else t.find? k := by
  unfold upsert
  cases hi : t.insert r with
  | some t' =>
    have hnone := (insert_eq_some hi).1
    rw [Option.getD_some, find?_insert hi]
    by_cases hk : key r = k
    · subst hk
      simp [hnone]
    · simp [hk]
  | none =>
    obtain ⟨r', hr'⟩ := insert_eq_none.mp hi
    rw [Option.getD_none, find?_update]
    by_cases hk : key r = k
    · subst hk
      simp [hr', find?_key hr']
    · cases hf' : t.find? k with
      | none => simp [hk]
      | some r₁ =>
        have hne : key r₁ ≠ key r := fun he => hk (he.symm.trans (find?_key hf'))
        simp [hk, hne]

/-- What a point query reads after a delete of one key. -/
theorem find?_delete (t : Table key) (k k' : κ) :
    (t.delete fun r => key r = k).find? k' = if k = k' then none else t.find? k' := by
  unfold find? delete
  rw [List.find?_filter]
  by_cases hk : k = k'
  · simp [hk]
  · rw [if_neg hk]
    congr 1
    funext r
    by_cases hr : key r = k'
    · have hne : key r ≠ k := fun he => hk (he.symm.trans hr)
      simp [hr, Ne.symm hk]
    · simp [hr]

omit [DecidableEq κ] in
theorem update_rows (t : Table key) (p : ρ → Bool) (f : ρ → ρ) (hf : ∀ r, key (f r) = key r) :
    (t.update p f hf).rows = t.rows.map fun r => if p r then f r else r := rfl

omit [DecidableEq κ] in
/-- Two updates that agree on the rows present are one update. -/
theorem update_congr {t : Table key} {p p' : ρ → Bool} {f f' : ρ → ρ}
    {hf : ∀ r, key (f r) = key r} {hf' : ∀ r, key (f' r) = key r}
    (h : ∀ r ∈ t.rows, (if p r then f r else r) = if p' r then f' r else r) :
    t.update p f hf = t.update p' f' hf' :=
  Table.ext (List.map_congr_left h)

omit [DecidableEq κ] in
/-- An update that selects no row changes nothing. -/
theorem update_none {t : Table key} {p : ρ → Bool} {f : ρ → ρ} {hf : ∀ r, key (f r) = key r}
    (h : ∀ r ∈ t.rows, p r = false) : t.update p f hf = t := by
  refine Table.ext ?_
  rw [update_rows]
  refine (List.map_congr_left fun r hr => ?_).trans (List.map_id _)
  simp [h r hr]

omit [DecidableEq κ] in
/-- Two updates in a row, the second selecting by a condition the first assignment keeps, with one
    assignment for both: they are the update of either condition. -/
theorem update_update {t : Table key} {p p' : ρ → Bool} {f : ρ → ρ} {hf : ∀ r, key (f r) = key r}
    (hp : ∀ r ∈ t.rows, p r = true → p' (f r) = false) :
    (t.update p f hf).update p' f hf = t.update (fun r => p r || p' r) f hf := by
  refine Table.ext ?_
  rw [update_rows, update_rows, update_rows, List.map_map]
  refine List.map_congr_left fun r hr => ?_
  cases h : p r with
  | false => simp [h]
  | true => simp [h, hp r hr h]

/-- **An update of one key rewrites the row found there, at its place.** -/
theorem update_at {t : Table key} {k : κ} {r : ρ} {f : ρ → ρ} (hf : ∀ r, key (f r) = key r)
    (h : t.find? k = some r) :
    ∃ before after, t.rows = before ++ r :: after ∧
      (t.update (fun r => decide (key r = k)) f hf).rows = before ++ f r :: after := by
  obtain ⟨before, after, hrows⟩ := List.append_of_mem (find?_mem h)
  have hk := find?_key h
  have hn := t.nodup
  rw [hrows, List.map_append, List.map_cons, List.nodup_middle, List.nodup_cons] at hn
  have hkeep : ∀ rs : List ρ, (∀ r' ∈ rs, key r' ≠ k) →
      rs.map (fun r => if decide (key r = k) = true then f r else r) = rs := by
    intro rs hrs
    refine (List.map_congr_left fun r' hr' => ?_).trans (List.map_id rs)
    simp [hrs r' hr']
  have hne : ∀ r' ∈ before ++ after, key r' ≠ k := by
    intro r' hr' he
    refine hn.1 ?_
    rw [← List.map_append, hk, ← he]
    exact List.mem_map_of_mem hr'
  refine ⟨before, after, hrows, ?_⟩
  rw [update_rows, hrows, List.map_append, List.map_cons,
    hkeep before fun r' hr' => hne r' (List.mem_append_left after hr'),
    hkeep after fun r' hr' => hne r' (List.mem_append_right before hr'), if_pos (by simp [hk])]

omit [DecidableEq κ] in
/-- An update that keeps a condition keeps the number of rows that satisfy it. -/
theorem count_update_of_iff {t : Table key} {p q : ρ → Bool} {f : ρ → ρ}
    (hf : ∀ r, key (f r) = key r) (h : ∀ r ∈ t.rows, p r = true → q (f r) = q r) :
    (t.update p f hf).count q = t.count q := by
  unfold count
  rw [update_rows, List.countP_map]
  refine List.countP_congr fun r hr => ?_
  by_cases hp : p r = true
  · simp [hp, h r hr hp]
  · simp [hp]

end Table

end MatriXpost
