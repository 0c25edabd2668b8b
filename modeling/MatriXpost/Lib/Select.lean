/-
  File:      MatriXpost/Lib/Select.lean
  Subject:   SELECT … WHERE p ORDER BY key LIMIT n. Nothing here names a program.

  The chosen rows are rows that satisfy `p` (`mem_select`), in order (`select_sorted`), at most
  `limit` of them (`length_select`), and nothing that satisfies `p` and comes before one of them
  is left out (`select_before`). `countP_select` and `countP_without` count what is chosen and what
  is left.

  Section 2 is about reading the rows: `mapM_ok_iff` says when every row can be read.
-/
import Mathlib.Data.List.Sort
import Mathlib.Data.List.Perm.Subperm

namespace MatriXpost

/-! ## 1. Choosing rows -/

section Select

variable {ρ κ : Type} [LinearOrder κ]

/-- `SELECT … WHERE p ORDER BY key` over the rows of a table. -/
def orderBy (p : ρ → Bool) (key : ρ → κ) (rows : List ρ) : List ρ :=
  (rows.filter p).insertionSort fun a b => key a ≤ key b

/-- `SELECT … WHERE p ORDER BY key LIMIT limit` over the rows of a table. -/
def select (p : ρ → Bool) (key : ρ → κ) (limit : Nat) (rows : List ρ) : List ρ :=
  ((rows.filter p).insertionSort fun a b => key a ≤ key b).take limit

variable {p : ρ → Bool} {key : ρ → κ} {limit : Nat} {rows : List ρ}

/-- The rows in their order, before LIMIT. -/
theorem ordered_perm (p : ρ → Bool) (key : ρ → κ) (rows : List ρ) :
    ((rows.filter p).insertionSort fun a b => key a ≤ key b).Perm (rows.filter p) :=
  List.perm_insertionSort _ _

theorem ordered_sorted (p : ρ → Bool) (key : ρ → κ) (rows : List ρ) :
    ((rows.filter p).insertionSort fun a b => key a ≤ key b).Pairwise fun a b => key a ≤ key b := by
  have : Std.Total fun a b : ρ => key a ≤ key b := ⟨fun a b => le_total (key a) (key b)⟩
  have : IsTrans ρ fun a b => key a ≤ key b := ⟨fun _ _ _ => le_trans⟩
  exact List.pairwise_insertionSort _ _

theorem orderBy_perm (p : ρ → Bool) (key : ρ → κ) (rows : List ρ) :
    (orderBy p key rows).Perm (rows.filter p) := ordered_perm p key rows

theorem mem_select {r : ρ} (h : r ∈ select p key limit rows) : r ∈ rows ∧ p r = true :=
  List.mem_filter.mp ((ordered_perm p key rows).mem_iff.mp (List.mem_of_mem_take h))

theorem select_sorted :
    (select p key limit rows).Pairwise fun a b => key a ≤ key b :=
  (ordered_sorted p key rows).sublist (List.take_sublist _ _)

theorem length_select : (select p key limit rows).length = min limit (rows.countP p) := by
  rw [select, List.length_take, (ordered_perm p key rows).length_eq, List.countP_eq_length_filter]

/-- Distinct rows are chosen once. -/
theorem select_nodup {κ' : Type} {name : ρ → κ'} (h : (rows.map name).Nodup) :
    ((select p key limit rows).map name).Nodup := by
  have hf : ((rows.filter p).map name).Nodup :=
    List.Nodup.sublist (List.Sublist.map name List.filter_sublist) h
  have hs := (ordered_perm p key rows).map name
  exact List.Nodup.sublist ((List.take_sublist limit _).map name) (hs.nodup_iff.mpr hf)

/-- **A row left out comes after every row chosen, and only because LIMIT was reached.** -/
theorem select_before {r : ρ} (hr : r ∈ rows) (hp : p r = true)
    (hout : r ∉ select p key limit rows) :
    (select p key limit rows).length = limit ∧
      ∀ r' ∈ select p key limit rows, key r' ≤ key r := by
  unfold select at hout ⊢
  have hmem : r ∈ (rows.filter p).insertionSort fun a b => key a ≤ key b :=
    (ordered_perm p key rows).mem_iff.mpr (List.mem_filter.mpr ⟨hr, hp⟩)
  have hsorted := ordered_sorted p key rows
  generalize (rows.filter p).insertionSort (fun a b => key a ≤ key b) = l at hmem hout hsorted ⊢
  rw [← List.take_append_drop limit l] at hmem hsorted
  have hdrop : r ∈ l.drop limit := (List.mem_append.mp hmem).resolve_left hout
  constructor
  · have hlt : limit < l.length := by
      by_contra hle
      rw [List.drop_eq_nil_of_le (by omega)] at hdrop
      cases hdrop
    rw [List.length_take]
    omega
  · intro r' hr'
    exact (List.pairwise_append.mp hsorted).2.2 r' hr' r hdrop

/-- A condition met by a first part of a list only is met by its prefixes as far as they go. -/
theorem countP_take {q : ρ → Bool} {l : List ρ} (h : l.Pairwise fun a b => q b = true → q a = true)
    (n : Nat) : (l.take n).countP q = min n (l.countP q) := by
  induction l generalizing n with
  | nil => simp
  | cons a rest ih =>
    rw [List.pairwise_cons] at h
    cases n with
    | zero => simp
    | succ n =>
      rw [List.take_succ_cons]
      by_cases ha : q a = true
      · rw [List.countP_cons_of_pos ha, List.countP_cons_of_pos ha, ih h.2]
        omega
      · have hrest : rest.countP q = 0 :=
          List.countP_eq_zero.mpr fun b hb hq => ha (h.1 b hb hq)
        rw [List.countP_cons_of_neg ha, List.countP_cons_of_neg ha, ih h.2, hrest]
        omega

/-- **Of the rows that come first in the order, the chosen are as many as the limit allows.** -/
theorem countP_select {q : ρ → Bool} (hq : ∀ r ∈ rows, q r = true → p r = true)
    (hclosed : ∀ r ∈ rows, ∀ r' ∈ rows, p r' = true → q r = true → key r' ≤ key r → q r' = true) :
    (select p key limit rows).countP q = min limit (rows.countP q) := by
  have hmem : ∀ r ∈ (rows.filter p).insertionSort fun a b => key a ≤ key b,
      r ∈ rows ∧ p r = true := fun r hr =>
    List.mem_filter.mp ((ordered_perm p key rows).mem_iff.mp hr)
  have hfirst : ((rows.filter p).insertionSort fun a b => key a ≤ key b).Pairwise
      fun a b => q b = true → q a = true := by
    refine (ordered_sorted p key rows).imp_of_mem fun {a b} ha hb hle hqb => ?_
    exact hclosed b (hmem b hb).1 a (hmem a ha).1 (hmem a ha).2 hqb hle
  rw [select, countP_take hfirst, (ordered_perm p key rows).countP_eq, List.countP_filter]
  congr 1
  refine List.countP_congr fun r hr => ?_
  simpa using hq r hr

/-- **What the chosen rows leave.** -/
theorem countP_without {κ' : Type} [DecidableEq κ'] {name : ρ → κ'} {chosen : List ρ}
    (hrows : (rows.map name).Nodup) (hchosen : (chosen.map name).Nodup)
    (hsub : ∀ r ∈ chosen, r ∈ rows) (q : ρ → Bool) :
    rows.countP (fun r => q r && decide (name r ∉ chosen.map name)) + chosen.countP q =
      rows.countP q := by
  have hmem : ∀ r ∈ rows, r ∈ chosen ↔ name r ∈ chosen.map name := by
    intro r hr
    constructor
    · intro h
      exact List.mem_map_of_mem h
    · intro h
      obtain ⟨r', hr', he⟩ := List.mem_map.mp h
      exact List.inj_on_of_nodup_map hrows (hsub r' hr') hr he ▸ hr'
  have hperm : (rows.filter fun r => decide (name r ∈ chosen.map name)).Perm chosen := by
    refine (List.perm_ext_iff_of_nodup (hrows.of_map.filter _) hchosen.of_map).mpr fun r => ?_
    rw [List.mem_filter, decide_eq_true_eq]
    constructor
    · intro h
      exact (hmem r h.1).mpr h.2
    · intro h
      exact ⟨hsub r h, List.mem_map_of_mem h⟩
  rw [← hperm.countP_eq, List.countP_filter]
  have hsplit := List.countP_eq_countP_filter_add rows q fun r => decide (name r ∉ chosen.map name)
  rw [List.countP_filter, List.countP_filter] at hsplit
  rw [hsplit]
  congr 1
  refine List.countP_congr fun r _ => ?_
  simp

end Select

/-! ## 2. Reading rows -/

section Read

variable {ε ρ β : Type} {read : ρ → Except ε β}

/-- A sequence answers if both of its parts do. -/
theorem except_bind_ok {α γ : Type} {x : Except ε α} {f : α → Except ε γ} {c : γ} :
    (x >>= f) = .ok c ↔ ∃ a, x = .ok a ∧ f a = .ok c := by
  cases x with
  | error e =>
    constructor
    · intro h
      cases h
    · intro h
      obtain ⟨a, ha, -⟩ := h
      cases ha
  | ok a =>
    constructor
    · intro h
      exact ⟨a, rfl, h⟩
    · intro h
      obtain ⟨b, hb, h⟩ := h
      cases hb
      exact h

/-- **Reading all rows answers one value a row**, in their order. -/
theorem mapM_ok_iff {rows : List ρ} {values : List β} :
    rows.mapM read = .ok values ↔
      List.Forall₂ (fun row value => read row = .ok value) rows values := by
  constructor
  · intro h
    induction rows generalizing values with
    | nil =>
      cases h
      exact .nil
    | cons row rest ih =>
      rw [List.mapM_cons] at h
      obtain ⟨value, hrow, h⟩ := except_bind_ok.mp h
      obtain ⟨others, hrest, h⟩ := except_bind_ok.mp h
      cases h
      exact .cons hrow (ih hrest)
  · intro h
    induction h with
    | nil => rfl
    | cons hrow _ ih =>
      rw [List.mapM_cons, hrow, ih]
      rfl

/-- Values that read back do so together. -/
theorem mapM_map_ok {write : β → ρ} {values : List β}
    (h : ∀ value ∈ values, read (write value) = .ok value) :
    (values.map write).mapM read = .ok values :=
  mapM_ok_iff.mpr (List.forall₂_map_left_iff.mpr (List.forall₂_same.mpr h))

/-- **Values stored as rows are listed in the order of their own keys**, if the keys of the rows
    are in the order of these. -/
theorem orderBy_read {κ κ' : Type} [LinearOrder κ] [LinearOrder κ'] {write : β → ρ}
    {p : ρ → Bool} {key : ρ → κ} {key' : β → κ'} {values : List β}
    (hread : ∀ value ∈ values, read (write value) = .ok value)
    (hkey : ∀ a ∈ values, ∀ b ∈ values, key (write a) ≤ key (write b) ↔ key' a ≤ key' b) :
    (orderBy p key (values.map write)).mapM read =
      .ok (orderBy (fun value => p (write value)) key' values) := by
  have hsort : orderBy p key (values.map write) =
      (orderBy (fun value => p (write value)) key' values).map write := by
    unfold orderBy
    rw [List.filter_map]
    refine (List.map_insertionSort _ (fun a b => key a ≤ key b) write _ fun a ha b hb => ?_).symm
    exact (hkey a (List.mem_of_mem_filter ha) b (List.mem_of_mem_filter hb)).symm
  rw [hsort]
  exact mapM_map_ok fun value hvalue =>
    hread value (List.mem_of_mem_filter ((orderBy_perm _ _ _).mem_iff.mp hvalue))

/-- A value belongs to each row. -/
theorem mem_of_forall₂ {belongs : ρ → β → Prop} {rows : List ρ} {values : List β}
    (h : List.Forall₂ belongs rows values) {row : ρ} (hrow : row ∈ rows) :
    ∃ value ∈ values, belongs row value := by
  induction h with
  | nil => cases hrow
  | @cons _ value _ _ hvalue _ ih =>
    rcases List.mem_cons.mp hrow with rfl | hrow
    · exact ⟨value, List.mem_cons_self, hvalue⟩
    · obtain ⟨other, hother, hbelongs⟩ := ih hrow
      exact ⟨other, List.mem_cons_of_mem _ hother, hbelongs⟩

/-- What a row was read as is among the values. -/
theorem mem_of_mapM_ok {rows : List ρ} {values : List β} (h : rows.mapM read = .ok values)
    {row : ρ} (hrow : row ∈ rows) : ∃ value ∈ values, read row = .ok value :=
  mem_of_forall₂ (mapM_ok_iff.mp h) hrow

/-- If all rows were read, each of them can be. -/
theorem mapM_ok_mem {rows : List ρ} {values : List β} (h : rows.mapM read = .ok values) {row : ρ}
    (hrow : row ∈ rows) : ∃ value, read row = .ok value := by
  obtain ⟨value, -, hread⟩ := mem_of_mapM_ok h hrow
  exact ⟨value, hread⟩

/-- If every row can be read, all of them can. -/
theorem exists_mapM_ok {rows : List ρ} (h : ∀ row ∈ rows, ∃ value, read row = .ok value) :
    ∃ values, rows.mapM read = .ok values := by
  induction rows with
  | nil => exact ⟨[], rfl⟩
  | cons row rest ih =>
    obtain ⟨value, hvalue⟩ := h row List.mem_cons_self
    obtain ⟨values, hvalues⟩ := ih fun row hrow => h row (List.mem_cons_of_mem _ hrow)
    exact ⟨value :: values, mapM_ok_iff.mpr (.cons hvalue (mapM_ok_iff.mp hvalues))⟩

/-- Two lists whose elements belong to those of a third, position by position. -/
theorem forall₂_comp {γ : Type} {first : ρ → β → Prop} {second : β → γ → Prop}
    {both : ρ → γ → Prop} (h : ∀ a b c, first a b → second b c → both a c) {as : List ρ}
    {bs : List β} {cs : List γ} (hab : List.Forall₂ first as bs)
    (hbc : List.Forall₂ second bs cs) : List.Forall₂ both as cs := by
  induction hab generalizing cs with
  | nil =>
    cases hbc
    exact .nil
  | cons hrow _ ih =>
    cases hbc with
    | cons hrow' hrest => exact .cons (h _ _ _ hrow hrow') (ih hrest)

/-- Values that belong to rows in an order are in the order these rows give them. -/
theorem pairwise_of_forall₂ {belongs : ρ → β → Prop} {before : ρ → ρ → Prop} {le : β → β → Prop}
    {rows : List ρ} {values : List β} (h : List.Forall₂ belongs rows values)
    (hrows : rows.Pairwise before)
    (hle : ∀ row row' value value', belongs row value → belongs row' value' → before row row' →
      le value value') : values.Pairwise le := by
  induction h with
  | nil => exact .nil
  | @cons row value rest others hvalue hrest ih =>
    rw [List.pairwise_cons] at hrows ⊢
    refine ⟨?_, ih hrows.2⟩
    have hfirst := hrows.1
    clear ih hrows
    intro other hother
    induction hrest with
    | nil => cases hother
    | cons hvalue' _ ih =>
      rcases List.mem_cons.mp hother with rfl | hother
      · exact hle _ _ _ _ hvalue hvalue' (hfirst _ List.mem_cons_self)
      · exact ih (fun row' hrow' => hfirst row' (List.mem_cons_of_mem _ hrow')) hother

end Read

end MatriXpost
