import Mathlib.Algebra.GroupWithZero.Nat
import Mathlib.Data.List.Induction
import Mathlib.Data.List.Nodup
import Mathlib.Tactic.Common

/-!
# Groups in a table

A list is folded into a table with an entry for each key.  The first element
with a key opens its entry, at the end of the table, and each later one is
merged into it, so that an entry is what its own group makes of it.
-/

namespace EzspSpi

variable {α κ ε : Type} [DecidableEq κ]

/-- The entry with this key, updated in place or new at the end. -/
def upsert (k : κ) (new : ε) (update : ε → ε) :
    List (κ × ε) → List (κ × ε)
  | [] => [(k, new)]
  | (k', e) :: table =>
      if k' = k then (k', update e) :: table
      else (k', e) :: upsert k new update table

section Upsert

variable {k k' : κ} {new e : ε} {update : ε → ε} {table : List (κ × ε)}

theorem keys_upsert (k : κ) (new : ε) (update : ε → ε)
    (table : List (κ × ε)) :
    (upsert k new update table).map Prod.fst =
      if k ∈ table.map Prod.fst then table.map Prod.fst
      else table.map Prod.fst ++ [k] := by
  induction table with
  | nil => rfl
  | cons entry table ih =>
      obtain ⟨k', e⟩ := entry
      rw [upsert, List.map_cons]
      by_cases hk : k' = k
      · rw [if_pos hk, if_pos (List.mem_cons.mpr (Or.inl hk.symm)),
          List.map_cons]
      · have hmem : k ∈ k' :: table.map Prod.fst ↔
            k ∈ table.map Prod.fst := by
          rw [List.mem_cons, or_iff_right fun h => hk h.symm]
        rw [if_neg hk, List.map_cons, ih]
        by_cases hin : k ∈ table.map Prod.fst
        · rw [if_pos hin, if_pos (hmem.mpr hin)]
        · rw [if_neg hin, if_neg (mt hmem.mp hin), List.cons_append]

theorem nodup_upsert (hnodup : (table.map Prod.fst).Nodup) :
    ((upsert k new update table).map Prod.fst).Nodup := by
  rw [keys_upsert]
  split
  · exact hnodup
  · rename_i hnew
    rw [List.nodup_append]
    refine ⟨hnodup, List.nodup_singleton k, fun k₁ h₁ k₂ h₂ => ?_⟩
    rw [List.mem_singleton.mp h₂]
    exact fun heq => hnew (heq ▸ h₁)

/-- Where no key occurs twice, every entry with the key is updated. -/
theorem upsert_eq (hnodup : (table.map Prod.fst).Nodup) :
    upsert k new update table =
      if k ∈ table.map Prod.fst then
        table.map fun entry =>
          if entry.1 = k then (entry.1, update entry.2) else entry
      else table ++ [(k, new)] := by
  induction table with
  | nil => rfl
  | cons entry table ih =>
      obtain ⟨k', e⟩ := entry
      obtain ⟨hfirst, hrest⟩ := List.nodup_cons.mp hnodup
      rw [upsert, ih hrest]
      by_cases hk : k' = k
      · subst hk
        have hothers : table.map (fun entry =>
            if entry.1 = k' then (entry.1, update entry.2) else entry) =
            table := by
          refine (List.map_congr_left fun entry h => if_neg fun heq => ?_).trans
            table.map_id
          exact hfirst (List.mem_map.mpr ⟨entry, h, heq⟩)
        simp [hothers]
      · have hne : ¬k = k' := fun h => hk h.symm
        by_cases hin : k ∈ table.map Prod.fst
        · simp only [List.map_cons, List.mem_cons, hin, or_true, if_true,
            if_neg hk]
        · simp only [List.map_cons, List.mem_cons, hin, hne, or_false,
            if_false, if_neg hk, List.cons_append]

/-- The entries with other keys stay as they are. -/
theorem mem_upsert_of_ne (hk : k' ≠ k) :
    (k', e) ∈ upsert k new update table ↔ (k', e) ∈ table := by
  induction table with
  | nil =>
      rw [upsert, List.mem_singleton, Prod.mk.injEq]
      exact iff_of_false (fun h => hk h.1) List.not_mem_nil
  | cons entry table ih =>
      obtain ⟨k₀, e₀⟩ := entry
      rw [upsert]
      split
      · rename_i hk₀
        have hne (e₀ : ε) : (k', e) ≠ (k₀, e₀) := by
          intro h
          exact hk ((Prod.mk.inj h).1.trans hk₀)
        rw [List.mem_cons, List.mem_cons, or_iff_right (hne _),
          or_iff_right (hne _)]
      · rw [List.mem_cons, List.mem_cons, ih]

/-- The entry with the key. -/
theorem mem_upsert_self (hnodup : (table.map Prod.fst).Nodup) :
    (k, e) ∈ upsert k new update table ↔
      (∃ e₀, (k, e₀) ∈ table ∧ e = update e₀) ∨
        k ∉ table.map Prod.fst ∧ e = new := by
  induction table with
  | nil => simp [upsert]
  | cons entry table ih =>
      obtain ⟨k₀, e₀⟩ := entry
      rw [List.map_cons, List.nodup_cons] at hnodup
      rw [upsert]
      split
      · rename_i hk₀
        subst hk₀
        have hrest (e : ε) : (k₀, e) ∉ table := fun h =>
          hnodup.1 (List.mem_map.mpr ⟨_, h, rfl⟩)
        simp [hrest]
      · rename_i hk₀
        have hne : ¬(k = k₀) := fun h => hk₀ h.symm
        simp [hne, ih hnodup.2]

/-- A measure that a new entry has once, and an update counts up. -/
theorem sum_upsert (size : ε → ℕ) (hnew : size new = 1)
    (hupdate : ∀ e, size (update e) = size e + 1) :
    ((upsert k new update table).map fun entry => size entry.2).sum =
      (table.map fun entry => size entry.2).sum + 1 := by
  induction table with
  | nil => simp [upsert, hnew]
  | cons entry table ih =>
      obtain ⟨k', e⟩ := entry
      rw [upsert, List.map_cons, List.sum_cons]
      split
      · rw [List.map_cons, List.sum_cons, hupdate, Nat.add_right_comm]
      · rw [List.map_cons, List.sum_cons, ih, Nat.add_assoc]

end Upsert

/-! ## The table of a list -/

section Grouped

variable (key : α → κ) (first : α → ε) (merge : ε → α → ε)

def grouped (xs : List α) : List (κ × ε) :=
  xs.foldl (fun table x => upsert (key x) (first x) (merge · x) table) []

theorem grouped_concat (xs : List α) (x : α) :
    grouped key first merge (xs ++ [x]) =
      upsert (key x) (first x) (merge · x) (grouped key first merge xs) := by
  rw [grouped, List.foldl_append]
  rfl

/-- The elements with a key. -/
def groupOf (k : κ) (xs : List α) : List α :=
  xs.filter fun x => decide (key x = k)

/-- The entry for a group by itself, if there is anything in it. -/
def summary : List α → Option ε
  | [] => none
  | x :: xs => some (xs.foldl merge (first x))

variable {key first merge}

theorem mem_groupOf {k : κ} {xs : List α} {x : α} :
    x ∈ groupOf key k xs ↔ x ∈ xs ∧ key x = k := by
  rw [groupOf, List.mem_filter, decide_eq_true_iff]

theorem groupOf_concat (k : κ) (xs : List α) (x : α) :
    groupOf key k (xs ++ [x]) =
      if key x = k then groupOf key k xs ++ [x] else groupOf key k xs := by
  rw [groupOf, List.filter_append, List.filter_singleton]
  by_cases hk : key x = k
  · simp [hk, groupOf]
  · simp [hk, groupOf]

theorem summary_concat (xs : List α) (x : α) :
    summary first merge (xs ++ [x]) =
      some ((summary first merge xs).elim (first x) (merge · x)) := by
  cases xs with
  | nil => rfl
  | cons x₀ xs =>
      rw [List.cons_append, summary, List.foldl_append]
      rfl

theorem nodup_grouped (xs : List α) :
    ((grouped key first merge xs).map Prod.fst).Nodup := by
  induction xs using List.reverseRecOn with
  | nil => exact List.nodup_nil
  | append_singleton xs x ih =>
      rw [grouped_concat]
      exact nodup_upsert ih

/-- The keys of the table are those of the list. -/
theorem mem_keys_grouped {k : κ} (xs : List α) :
    k ∈ (grouped key first merge xs).map Prod.fst ↔ ∃ x ∈ xs, key x = k := by
  induction xs using List.reverseRecOn with
  | nil => simp [grouped]
  | append_singleton xs x ih =>
      rw [grouped_concat, keys_upsert]
      simp only [List.mem_append, List.mem_singleton, or_and_right, exists_or,
        exists_eq_left]
      split
      · rename_i hin
        rw [ih]
        refine (or_iff_left_of_imp fun hk => ?_).symm
        exact ih.mp (hk ▸ hin)
      · rw [List.mem_append, List.mem_singleton, ih, eq_comm]

/-- The entries of the table are what the groups make of them. -/
theorem mem_grouped_iff {k : κ} {e : ε} (xs : List α) :
    (k, e) ∈ grouped key first merge xs ↔
      summary first merge (groupOf key k xs) = some e := by
  induction xs using List.reverseRecOn generalizing e with
  | nil => simp [grouped, groupOf, summary]
  | append_singleton xs x ih =>
      rw [grouped_concat, groupOf_concat]
      by_cases hk : key x = k
      · subst hk
        rw [if_pos rfl, summary_concat, mem_upsert_self (nodup_grouped xs)]
        cases hgroup : summary first merge (groupOf key (key x) xs) with
        | none =>
            have hnone (e₀ : ε) :
                (key x, e₀) ∉ grouped key first merge xs := by
              rw [ih, hgroup]
              exact (Option.some_ne_none e₀).symm
            have hnew : key x ∉ (grouped key first merge xs).map Prod.fst := by
              intro h
              obtain ⟨⟨_, e₀⟩, hmem, rfl⟩ := List.mem_map.mp h
              exact hnone e₀ hmem
            simp [hnone, hnew, eq_comm]
        | some e₀ =>
            have hmem : (key x, e₀) ∈ grouped key first merge xs :=
              ih.mpr hgroup
            have hold : key x ∈ (grouped key first merge xs).map Prod.fst :=
              List.mem_map.mpr ⟨_, hmem, rfl⟩
            simp [ih, hgroup, hold, eq_comm]
      · rw [if_neg hk, mem_upsert_of_ne fun h => hk h.symm, ih]

theorem sum_grouped (size : ε → ℕ) (hfirst : ∀ x, size (first x) = 1)
    (hmerge : ∀ e x, size (merge e x) = size e + 1) (xs : List α) :
    ((grouped key first merge xs).map fun entry => size entry.2).sum =
      xs.length := by
  induction xs using List.reverseRecOn with
  | nil => rfl
  | append_singleton xs x ih =>
      rw [grouped_concat, sum_upsert size (hfirst x) fun e => hmerge e x, ih,
        List.length_append]
      rfl

end Grouped

end EzspSpi
