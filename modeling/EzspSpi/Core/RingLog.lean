import Mathlib.Data.Fin.Basic
import Mathlib.Data.Nat.ModEq
import Mathlib.Logic.Function.Basic

/-!
# A ring of the latest entries of a log

Entry `i` of an ever growing log is kept in slot `i mod m`, so the ring holds
the last `m` entries, and a slot still empty was never used.  Walking the ring
from a slot up to the end of the log visits the log's last entries in order,
with some empty slots before them where the log is short.
-/

namespace EzspSpi.RingLog

variable {α : Type*} {m : ℕ} [NeZero m]

/-- The ring holds the latest entries of the log, and nothing else. -/
structure Mirrors (empty : α) (ring : Fin m → α) (log : List α) : Prop where
  recent : ∀ i a, log[i]? = some a → log.length ≤ i + m →
    ring (Fin.ofNat m i) = a
  unused : ∀ j : Fin m, log.length ≤ j → ring j = empty

variable {empty : α} {ring : Fin m → α} {log : List α}

theorem mirrors_nil : Mirrors empty (fun _ : Fin m => empty) [] where
  recent i a hi := by simp at hi
  unused _ _ := rfl

private theorem ofNat_ne {i T : ℕ} (hlt : i < T) (hclose : T < i + m) :
    Fin.ofNat m i ≠ Fin.ofNat m T := by
  intro heq
  have hmod : i % m = T % m := congrArg Fin.val heq
  have hdvd : m ∣ T - i := (Nat.modEq_iff_dvd' hlt.le).mp hmod
  have hle : m ≤ T - i := Nat.le_of_dvd (Nat.sub_pos_of_lt hlt) hdvd
  omega

/-- A new entry goes to the next slot. -/
theorem Mirrors.push (hring : Mirrors empty ring log) (a : α) :
    Mirrors empty (Function.update ring (Fin.ofNat m log.length) a)
      (log ++ [a]) where
  recent i b hi hrecent := by
    rw [List.length_append, List.length_singleton] at hrecent
    by_cases hold : i < log.length
    · rw [List.getElem?_append_left hold] at hi
      rw [Function.update_of_ne (ofNat_ne hold (by omega))]
      exact hring.recent i b hi (by omega)
    · have hlast : i < (log ++ [a]).length := by
        by_contra hout
        rw [List.getElem?_eq_none (not_lt.mp hout)] at hi
        exact absurd hi (by simp)
      rw [List.length_append, List.length_singleton] at hlast
      obtain rfl : i = log.length := by omega
      rw [List.getElem?_concat_length, Option.some.injEq] at hi
      rw [Function.update_self, hi]
  unused j hj := by
    rw [List.length_append, List.length_singleton] at hj
    have hne : j ≠ Fin.ofNat m log.length := by
      intro heq
      have hsmall : log.length < m := by
        have hjm := j.isLt
        omega
      have hval : (j : ℕ) = log.length :=
        (congrArg Fin.val heq).trans (Nat.mod_eq_of_lt hsmall)
      omega
    rw [Function.update_of_ne hne]
    exact hring.unused j (by omega)

/-- The contents of `k` slots from slot `n` on. -/
def walk (ring : Fin m → α) (n k : ℕ) : List α :=
  (List.range' n k).map fun i => ring (Fin.ofNat m i)

@[simp]
theorem walk_zero (ring : Fin m → α) (n : ℕ) : walk ring n 0 = [] := rfl

theorem walk_succ (ring : Fin m → α) (n k : ℕ) :
    walk ring n (k + 1) = ring (Fin.ofNat m n) :: walk ring (n + 1) k := by
  rw [walk, List.range'_succ, List.map_cons, walk]

theorem walk_add (ring : Fin m → α) (n k k' : ℕ) :
    walk ring n (k + k') = walk ring n k ++ walk ring (n + k) k' := by
  rw [walk, ← List.range'_append_1, List.map_append, walk, walk]

/-- The number of slots from slot `n` up to the one the next entry goes to. -/
def behind (m T n : ℕ) : ℕ := (T + m - n) % m

theorem behind_lt (T n : ℕ) : behind m T n < m :=
  Nat.mod_lt _ (Nat.pos_of_neZero m)

omit [NeZero m] in
theorem add_behind {T n : ℕ} (hn : n < m) : n + behind m T n ≡ T [MOD m] := by
  have hsum : n + (T + m - n) = T + m := by omega
  calc n + behind m T n ≡ n + (T + m - n) [MOD m] :=
        Nat.ModEq.add_left n (Nat.mod_modEq _ _)
    _ ≡ T [MOD m] := by rw [hsum]; exact Nat.add_modEq_right

private theorem ofNat_congr {i j : ℕ} (h : i ≡ j [MOD m]) :
    Fin.ofNat m i = Fin.ofNat m j := Fin.ext h

/-- Slots that the log has filled, from any number of the right residue on. -/
private theorem Mirrors.walk_recent (hring : Mirrors empty ring log)
    {n k : ℕ} (hk : k ≤ log.length) (hkm : k ≤ m)
    (hn : n ≡ log.length - k [MOD m]) :
    walk ring n k = log.drop (log.length - k) := by
  apply List.ext_getElem
  · rw [walk, List.length_map, List.length_range', List.length_drop]
    omega
  · intro d hd _
    rw [walk, List.length_map, List.length_range'] at hd
    have hindex : log.length - k + d < log.length := by omega
    have hslot : n + d ≡ log.length - k + d [MOD m] := hn.add_right d
    simp only [walk, List.getElem_map, List.getElem_range', List.getElem_drop,
      Nat.one_mul, ofNat_congr hslot]
    exact hring.recent _ _ (List.getElem?_eq_getElem hindex) (by omega)

/-- Walking the ring from slot `n` to the end finds the last entries of the
log, as many as there are slots or entries. -/
theorem Mirrors.walk_filter [DecidableEq α] (hring : Mirrors empty ring log)
    (hlog : ∀ a ∈ log, a ≠ empty) {n : ℕ} (hn : n < m) :
    (walk ring n (behind m log.length n)).filter (fun a => decide (a ≠ empty)) =
      log.drop (log.length - min (behind m log.length n) log.length) := by
  have hlt : behind m log.length n < m := behind_lt log.length n
  have hmod : n + behind m log.length n ≡ log.length [MOD m] := add_behind hn
  have hkeep (k : ℕ) : (log.drop k).filter (fun a => decide (a ≠ empty)) =
      log.drop k := by
    apply List.filter_eq_self.mpr
    intro a ha
    exact decide_eq_true (hlog a (List.mem_of_mem_drop ha))
  generalize behind m log.length n = k at hlt hmod ⊢
  by_cases hk : k ≤ log.length
  · have hstart : n ≡ log.length - k [MOD m] := by
      apply Nat.ModEq.add_right_cancel' k
      rwa [Nat.sub_add_cancel hk]
    rw [hring.walk_recent hk hlt.le hstart, hkeep, min_eq_left hk]
  · have hshort : log.length < k := not_le.mp hk
    have hwrap : n + k = log.length + m := by
      have hdvd : m ∣ n + k - log.length :=
        (Nat.modEq_iff_dvd' (by omega)).mp hmod.symm
      obtain ⟨c, hc⟩ := hdvd
      have hc1 : c = 1 := by
        have hpos : 0 < m * c := by omega
        have hsmall : m * c < m * 2 := by omega
        have hc2 : c < 2 := Nat.lt_of_mul_lt_mul_left hsmall
        have hc0 : 0 < c := Nat.pos_of_mul_pos_left hpos
        omega
      rw [hc1, Nat.mul_one] at hc
      omega
    have hunused : (walk ring n (k - log.length)).filter
        (fun a => decide (a ≠ empty)) = [] := by
      apply List.filter_eq_nil_iff.mpr
      intro a ha
      obtain ⟨i, hi, rfl⟩ := List.mem_map.mp ha
      obtain ⟨hni, hik⟩ := List.mem_range'_1.mp hi
      have hval : ((Fin.ofNat m i : Fin m) : ℕ) = i :=
        Nat.mod_eq_of_lt (by omega)
      have hempty : ring (Fin.ofNat m i) = empty :=
        hring.unused _ (by omega)
      rw [hempty, decide_eq_true_eq]
      exact not_not.mpr rfl
    have hwhole : log.length - min k log.length = 0 := by omega
    have hsplit : k = k - log.length + log.length := by omega
    have hrest : n + (k - log.length) ≡ log.length - log.length [MOD m] := by
      rw [show n + (k - log.length) = m by omega, Nat.sub_self]
      exact (Nat.modEq_zero_iff_dvd).mpr (dvd_refl m)
    rw [hwhole, hsplit, walk_add, List.filter_append, hunused, List.nil_append,
      hring.walk_recent le_rfl (by omega) hrest, Nat.sub_self, hkeep]

end EzspSpi.RingLog
