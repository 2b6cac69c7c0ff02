import Mathlib.Algebra.GroupWithZero.Nat
import Mathlib.Data.List.DropRight
import Mathlib.Data.List.Infix
import Mathlib.Tactic.Common

/-!
# Lines of words

A text of lines, each of which is a number of words with a separator between
them, is taken apart again.  What does not fit is left out: of a list of lines
a first part is kept, the next one as long as less than a limit is used.
-/

namespace EzspSpi

variable {α : Type}

/-! ## Taking apart -/

/-- The words of a line; several separators are as good as one. -/
def wordsOf (isSep : α → Bool) (line : List α) : List (List α) :=
  (line.splitOnP isSep).filter fun word => !word.isEmpty

/-- A line without the separators at its two ends. -/
def trim (isSep : α → Bool) (line : List α) : List α :=
  (line.dropWhile isSep).rdropWhile isSep

/-- Something to be seen, and no separator in it. -/
structure IsWord (isSep : α → Bool) (word : List α) : Prop where
  ne_nil : word ≠ []
  forall_mem : ∀ c ∈ word, isSep c = false

theorem IsWord.append {isSep : α → Bool} {word word' : List α}
    (hword : IsWord isSep word) (hword' : IsWord isSep word') :
    IsWord isSep (word ++ word') := by
  refine ⟨List.append_ne_nil_of_left_ne_nil hword.ne_nil _, fun c hc => ?_⟩
  rcases List.mem_append.mp hc with hc | hc
  · exact hword.forall_mem c hc
  · exact hword'.forall_mem c hc

theorem IsWord.mono {isSep isSep' : α → Bool} {word : List α}
    (hword : IsWord isSep word)
    (hle : ∀ c, isSep c = false → isSep' c = false) : IsWord isSep' word :=
  ⟨hword.ne_nil, fun c hc => hle c (hword.forall_mem c hc)⟩

instance (isSep : α → Bool) (word : List α) : Decidable (IsWord isSep word) :=
  decidable_of_iff (word.isEmpty = false ∧ ∀ c ∈ word, isSep c = false)
    ⟨fun h => ⟨List.isEmpty_eq_false_iff.mp h.1, h.2⟩,
      fun h => ⟨List.isEmpty_eq_false_iff.mpr h.ne_nil, h.forall_mem⟩⟩

section Words

variable {isSep : α → Bool} {sep : α} {ws : List (List α)}

theorem wordsOf_intercalate (hsep : isSep sep = true)
    (hws : ∀ word ∈ ws, IsWord isSep word) :
    wordsOf isSep ([sep].intercalate ws) = ws := by
  induction ws with
  | nil => rfl
  | cons word ws ih =>
      have hword := hws word List.mem_cons_self
      have hsome : (!word.isEmpty) = true := by simp [hword.ne_nil]
      have hrest := ih fun word' h => hws word' (List.mem_cons_of_mem _ h)
      cases ws with
      | nil =>
          rw [List.intercalate_singleton, wordsOf,
            List.splitOnP_eq_singleton hword.forall_mem,
            List.filter_cons, if_pos hsome]
          rfl
      | cons word' ws =>
          rw [List.intercalate_cons_cons, List.append_assoc,
            List.singleton_append, wordsOf,
            List.splitOnP_append_cons_of_forall_mem hword.forall_mem sep hsep,
            List.filter_cons, if_pos hsome]
          exact congrArg (word :: ·) hrest

theorem mem_intercalate {c : α} (hc : c ∈ [sep].intercalate ws) :
    c = sep ∨ ∃ word ∈ ws, c ∈ word := by
  induction ws with
  | nil => exact absurd hc List.not_mem_nil
  | cons word ws ih =>
      cases ws with
      | nil =>
          rw [List.intercalate_singleton] at hc
          exact Or.inr ⟨word, List.mem_cons_self, hc⟩
      | cons word' ws =>
          rw [List.intercalate_cons_cons, List.mem_append, List.mem_append,
            List.mem_singleton] at hc
          rcases hc with (hc | hc) | hc
          · exact Or.inr ⟨word, List.mem_cons_self, hc⟩
          · exact Or.inl hc
          · rcases ih hc with hsep | ⟨word'', hword'', hmem⟩
            · exact Or.inl hsep
            · exact Or.inr ⟨word'', List.mem_cons_of_mem _ hword'', hmem⟩

/-- Such a line ends with its last word. -/
private theorem exists_intercalate_eq (sep : α) (hne : ws ≠ []) :
    ∃ front, [sep].intercalate ws = front ++ ws.getLast hne := by
  induction ws with
  | nil => exact absurd rfl hne
  | cons word ws ih =>
      cases ws with
      | nil => exact ⟨[], List.intercalate_singleton⟩
      | cons word' ws =>
          obtain ⟨front, hfront⟩ := ih (List.cons_ne_nil _ _)
          refine ⟨word ++ [sep] ++ front, ?_⟩
          rw [List.intercalate_cons_cons, hfront,
            List.getLast_cons (List.cons_ne_nil _ _)]
          exact (List.append_assoc _ _ _).symm

/-- There is nothing to trim. -/
theorem trim_intercalate (hws : ∀ word ∈ ws, IsWord isSep word) :
    trim isSep ([sep].intercalate ws) = [sep].intercalate ws := by
  cases ws with
  | nil => rfl
  | cons word ws =>
      have hfirst := hws word List.mem_cons_self
      have hlast := hws _ (List.getLast_mem (List.cons_ne_nil word ws))
      have hfront : ([sep].intercalate (word :: ws)).dropWhile isSep =
          [sep].intercalate (word :: ws) := by
        obtain ⟨c, tail, rfl⟩ := List.exists_cons_of_ne_nil hfirst.ne_nil
        have hc := hfirst.forall_mem c List.mem_cons_self
        have hstart : ∃ rest, [sep].intercalate ((c :: tail) :: ws) =
            c :: rest := by
          cases ws with
          | nil => exact ⟨tail, List.intercalate_singleton⟩
          | cons word' ws => exact ⟨_, List.intercalate_cons_cons⟩
        obtain ⟨rest, hrest⟩ := hstart
        rw [hrest, List.dropWhile_cons_of_neg (by rw [hc]; decide)]
      obtain ⟨front, hback⟩ :=
        exists_intercalate_eq sep (List.cons_ne_nil word ws)
      rw [trim, hfront, List.rdropWhile_eq_self_iff]
      intro hne
      have hmem := List.getLast_mem hlast.ne_nil
      simp only [hback]
      rw [List.getLast_append_of_ne_nil _ hlast.ne_nil,
        hlast.forall_mem _ hmem]
      exact Bool.false_ne_true

end Words

section Gaps

variable {isSep : α → Bool}

theorem wordsOf_word {word : List α} (hword : IsWord isSep word) :
    wordsOf isSep word = [word] := by
  have hsome : (!word.isEmpty) = true := by simp [hword.ne_nil]
  rw [wordsOf, List.splitOnP_eq_singleton hword.forall_mem, List.filter_cons,
    if_pos hsome]
  rfl

theorem wordsOf_append_cons {c : α} (hc : isSep c = true)
    (front rest : List α) :
    wordsOf isSep (front ++ c :: rest) =
      wordsOf isSep front ++ wordsOf isSep rest := by
  rw [wordsOf, List.splitOnP_append_cons front rest hc, List.filter_append]
  rfl

/-- A text that ends with a separator leaves the words behind it whole. -/
theorem wordsOf_append_of_getLast? {front : List α} {c : α}
    (hlast : front.getLast? = some c) (hc : isSep c = true)
    (rest : List α) :
    wordsOf isSep (front ++ rest) =
      wordsOf isSep front ++ wordsOf isSep rest := by
  obtain ⟨front', rfl⟩ := List.getLast?_eq_some_iff.mp hlast
  have hnone : wordsOf isSep [] = [] := rfl
  rw [List.append_assoc, List.singleton_append, wordsOf_append_cons hc,
    wordsOf_append_cons hc, hnone, List.append_nil]

/-- So does one that begins with a separator, of the words in front of it. -/
theorem wordsOf_append_of_head? {rest : List α} {c : α}
    (hhead : rest.head? = some c) (hc : isSep c = true) (front : List α) :
    wordsOf isSep (front ++ rest) =
      wordsOf isSep front ++ wordsOf isSep rest := by
  obtain ⟨rest', rfl⟩ := List.head?_eq_some_iff.mp hhead
  have hrest : wordsOf isSep (c :: rest') = wordsOf isSep rest' :=
    wordsOf_append_cons hc [] rest'
  rw [wordsOf_append_cons hc, hrest]

end Gaps

/-- The text of these lines. -/
def unlines (newline : α) (lines : List (List α)) : List α :=
  lines.flatMap (· ++ [newline])

theorem length_unlines (newline : α) (lines : List (List α)) :
    (unlines newline lines).length =
      (lines.map fun line => line.length + 1).sum := by
  rw [unlines, List.length_flatMap]
  simp only [List.length_append, List.length_singleton]

section Newlines

variable {isNewline : α → Bool} {newline : α}

/-- Each line is read back, and an empty one behind the last newline. -/
theorem splitOnP_unlines (hnewline : isNewline newline = true)
    {lines : List (List α)}
    (hlines : ∀ line ∈ lines, ∀ c ∈ line, isNewline c = false) :
    (unlines newline lines).splitOnP isNewline = lines ++ [[]] := by
  induction lines with
  | nil => rfl
  | cons line lines ih =>
      have hline := hlines line List.mem_cons_self
      have hrest := ih fun line' h => hlines line' (List.mem_cons_of_mem _ h)
      rw [unlines, List.flatMap_cons, List.append_assoc, List.singleton_append,
        List.splitOnP_append_cons_of_forall_mem hline newline hnewline]
      exact congrArg (line :: ·) hrest

/-- Newlines at the end make no more than empty lines. -/
theorem exists_splitOnP_eq_append (isNewline : α → Bool) (text : List α) :
    ∃ n, text.splitOnP isNewline =
      (text.rdropWhile isNewline).splitOnP isNewline ++
        List.replicate n [] := by
  induction text using List.reverseRecOn with
  | nil => exact ⟨0, rfl⟩
  | append_singleton text c ih =>
      by_cases hc : isNewline c = true
      · obtain ⟨n, hn⟩ := ih
        refine ⟨n + 1, ?_⟩
        rw [List.rdropWhile_concat_pos isNewline text c hc,
          List.splitOnP_append_cons text [] hc, hn, List.splitOnP_nil,
          List.append_assoc, List.replicate_succ']
      · refine ⟨0, ?_⟩
        rw [List.rdropWhile_concat_neg isNewline text c hc]
        exact (List.append_nil _).symm

/-- Empty lines at the end are nothing to a reader that makes nothing of an
empty line. -/
theorem filterMap_eq_of_padded {β : Type} {row? : List α → Option β}
    (hempty : row? [] = none) {lines read : List (List α)} {n : ℕ}
    (h : lines ++ [[]] = read ++ List.replicate n []) :
    read.filterMap row? = lines.filterMap row? := by
  have hnone : (List.replicate n ([] : List α)).filterMap row? = [] := by
    simp [hempty]
  have hfilter := congrArg (List.filterMap row?) h
  rw [List.filterMap_append, List.filterMap_append, hnone, List.append_nil,
    List.filterMap_cons_none hempty, List.filterMap_nil, List.append_nil]
    at hfilter
  exact hfilter.symm

end Newlines

/-! ## How a line starts -/

/-- Neither continues the other, so that no line starts with both. -/
def Diverge (start start' : List α) : Prop :=
  ¬start <+: start' ∧ ¬start' <+: start

instance [DecidableEq α] (start start' : List α) :
    Decidable (Diverge start start') := inferInstanceAs (Decidable (_ ∧ _))

theorem Diverge.not_starting {start start' line : List α}
    (hdiverge : Diverge start start') (hline : start' <+: line) :
    ¬start <+: line := by
  intro hstart
  rcases List.prefix_or_prefix_of_prefix hstart hline with h | h
  · exact hdiverge.1 h
  · exact hdiverge.2 h

/-- There is a place at which the two differ. -/
def differ [DecidableEq α] : List α → List α → Bool
  | c :: cs, c' :: cs' => decide (c ≠ c') || differ cs cs'
  | _, _ => false

theorem diverge_of_differ [DecidableEq α] {start start' : List α}
    (h : differ start start' = true) : Diverge start start' := by
  induction start generalizing start' with
  | nil => cases h
  | cons c start ih =>
      cases start' with
      | nil => cases h
      | cons c' start' =>
          rw [differ, Bool.or_eq_true, decide_eq_true_eq] at h
          rw [Diverge, List.cons_prefix_cons, List.cons_prefix_cons]
          rcases h with hne | hrest
          · exact ⟨fun hp => hne hp.1, fun hp => hne hp.1.symm⟩
          · exact ⟨fun hp => (ih hrest).1 hp.2, fun hp => (ih hrest).2 hp.2⟩

/-! ## Lines in between -/

/-- A list with other entries in between. -/
inductive Interleaved (IsOther : α → Prop) : List α → List α → Prop
  | nil : Interleaved IsOther [] []
  | keep {xs ys : List α} (x : α) (h : Interleaved IsOther xs ys) :
      Interleaved IsOther (x :: xs) (x :: ys)
  | other {xs ys : List α} {y : α} (hy : IsOther y)
      (h : Interleaved IsOther xs ys) : Interleaved IsOther xs (y :: ys)

namespace Interleaved

variable {IsOther : α → Prop} {xs ys : List α}

theorem refl (xs : List α) : Interleaved IsOther xs xs := by
  induction xs with
  | nil => exact nil
  | cons x xs ih => exact keep x ih

/-- What the other entries satisfy too holds of all. -/
theorem forall_mem {P : α → Prop} (h : Interleaved IsOther xs ys)
    (hother : ∀ y, IsOther y → P y) (hxs : ∀ x ∈ xs, P x) :
    ∀ y ∈ ys, P y := by
  induction h with
  | nil => exact hxs
  | keep x h ih =>
      obtain ⟨hx, hrest⟩ := List.forall_mem_cons.mp hxs
      exact List.forall_mem_cons.mpr ⟨hx, ih hrest⟩
  | other hy h ih => exact List.forall_mem_cons.mpr ⟨hother _ hy, ih hxs⟩

/-- A reader that passes over the other entries does not notice them. -/
theorem foldl_eq {β : Type} {step : β → α → β} (h : Interleaved IsOther xs ys)
    (hskip : ∀ s y, IsOther y → step s y = s) (s : β) :
    ys.foldl step s = xs.foldl step s := by
  induction h generalizing s with
  | nil => rfl
  | keep x h ih => exact ih (step s x)
  | other hy h ih => rw [List.foldl_cons, hskip s _ hy, ih]

end Interleaved

/-! ## While there is room -/

section Room

variable (size : α → ℕ) (limit : ℕ)

/-- What is kept, the sizes of which add to what is used before. -/
def whileRoom : ℕ → List α → List α
  | _, [] => []
  | used, x :: xs =>
      if used < limit then x :: whileRoom (used + size x) xs else []

variable {size limit}

theorem whileRoom_prefix (used : ℕ) (xs : List α) :
    whileRoom size limit used xs <+: xs := by
  induction xs generalizing used with
  | nil => exact List.prefix_rfl
  | cons x xs ih =>
      rw [whileRoom]
      split
      · exact List.cons_prefix_cons.mpr ⟨rfl, ih _⟩
      · exact List.nil_prefix

theorem whileRoom_of_full {used : ℕ} (hfull : ¬used < limit) (xs : List α) :
    whileRoom size limit used xs = [] := by
  cases xs with
  | nil => rfl
  | cons x xs => exact if_neg hfull

/-- Once something is left out, so is all that follows. -/
theorem whileRoom_append (used : ℕ) (xs ys : List α) :
    whileRoom size limit used (xs ++ ys) =
      whileRoom size limit used xs ++ whileRoom size limit
        (used + ((whileRoom size limit used xs).map size).sum) ys := by
  induction xs generalizing used with
  | nil => rfl
  | cons x xs ih =>
      rw [List.cons_append, whileRoom, whileRoom]
      by_cases hroom : used < limit
      · rw [if_pos hroom, if_pos hroom, ih, List.cons_append, List.map_cons,
          List.sum_cons, ← Nat.add_assoc]
      · rw [if_neg hroom, if_neg hroom]
        exact (whileRoom_of_full hroom ys).symm

/-- All is kept exactly if there is room for the last. -/
theorem whileRoom_eq_self_iff (used : ℕ) (xs : List α) :
    whileRoom size limit used xs = xs ↔
      xs = [] ∨ used + (xs.dropLast.map size).sum < limit := by
  induction xs generalizing used with
  | nil => exact iff_of_true rfl (Or.inl rfl)
  | cons x xs ih =>
      rw [whileRoom]
      by_cases hroom : used < limit
      · rw [if_pos hroom, List.cons_eq_cons, and_iff_right rfl, ih]
        cases xs with
        | nil => exact iff_of_true (Or.inl rfl) (Or.inr hroom)
        | cons y ys =>
            rw [List.dropLast_cons_cons, List.map_cons, List.sum_cons,
              ← Nat.add_assoc]
            simp only [reduceCtorEq, false_or]
      · rw [if_neg hroom]
        refine iff_of_false (List.cons_ne_nil x xs).symm ?_
        rintro (hnil | hlast)
        · exact List.cons_ne_nil x xs hnil
        · omega

/-- What is kept stays below the limit but for the last. -/
theorem sum_whileRoom_le {most used : ℕ} (hused : used < limit)
    {xs : List α} (hmost : ∀ x ∈ xs, size x ≤ most) :
    used + ((whileRoom size limit used xs).map size).sum < limit + most := by
  induction xs generalizing used with
  | nil => exact Nat.lt_of_lt_of_le hused (Nat.le_add_right _ _)
  | cons x xs ih =>
      have hx := hmost x List.mem_cons_self
      rw [whileRoom, if_pos hused, List.map_cons, List.sum_cons,
        ← Nat.add_assoc]
      by_cases hnext : used + size x < limit
      · exact ih hnext fun y hy => hmost y (List.mem_cons_of_mem _ hy)
      · rw [whileRoom_of_full hnext]
        change used + size x + 0 < limit + most
        omega

end Room

end EzspSpi
