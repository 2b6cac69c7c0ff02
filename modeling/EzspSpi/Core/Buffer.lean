import EzspSpi.Core.Program

/-!
# Arrays of fixed size

Accesses to arrays as a C program makes them, by index, with a program of one's
own choice for an access out of bounds.  A program that does the same whatever
is chosen makes no such access.
-/

namespace EzspSpi.Program

variable {I : Interface} {σ : Type} {α β γ : Type}

/-- An array of which the first `len` cells are in use. -/
structure Filled (α : Type) (size : ℕ) where
  cells : List α
  size_eq : cells.length = size
  len : ℕ
  len_le : len ≤ size

namespace Filled

variable {size : ℕ}

/-- What the cells in use hold. -/
def used (a : Filled α size) : List α := a.cells.take a.len

@[simp]
theorem length_used (a : Filled α size) : a.used.length = a.len := by
  rw [used, List.length_take, a.size_eq, Nat.min_eq_left a.len_le]

/-- No cell in use. -/
def empty (size : ℕ) (cell : α) : Filled α size where
  cells := List.replicate size cell
  size_eq := List.length_replicate
  len := 0
  len_le := Nat.zero_le size

@[simp]
theorem used_empty (size : ℕ) (cell : α) :
    (empty size cell).used = [] := List.take_zero

/-- The same cells, with none of them in use. -/
def clear (a : Filled α size) : Filled α size :=
  { a with len := 0, len_le := Nat.zero_le size }

@[simp]
theorem used_clear (a : Filled α size) : a.clear.used = [] := List.take_zero

end Filled

/-! ## Writing into a list -/

/-- The list with these cells from `start` on. -/
def overwrite (buf : List α) (start : ℕ) (src : List α) : List α :=
  buf.take start ++ src ++ buf.drop (start + src.length)

theorem length_overwrite {buf src : List α} {start : ℕ}
    (h : start + src.length ≤ buf.length) :
    (overwrite buf start src).length = buf.length := by
  simp only [overwrite, List.length_append, List.length_take, List.length_drop]
  omega

@[simp]
theorem overwrite_nil (buf : List α) (start : ℕ) :
    overwrite buf start [] = buf := by
  simp [overwrite]

theorem set_eq_overwrite {buf : List α} {i : ℕ} (h : i < buf.length) (c : α) :
    buf.set i c = overwrite buf i [c] := by
  rw [List.set_eq_take_append_cons_drop, if_pos h, overwrite]
  simp

/-- What is in front of the end of what was written. -/
theorem take_overwrite {buf : List α} {start : ℕ} (src : List α)
    (h : start ≤ buf.length) :
    (overwrite buf start src).take (start + src.length) =
      buf.take start ++ src := by
  apply List.take_left'
  rw [List.length_append, List.length_take, Nat.min_eq_left h]

theorem drop_overwrite {buf : List α} {start : ℕ} (src : List α)
    (h : start ≤ buf.length) (n : ℕ) :
    (overwrite buf start src).drop (start + src.length + n) =
      buf.drop (start + src.length + n) := by
  have hfront : (buf.take start ++ src).length = start + src.length := by
    rw [List.length_append, List.length_take, Nat.min_eq_left h]
  rw [overwrite, ← List.drop_drop, List.drop_left' hfront, List.drop_drop]

/-- Writing from the start. -/
theorem overwrite_zero (buf src : List α) :
    overwrite buf 0 src = src ++ buf.drop src.length := by
  simp [overwrite]

/-- Writing on behind what was written. -/
theorem overwrite_overwrite {buf : List α} {start : ℕ} (src src' : List α)
    (h : start ≤ buf.length) :
    overwrite (overwrite buf start src) (start + src.length) src' =
      overwrite buf start (src ++ src') := by
  rw [overwrite, take_overwrite src h, drop_overwrite src h, overwrite,
    List.length_append, Nat.add_assoc, List.append_assoc (buf.take start)]

/-- A buffer filled from its start. -/
theorem overwrite_front {buf src src' : List α} {n : ℕ}
    (hn : src.length = n) :
    overwrite (overwrite buf 0 src) n src' = overwrite buf 0 (src ++ src') := by
  have hmore := overwrite_overwrite src src' (Nat.zero_le buf.length)
  rw [Nat.zero_add, hn] at hmore
  exact hmore

theorem take_overwrite_front {buf src : List α} {n : ℕ}
    (hn : src.length = n) : (overwrite buf 0 src).take n = src := by
  rw [overwrite_zero]
  exact List.take_left' hn

theorem length_overwrite_front {buf src : List α}
    (h : src.length ≤ buf.length) :
    (overwrite buf 0 src).length = buf.length := by
  apply length_overwrite
  rw [Nat.zero_add]
  exact h

section Access

variable (oob : ∀ β : Type, Prog I σ β)

def readAt (buf : List α) (i : ℕ) : Prog I σ α :=
  if h : i < buf.length then pure buf[i] else oob α

def writeAt (buf : List α) (i : ℕ) (c : α) : Prog I σ (List α) :=
  if i < buf.length then pure (buf.set i c) else oob (List α)

/-- The `n` cells from `start` on. -/
def readRange (buf : List α) (start n : ℕ) : Prog I σ (List α) :=
  if start + n ≤ buf.length then pure ((buf.drop start).take n)
  else oob (List α)

/-- These cells, written from `start` on. -/
def writeRange (buf : List α) (start : ℕ) (src : List α) :
    Prog I σ (List α) :=
  if start + src.length ≤ buf.length then pure (overwrite buf start src)
  else oob (List α)

/-- `memcpy` of `n` cells. -/
def copyRange (dst : List α) (start : ℕ) (src : List α) (from' n : ℕ) :
    Prog I σ (List α) := do
  let cells ← readRange oob src from' n
  writeRange oob dst start cells

variable {oob}

theorem readAt_eq {buf : List α} {i : ℕ} (h : i < buf.length) :
    readAt oob buf i = pure buf[i] := dif_pos h

theorem readAt_getD {buf : List α} {i : ℕ} (h : i < buf.length) (d : α) :
    readAt oob buf i = pure (buf.getD i d) := by
  rw [readAt_eq h, List.getElem_eq_getD d]

theorem writeAt_eq {buf : List α} {i : ℕ} (h : i < buf.length) (c : α) :
    writeAt oob buf i c = pure (overwrite buf i [c]) := by
  rw [writeAt, if_pos h, set_eq_overwrite h]

theorem readRange_eq {buf : List α} {start n : ℕ}
    (h : start + n ≤ buf.length) :
    readRange oob buf start n = pure ((buf.drop start).take n) := if_pos h

theorem writeRange_eq {buf : List α} {start : ℕ} {src : List α}
    (h : start + src.length ≤ buf.length) :
    writeRange oob buf start src = pure (overwrite buf start src) := if_pos h

theorem copyRange_eq {dst src : List α} {start from' n : ℕ}
    (hsrc : from' + n ≤ src.length) (hdst : start + n ≤ dst.length) :
    copyRange oob dst start src from' n =
      pure (overwrite dst start ((src.drop from').take n)) := by
  have hlength : ((src.drop from').take n).length = n := by
    rw [List.length_take, List.length_drop]
    omega
  rw [copyRange, readRange_eq hsrc, pure_bind, writeRange_eq]
  rw [hlength]
  exact hdst

end Access

/-! ## Cells in use -/

namespace Filled

variable {size : ℕ} (oob : ∀ β : Type, Prog I σ β)

/-- `a[len++] = c`. -/
def push (a : Filled α size) (c : α) : Prog I σ (Filled α size) :=
  if h : a.len < size then
    pure {
      cells := a.cells.set a.len c
      size_eq := by rw [List.length_set, a.size_eq]
      len := a.len + 1
      len_le := h }
  else oob (Filled α size)

/-- `memcpy` of `n` cells to the start of the array, which are then the ones in
use. -/
def copyFrom (a : Filled α size) (src : List α) (start n : ℕ) :
    Prog I σ (Filled α size) :=
  if h : start + n ≤ src.length ∧ n ≤ size then
    pure {
      cells := (src.drop start).take n ++ a.cells.drop n
      size_eq := by
        rw [List.length_append, List.length_take, List.length_drop,
          List.length_drop, a.size_eq]
        omega
      len := n
      len_le := h.2 }
  else oob (Filled α size)

/-- `a[len++] = c` for each of these. -/
def pushAll (a : Filled α size) : List α → Prog I σ (Filled α size)
  | [] => pure a
  | c :: cs => do
      let a ← push oob a c
      pushAll a cs

/-- `memcpy` of the first `n` cells to behind the ones in use. -/
def append (a : Filled α size) (src : List α) (n : ℕ) :
    Prog I σ (Filled α size) :=
  if h : n ≤ src.length ∧ a.len + n ≤ size then
    pure {
      cells := overwrite a.cells a.len (src.take n)
      size_eq := by
        rw [length_overwrite, a.size_eq]
        rw [List.length_take, a.size_eq]
        omega
      len := a.len + n
      len_le := h.2 }
  else oob (Filled α size)

variable {oob}

theorem push_eq {a : Filled α size} (h : a.len < size) (c : α) :
    ∃ a' : Filled α size, push oob a c = pure a' ∧
      a'.used = a.used ++ [c] := by
  refine ⟨_, dif_pos h, ?_⟩
  have hin : a.len < a.cells.length := a.size_eq.symm ▸ h
  have hwritten : (a.cells.set a.len c).take (a.len + 1) =
      a.cells.take a.len ++ [c] := by
    rw [set_eq_overwrite hin]
    exact take_overwrite [c] (Nat.le_of_lt hin)
  exact hwritten

variable (oob) in
theorem pushAll_eq {a : Filled α size} {cs : List α}
    (h : a.len + cs.length ≤ size) :
    ∃ a' : Filled α size, pushAll oob a cs = pure a' ∧
      a'.used = a.used ++ cs := by
  induction cs generalizing a with
  | nil => exact ⟨a, rfl, (List.append_nil a.used).symm⟩
  | cons c cs ih =>
      rw [List.length_cons] at h
      obtain ⟨a', hpush, hused⟩ : ∃ a' : Filled α size,
          push oob a c = pure a' ∧ a'.used = a.used ++ [c] :=
        push_eq (by omega) c
      have hlen := congrArg List.length hused
      rw [length_used, List.length_append, length_used,
        List.length_singleton] at hlen
      obtain ⟨a'', hrest, hused'⟩ := ih (a := a') (by omega)
      refine ⟨a'', ?_, ?_⟩
      · rw [pushAll, hpush, pure_bind, hrest]
      · rw [hused', hused, List.append_assoc, List.singleton_append]

variable (oob) in
theorem append_eq {a : Filled α size} {src : List α} {n : ℕ}
    (hsrc : n ≤ src.length) (hsize : a.len + n ≤ size) :
    ∃ a' : Filled α size, append oob a src n = pure a' ∧
      a'.used = a.used ++ src.take n := by
  refine ⟨_, dif_pos ⟨hsrc, hsize⟩, ?_⟩
  have hin : a.len ≤ a.cells.length := a.size_eq.symm ▸ a.len_le
  have hlength : (src.take n).length = n := by
    rw [List.length_take, Nat.min_eq_left hsrc]
  have hwritten := take_overwrite (src.take n) hin
  rw [hlength] at hwritten
  exact hwritten

theorem copyFrom_eq {a : Filled α size} {src : List α} {start n : ℕ}
    (hsrc : start + n ≤ src.length) (hsize : n ≤ size) :
    ∃ a' : Filled α size, copyFrom oob a src start n = pure a' ∧ a'.len = n ∧
      a'.used = (src.drop start).take n := by
  refine ⟨_, dif_pos ⟨hsrc, hsize⟩, rfl, ?_⟩
  have hlength : ((src.drop start).take n).length = n := by
    rw [List.length_take, List.length_drop]
    omega
  exact List.take_left' hlength

end Filled

/-! ## A buffer that starts over -/

/-- What a buffer of `size` cells holds of a text if the symbol it has no room
for empties it and is dropped. -/
def startedOver (size : ℕ) (text : List α) : List α :=
  text.drop (text.length / (size + 1) * (size + 1))

@[simp]
theorem length_startedOver (size : ℕ) (text : List α) :
    (startedOver size text).length = text.length % (size + 1) := by
  have hdivision := Nat.div_add_mod' text.length (size + 1)
  rw [startedOver, List.length_drop]
  omega

/-- The next symbol, whether there is room for it or not. -/
theorem startedOver_concat (size : ℕ) (text : List α) (c : α) :
    startedOver size (text ++ [c]) =
      if (startedOver size text).length < size then startedOver size text ++ [c]
      else [] := by
  have hlen : (text ++ [c]).length = text.length + 1 := by simp
  have hdivision := Nat.div_add_mod' text.length (size + 1)
  have hnext : (text.length / (size + 1) + 1) * (size + 1) =
      text.length / (size + 1) * (size + 1) + (size + 1) := Nat.succ_mul _ _
  have hmod : text.length % (size + 1) < size + 1 :=
    Nat.mod_lt _ (Nat.succ_pos size)
  rw [length_startedOver]
  split
  · have hquotient : (text.length + 1) / (size + 1) =
        text.length / (size + 1) := by
      apply Nat.div_eq_of_lt_le <;> omega
    rw [startedOver, hlen, hquotient, List.drop_append_of_le_length (by omega),
      startedOver]
  · have hquotient : (text.length + 1) / (size + 1) =
        text.length / (size + 1) + 1 := by
      apply Nat.div_eq_of_lt_le
      · omega
      · rw [Nat.succ_mul]
        omega
    rw [startedOver, hlen, hquotient, hnext]
    apply List.drop_eq_nil_of_le
    omega

/-! ## Records that fit -/

/-- A buffer with these records behind it, but for those that no longer
fit. -/
def appendFitting (bytes : β → List α) (max : ℕ) (buf : List α)
    (records : List β) : List α :=
  records.foldl (fun buf record =>
    if buf.length + (bytes record).length > max then buf
    else buf ++ bytes record) buf

theorem appendFitting_cons (bytes : β → List α) (max : ℕ) (buf : List α)
    (record : β) (records : List β) :
    appendFitting bytes max buf (record :: records) =
      appendFitting bytes max
        (if buf.length + (bytes record).length > max then buf
          else buf ++ bytes record) records := rfl

/-- No record is cut, and their order stays. -/
theorem appendFitting_eq (bytes : β → List α) (max : ℕ) (buf : List α)
    (records : List β) :
    ∃ kept : List β, kept.Sublist records ∧
      appendFitting bytes max buf records = buf ++ kept.flatMap bytes := by
  induction records generalizing buf with
  | nil => exact ⟨[], List.Sublist.refl [], (List.append_nil buf).symm⟩
  | cons record records ih =>
      rw [appendFitting_cons]
      split
      · obtain ⟨kept, hkept, heq⟩ := ih buf
        exact ⟨kept, hkept.cons record, heq⟩
      · obtain ⟨kept, hkept, heq⟩ := ih (buf ++ bytes record)
        refine ⟨record :: kept, hkept.cons_cons record, ?_⟩
        rw [heq, List.flatMap_cons, List.append_assoc]

theorem length_appendFitting (bytes : β → List α) {max : ℕ} {buf : List α}
    (hbuf : buf.length ≤ max) (records : List β) :
    (appendFitting bytes max buf records).length ≤ max := by
  induction records generalizing buf with
  | nil => exact hbuf
  | cons record records ih =>
      rw [appendFitting_cons]
      split
      · exact ih hbuf
      · apply ih
        rw [List.length_append]
        omega

/-- With room for all of them none is left out. -/
theorem appendFitting_of_fits {bytes : β → List α} {max : ℕ} {buf : List α}
    {records : List β}
    (hfits : buf.length + (records.flatMap bytes).length ≤ max) :
    appendFitting bytes max buf records = buf ++ records.flatMap bytes := by
  induction records generalizing buf with
  | nil => exact (List.append_nil buf).symm
  | cons record records ih =>
      rw [List.flatMap_cons, List.length_append] at hfits
      have hrecord : ¬buf.length + (bytes record).length > max := by omega
      rw [appendFitting_cons, if_neg hrecord, ih, List.flatMap_cons,
        List.append_assoc]
      rw [List.length_append]
      omega

/-! ## A program seen through an abstraction -/

/-- With its value abstracted, the first program is the second. -/
def Shows (abs : α → β) (m : Prog I σ α) (m' : Prog I σ β) : Prop :=
  (m >>= fun a => pure (abs a)) = m'

variable {δ : Type} {abs : α → β} {abs' : γ → δ}

theorem Shows.pure {a : α} {b : β} (h : abs a = b) :
    Shows abs (Pure.pure a : Prog I σ α) (Pure.pure b) := by
  rw [Shows, pure_bind, h]

theorem Shows.bind {m : Prog I σ α} {m' : Prog I σ β}
    {f : α → Prog I σ γ} {f' : β → Prog I σ δ} (hm : Shows abs m m')
    (hf : ∀ a, Shows abs' (f a) (f' (abs a))) :
    Shows abs' (m >>= f) (m' >>= f') := by
  rw [Shows, bind_assoc, ← hm, bind_assoc]
  congr 1
  funext a
  rw [pure_bind]
  exact hf a

/-- After a step that both programs make. -/
theorem Shows.after {m : Prog I σ α} {f : α → Prog I σ γ}
    {f' : α → Prog I σ δ} (hf : ∀ a, Shows abs' (f a) (f' a)) :
    Shows abs' (m >>= f) (m >>= f') := by
  rw [Shows, bind_assoc]
  congr 1
  funext a
  exact hf a

theorem Shows.ite {c : Prop} [Decidable c] {m n : Prog I σ α}
    {m' n' : Prog I σ β} (hm : c → Shows abs m m')
    (hn : ¬c → Shows abs n n') :
    Shows abs (if c then m else n) (if c then m' else n') := by
  split
  · exact hm ‹_›
  · exact hn ‹_›

/-- Only what a program can return matters to what it shows then. -/
theorem Yields.shows {P : α → Prop} {m : Prog I σ α} {f : α → Prog I σ γ}
    {f' : α → Prog I σ δ} (hm : Yields P m)
    (hf : ∀ a, P a → Shows abs' (f a) (f' a)) :
    Shows abs' (m >>= f) (m >>= f') := by
  rw [Shows, bind_assoc]
  exact hm.congr hf

end EzspSpi.Program
