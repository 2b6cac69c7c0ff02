import Mathlib.Data.BitVec
import Mathlib.Data.List.Basic

/-!
# Checksums by a shift register

A register that takes a message bit by bit and is reduced by a generator
whenever a bit leaves its high end.  It is linear in the register and the
message, and if the constant term of the generator is one no shift loses
anything.  So two messages that differ within as many consecutive bits as the
register has are never left with the same register, and a message followed by
its own register leaves it empty.
-/

namespace EzspSpi.ShiftRegister

variable {n : ℕ}

/-- What a bit that leaves the register adds to it. -/
def reduction (poly : BitVec n) (b : Bool) : BitVec n := if b then poly else 0

/-- One bit of the message, fed at the high end. -/
def feed (poly r : BitVec n) (b : Bool) : BitVec n :=
  (r <<< 1) ^^^ reduction poly (r.msb ^^ b)

/-- The register after a message. -/
def run (poly r : BitVec n) (message : List Bool) : BitVec n :=
  message.foldl (feed poly) r

/-- The bits of a word, the highest one first. -/
def highFirst (x : BitVec n) : List Bool := (List.range n).map x.getMsbD

@[simp]
theorem length_highFirst (x : BitVec n) : (highFirst x).length = n := by
  rw [highFirst, List.length_map, List.length_range]

theorem highFirst_injective : Function.Injective (highFirst (n := n)) := by
  intro x y heq
  apply BitVec.eq_of_getMsbD_eq
  intro i hi
  have hbits := List.map_inj_left.mp heq
  exact hbits i (List.mem_range.mpr hi)

variable (poly : BitVec n)

@[simp]
theorem run_nil (r : BitVec n) : run poly r [] = r := rfl

@[simp]
theorem run_cons (r : BitVec n) (b : Bool) (message : List Bool) :
    run poly r (b :: message) = run poly (feed poly r b) message := rfl

theorem run_append (r : BitVec n) (message message' : List Bool) :
    run poly r (message ++ message') =
      run poly (run poly r message) message' := List.foldl_append

/-! ## Linearity -/

theorem reduction_xor (b b' : Bool) :
    reduction poly (b ^^ b') = reduction poly b ^^^ reduction poly b' := by
  cases b <;> cases b' <;> simp [reduction]

theorem feed_xor (r r' : BitVec n) (b b' : Bool) :
    feed poly (r ^^^ r') (b ^^ b') = feed poly r b ^^^ feed poly r' b' := by
  have hbits : ((r.msb ^^ r'.msb) ^^ (b ^^ b')) =
      ((r.msb ^^ b) ^^ (r'.msb ^^ b')) := by
    cases r.msb <;> cases r'.msb <;> cases b <;> cases b' <;> rfl
  rw [feed, feed, feed, BitVec.msb_xor, BitVec.shiftLeft_xor_distrib, hbits,
    reduction_xor]
  ac_rfl

/-- The difference of two runs is the run of the difference. -/
theorem run_xor (r r' : BitVec n) {message message' : List Bool}
    (hlen : message.length = message'.length) :
    run poly (r ^^^ r') (List.zipWith xor message message') =
      run poly r message ^^^ run poly r' message' := by
  induction message generalizing r r' message' with
  | nil =>
      obtain rfl := List.eq_nil_of_length_eq_zero hlen.symm
      rfl
  | cons b message ih =>
      cases message' with
      | nil => exact absurd hlen (Nat.succ_ne_zero _)
      | cons b' message' =>
          rw [List.zipWith_cons_cons, run_cons, run_cons, run_cons, feed_xor]
          exact ih _ _ (Nat.succ.inj hlen)

theorem feed_zero_false : feed poly 0 false = 0 := by
  simp [feed, reduction]

theorem feed_zero_true : feed poly 0 true = poly := by
  simp [feed, reduction]

theorem run_zero_false (k : ℕ) :
    run poly 0 (List.replicate k false) = 0 := by
  induction k with
  | zero => rfl
  | succ k ih => rw [List.replicate_succ, run_cons, feed_zero_false, ih]

/-! ## Nothing is lost -/

/-- One of the `k` lowest bits is set. -/
def LowSet (k : ℕ) (r : BitVec n) : Prop := ∃ i < k, r.getLsbD i = true

theorem LowSet.ne_zero {k : ℕ} {r : BitVec n} (hr : LowSet k r) : r ≠ 0 := by
  rintro rfl
  obtain ⟨i, _, hi⟩ := hr
  simp at hi

variable {poly} (hpoly : poly.getLsbD 0 = true)

include hpoly

/-- The constant term of the generator comes in whenever it is used. -/
private theorem lowSet_reduced (r : BitVec n) :
    LowSet 1 ((r <<< 1) ^^^ reduction poly true) := by
  refine ⟨0, Nat.one_pos, ?_⟩
  simp [reduction, hpoly]

theorem LowSet.feed {k : ℕ} {r : BitVec n} (hr : LowSet k r) (hk : k < n)
    (b : Bool) : LowSet (k + 1) (feed poly r b) := by
  rw [ShiftRegister.feed]
  cases r.msb ^^ b with
  | true =>
      obtain ⟨i, hi, hset⟩ := lowSet_reduced hpoly r
      exact ⟨i, by omega, hset⟩
  | false =>
      obtain ⟨i, hi, hset⟩ := hr
      have hin : i + 1 < n := by omega
      refine ⟨i + 1, by omega, ?_⟩
      simp [reduction, hin, hset]

/-- A set bit among the lowest ones survives as many bits as are above it. -/
theorem run_ne_zero_of_lowSet {k : ℕ} {r : BitVec n} (hr : LowSet k r)
    {message : List Bool} (hlen : k + message.length ≤ n) :
    run poly r message ≠ 0 := by
  induction message generalizing k r with
  | nil => exact hr.ne_zero
  | cons b message ih =>
      rw [List.length_cons] at hlen
      exact ih (hr.feed hpoly (by omega) b) (by omega)

theorem feed_false_ne_zero {r : BitVec n} (hr : r ≠ 0) :
    feed poly r false ≠ 0 := by
  rw [feed, Bool.xor_false]
  cases hmsb : r.msb with
  | true => exact (lowSet_reduced hpoly r).ne_zero
  | false =>
      intro hzero
      apply hr
      apply BitVec.eq_of_getLsbD_eq
      intro i hi
      by_cases htop : i + 1 < n
      · have hbit := congrArg (fun x => x.getLsbD (i + 1)) hzero
        simpa [reduction, htop, hi] using hbit
      · have hlast : i = n - 1 := by omega
        rw [hlast, ← BitVec.msb_eq_getLsbD_last, hmsb]
        exact BitVec.getLsbD_zero.symm

theorem run_false_ne_zero {r : BitVec n} (hr : r ≠ 0) (k : ℕ) :
    run poly r (List.replicate k false) ≠ 0 := by
  induction k generalizing r with
  | zero => exact hr
  | succ k ih =>
      rw [List.replicate_succ, run_cons]
      exact ih (feed_false_ne_zero hpoly hr)

/-- A burst no longer than the register leaves a trace in it. -/
theorem run_burst_ne_zero {burst : List Bool} (hlen : burst.length ≤ n)
    (hset : true ∈ burst) : run poly 0 burst ≠ 0 := by
  induction burst with
  | nil => exact absurd hset List.not_mem_nil
  | cons b burst ih =>
      rw [List.length_cons] at hlen
      rw [run_cons]
      cases b with
      | false =>
          rw [feed_zero_false]
          exact ih (by omega) (by simpa using hset)
      | true =>
          have hfirst : LowSet 1 poly := ⟨0, Nat.one_pos, hpoly⟩
          rw [feed_zero_true]
          exact run_ne_zero_of_lowSet hpoly hfirst (by omega)

/-! ## Messages told apart -/

/-- The messages differ at most in the `n` bits from `start` on. -/
def DifferWithin (start n : ℕ) (message message' : List Bool) : Prop :=
  ∀ i : ℕ, i < start ∨ start + n ≤ i → message[i]? = message'[i]?

omit hpoly in
/-- The difference of such messages is empty outside of the burst. -/
private theorem DifferWithin.split {start : ℕ} {message message' : List Bool}
    (h : DifferWithin start n message message') :
    ∃ before after, List.zipWith xor message message' =
      List.replicate before false ++
        ((List.zipWith xor message message').drop start).take n ++
        List.replicate after false := by
  have hfalse (i : ℕ) (hi : i < (List.zipWith xor message message').length)
      (hout : i < start ∨ start + n ≤ i) :
      (List.zipWith xor message message')[i] = false := by
    have hlengths : i < message.length ∧ i < message'.length := by
      simpa using hi
    have hsame := h i hout
    rw [List.getElem?_eq_getElem hlengths.1,
      List.getElem?_eq_getElem hlengths.2, Option.some.injEq] at hsame
    simp [hsame]
  generalize List.zipWith xor message message' = difference at hfalse
  have hbefore : difference.take start =
      List.replicate (difference.take start).length false := by
    apply List.eq_replicate_iff.mpr ⟨rfl, _⟩
    intro b hb
    obtain ⟨i, hi, rfl⟩ := List.mem_take_iff_getElem.mp hb
    exact hfalse i (by omega) (Or.inl (by omega))
  have hafter : difference.drop (start + n) =
      List.replicate (difference.drop (start + n)).length false := by
    apply List.eq_replicate_iff.mpr ⟨rfl, _⟩
    intro b hb
    obtain ⟨i, hi, rfl⟩ := List.mem_drop_iff_getElem.mp hb
    exact hfalse _ (by omega) (Or.inr (by omega))
  refine ⟨(difference.take start).length,
    (difference.drop (start + n)).length, ?_⟩
  rw [← hbefore, ← hafter, ← List.drop_drop, List.append_assoc,
    List.take_append_drop, List.take_append_drop]

omit hpoly in
private theorem eq_of_difference_false {message message' : List Bool}
    (hlen : message.length = message'.length)
    (hfalse : true ∉ List.zipWith xor message message') :
    message = message' := by
  apply List.ext_getElem hlen
  intro i hi hi'
  by_contra hne
  apply hfalse
  have hin : i < (List.zipWith xor message message').length := by
    rw [List.length_zipWith]
    exact lt_min hi hi'
  have hset : (List.zipWith xor message message')[i] = true := by
    rw [List.getElem_zipWith]
    simpa using hne
  exact hset ▸ List.getElem_mem hin

/-- Two messages that differ, within as many bits as the register has, leave
it different. -/
theorem run_ne_of_differWithin {message message' : List Bool} {start : ℕ}
    (hlen : message.length = message'.length) (hne : message ≠ message')
    (hwithin : DifferWithin start n message message') (r : BitVec n) :
    run poly r message ≠ run poly r message' := by
  intro heq
  have hzero : run poly 0 (List.zipWith xor message message') = 0 := by
    have hdifference := run_xor poly r r hlen
    rwa [heq, BitVec.xor_self, BitVec.xor_self] at hdifference
  obtain ⟨before, after, hsplit⟩ := hwithin.split
  have hset : true ∈ List.zipWith xor message message' := by
    by_contra hfalse
    exact hne (eq_of_difference_false hlen hfalse)
  rw [hsplit] at hset hzero
  rw [run_append, run_append, run_zero_false] at hzero
  have hburst : true ∈
      ((List.zipWith xor message message').drop start).take n := by
    simpa [List.mem_replicate] using hset
  exact run_false_ne_zero hpoly
    (run_burst_ne_zero hpoly (List.length_take_le _ _) hburst) after hzero

/-! ## A message followed by its register -/

omit hpoly in
private theorem run_highFirst_take (r : BitVec n) (k : ℕ) :
    run poly r ((List.range k).map r.getMsbD) = r <<< k := by
  induction k with
  | zero => simp
  | succ k ih =>
      rw [List.range_succ, List.map_append, run_append, ih]
      simp [feed, reduction, BitVec.msb_shiftLeft, BitVec.shiftLeft_add]

/-- The register is emptied by its own bits and by no others. -/
theorem run_eq_zero_iff {r : BitVec n} {message : List Bool}
    (hlen : message.length = n) :
    run poly r message = 0 ↔ message = highFirst r := by
  have hown : run poly r (highFirst r) = 0 := by
    rw [highFirst, run_highFirst_take]
    exact BitVec.shiftLeft_eq_zero (le_refl n)
  constructor
  · intro hzero
    by_contra hne
    have hlengths : message.length = (highFirst r).length := by
      rw [hlen, length_highFirst]
    have hwithin : DifferWithin 0 n message (highFirst r) := by
      rintro i (hi | hi)
      · exact absurd hi (Nat.not_lt_zero i)
      · rw [List.getElem?_eq_none (by omega),
          List.getElem?_eq_none (by rw [length_highFirst]; omega)]
    exact run_ne_of_differWithin hpoly hlengths hne hwithin r
      (hzero.trans hown.symm)
  · rintro rfl
    exact hown

end EzspSpi.ShiftRegister
