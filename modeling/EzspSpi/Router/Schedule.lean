import EzspSpi.Router.Wakeup

/-!
# The schedule of the reports

`report_interval` adds up to two fifths of `report_secs` to four fifths of it,
in an `unsigned`, and `cmd_run` turns the seconds left until a report into the
milliseconds of its wait, in a `long`.  Neither sum has to fit.
-/

namespace EzspSpi

open Program

/-! ## The interval -/

/-- What `report_interval` returns for an answer of `rand`. -/
def intervalFor (secs : BitVec 32) (random : ℕ) : BitVec 32 :=
  if secs / 5 = 0 then secs
  else secs - secs / 5 + BitVec.ofNat 32 random % (2 * (secs / 5) + 1)

/-- Up to a fifth of `report_secs` away from it. -/
def WithinAFifth (secs interval : BitVec 32) : Prop :=
  secs.toNat - secs.toNat / 5 ≤ interval.toNat ∧
    interval.toNat ≤ secs.toNat + secs.toNat / 5

instance (secs interval : BitVec 32) : Decidable (WithinAFifth secs interval) :=
  inferInstanceAs (Decidable (_ ∧ _))

/-- The sum of `report_interval` fits an `unsigned`. -/
def JitterFits (secs : BitVec 32) (random : ℕ) : Prop :=
  secs.toNat - secs.toNat / 5 +
    random % 2 ^ 32 % (2 * (secs.toNat / 5) + 1) < 2 ^ 32

instance (secs : BitVec 32) (random : ℕ) : Decidable (JitterFits secs random) :=
  inferInstanceAs (Decidable (_ < _))

theorem intervalFor_toNat (secs : BitVec 32) (random : ℕ) :
    (intervalFor secs random).toNat =
      (secs.toNat - secs.toNat / 5 +
        random % 2 ^ 32 % (2 * (secs.toNat / 5) + 1)) % 2 ^ 32 := by
  have hsecs := secs.isLt
  have hspan : (secs / 5).toNat = secs.toNat / 5 := BitVec.toNat_udiv
  have hrange : (2 * (secs / 5) + 1).toNat = 2 * (secs.toNat / 5) + 1 := by
    rw [BitVec.toNat_add, BitVec.toNat_mul, hspan]
    change (2 * (secs.toNat / 5) % 2 ^ 32 + 1) % 2 ^ 32 = _
    omega
  rw [intervalFor]
  split
  case isTrue hzero =>
    rw [hzero] at hspan
    have hsmall : secs.toNat / 5 = 0 := hspan.symm
    rw [hsmall, Nat.mul_zero, Nat.zero_add, Nat.mod_one, Nat.add_zero,
      Nat.sub_zero, Nat.mod_eq_of_lt hsecs]
  case isFalse =>
    have hbase : (secs - secs / 5).toNat = secs.toNat - secs.toNat / 5 := by
      rw [BitVec.toNat_sub, hspan]
      omega
    rw [BitVec.toNat_add, BitVec.toNat_umod, hbase, hrange, BitVec.toNat_ofNat]

/-- A sum that does not fit comes out short of four fifths. -/
theorem intervalFor_withinAFifth_iff (secs : BitVec 32) (random : ℕ) :
    WithinAFifth secs (intervalFor secs random) ↔ JitterFits secs random := by
  have hsecs := secs.isLt
  have hjitter : random % 2 ^ 32 % (2 * (secs.toNat / 5) + 1) <
      2 * (secs.toNat / 5) + 1 := Nat.mod_lt _ (Nat.succ_pos _)
  rw [WithinAFifth, JitterFits, intervalFor_toNat]
  omega

/-! ## The wait -/

/-- The seconds left until a time, in the 32 bits of a `long`. -/
def secondsLeft (nextReport now : Int) : Int :=
  max 0 ((nextReport - now).bmod (2 ^ 32))

/-- The milliseconds left fit a `long`, or wrap to ones that do. -/
def DelayFits (nextReport now : Int) : Prop :=
  1000 * secondsLeft nextReport now % 2 ^ 32 < 2 ^ 31

instance (nextReport now : Int) : Decidable (DelayFits nextReport now) :=
  inferInstanceAs (Decidable (_ < _))

/-- It is enough that the report is due within 24 days. -/
theorem delayFits_of_le {nextReport now : Int}
    (hfuture : nextReport - now ≤ 2147483)
    (hpast : -2 ^ 31 ≤ nextReport - now) : DelayFits nextReport now := by
  have hdue : (nextReport - now).bmod (2 ^ 32) = nextReport - now := by
    rw [Int.bmod_def]
    omega
  have hleft : 0 ≤ secondsLeft nextReport now ∧
      secondsLeft nextReport now ≤ 2147483 := by
    rw [secondsLeft, hdue]
    omega
  rw [DelayFits, Int.emod_eq_of_lt (by omega) (by omega)]
  omega

theorem runTimeout_inRange_iff (nextReport now : Int) :
    (0 ≤ runTimeout nextReport now ∧ runTimeout nextReport now ≤ 30000) ↔
      DelayFits nextReport now := by
  have htimeout : runTimeout nextReport now =
      min ((1000 * secondsLeft nextReport now).bmod (2 ^ 32)) 30000 := by
    rw [runTimeout, ← secondsLeft, mul_comm]
    omega
  rw [htimeout, DelayFits, Int.bmod_def]
  omega

/-! ## Every wait of every run -/

/-- The timeout of a wait. -/
def waitMs : HostEvent → Option Int
  | .call (.pollEvents _ timeout) _ => some timeout
  | _ => none

/-- Every wait among these events ends after half a minute at most. -/
def WaitsInRange (t : List HostEvent) : Prop :=
  ∀ e ∈ t, ∀ ms ∈ waitMs e, 0 ≤ ms ∧ ms ≤ 30000

instance (t : List HostEvent) : Decidable (WaitsInRange t) :=
  inferInstanceAs (Decidable (∀ e ∈ t, _))

theorem waitMs_of_pollSet {e : HostEvent} (he : pollSet e = none) :
    waitMs e = none := by
  cases e with
  | note n => rfl
  | call call r =>
      cases call with
      | pollEvents fds timeout => cases he
      | _ => rfl

variable {σ : Type} [Kernel σ]

omit [Kernel σ] in
theorem waitsInRange_of_awake {α : Type} {m : Host σ α}
    (hm : Emits (fun e => pollSet e = none) m) (s : σ) :
    WaitsInRange (m s).trace := by
  intro e he ms hms
  rw [waitMs_of_pollSet (hm.of_mem he)] at hms
  exact absurd hms (Option.not_mem_none ms)

variable (g : Globals) (c : RouterCfg) (p : Pins)

theorem reportInterval_apply (s : σ) :
    (reportInterval c s).outcome = .done (intervalFor c.reportSecs
      (Surroundings.answer (I := host) .rand s).1) := by
  rw [reportInterval, intervalFor]
  split
  · rfl
  · rfl

/-- The wait of a pass from here, if there is anything to wait for, fits. -/
def WaitFits (st : Running) (s : σ) : Prop :=
  ∀ watch, (runWatch p s).outcome = .done watch →
    0 ≤ st.listenFd ∨ watch = true →
      DelayFits st.nextReport
        (Surroundings.answer (I := host) .time (runWatch p s).world).1

variable {c}

theorem runPoll_waits_iff (hreports : c.reportSecs ≠ 0) (st : Running)
    (watch : Bool) (s : σ) :
    WaitsInRange (runPoll c p st watch s).trace ↔
      (0 ≤ st.listenFd ∨ watch = true →
        DelayFits st.nextReport
          (Surroundings.answer (I := host) .time s).1) := by
  have hfds : (if 0 ≤ st.listenFd then [st.listenFd] else []) ++
      (if watch then [p.hint] else []) ≠ [] ↔
        0 ≤ st.listenFd ∨ watch = true := by
    by_cases hlisten : 0 ≤ st.listenFd
    · simp [hlisten]
    · simp [hlisten]
  rw [runPoll, if_pos hreports, call_bind_apply]
  dsimp only
  rw [pure_bind, ← runTimeout_inRange_iff]
  by_cases hwait : 0 ≤ st.listenFd ∨ watch = true
  · rw [if_pos (hfds.mpr hwait)]
    constructor
    · exact fun hall _ => hall _ (List.mem_cons_of_mem _ List.mem_cons_self) _ rfl
    · intro hrange e he ms hms
      rcases List.mem_cons.mp he with rfl | he
      · exact absurd hms (Option.not_mem_none ms)
      · cases List.mem_singleton.mp he
        cases hms
        exact hrange hwait
  · rw [if_neg (mt hfds.mp hwait)]
    refine ⟨fun _ h => absurd h hwait, fun _ e he ms hms => ?_⟩
    cases List.mem_singleton.mp he
    exact absurd hms (Option.not_mem_none ms)

theorem runPass_waits_iff (hreports : c.reportSecs ≠ 0) (polls : ℕ)
    (st : Running) (s : σ) :
    WaitsInRange (runPass g c p polls st s).trace ↔ WaitFits p st s := by
  have hlook : Emits (fun e => pollSet e = none) (runWatch p : Host σ Bool) := by
    apply Emits.ite
    · exact Emits.bind (Emits.call fun _ => rfl) fun _ => Emits.pure
    · exact Emits.pure
  rw [runPass, WaitsInRange, forall_trace_bind]
  constructor
  · rintro ⟨-, hrest⟩ watch hwatch
    exact (runPoll_waits_iff p hreports st watch _).mp
      (forall_trace_bind.mp (hrest watch hwatch)).1
  · intro hfits
    refine ⟨waitsInRange_of_awake hlook s, fun watch hwatch => ?_⟩
    refine forall_trace_bind.mpr ⟨(runPoll_waits_iff p hreports st watch _).mpr
      (hfits watch hwatch), fun revents _ => ?_⟩
    exact waitsInRange_of_awake (runServe_awake g c polls st watch revents) _

/-- So many passes wait in range exactly if the wait of each of them fits. -/
theorem runPasses_waits_iff (hreports : c.reportSecs ≠ 0)
    (polls passes : ℕ) (st : Running) (s : σ) :
    WaitsInRange (runPasses g c p polls passes st s).trace ↔
      ∀ n < passes, ∀ st',
        (runPasses g c p polls n st s).outcome = .done st' →
          WaitFits p st' (runPasses g c p polls n st s).world := by
  induction passes generalizing st s with
  | zero =>
      exact ⟨fun _ n hn => absurd hn n.not_lt_zero,
        fun _ e he => absurd he List.not_mem_nil⟩
  | succ passes ih =>
      rw [runPasses, WaitsInRange, forall_trace_bind]
      constructor
      · rintro ⟨hfirst, hrest⟩ n hn st' houtcome
        cases n with
        | zero =>
            cases houtcome
            exact (runPass_waits_iff g p hreports polls st s).mp hfirst
        | succ n =>
            rw [runPasses, bind_apply] at houtcome ⊢
            cases hpass : (runPass g c p polls st s).outcome with
            | halt why =>
                rw [Run.andThen_of_halt hpass] at houtcome
                cases houtcome
            | done st₁ =>
                rw [Run.andThen_of_done hpass] at houtcome ⊢
                exact (ih st₁ _).mp (hrest st₁ hpass) n
                  (Nat.lt_of_succ_lt_succ hn) st' houtcome
      · intro hall
        refine ⟨(runPass_waits_iff g p hreports polls st s).mpr
          (hall 0 (Nat.succ_pos _) st rfl), fun st₁ hpass => ?_⟩
        refine (ih st₁ _).mpr fun n hn st' houtcome => ?_
        have hnext := hall (n + 1) (Nat.succ_lt_succ hn) st'
        rw [runPasses, bind_apply, Run.andThen_of_done hpass] at hnext
        exact hnext houtcome

/-- What the run reaches after so many passes is what they lead to. -/
theorem runReach_done_iff (polls n : ℕ) (out : List Byte) (r : Router) (s : σ)
    (P : Running → σ → Prop) :
    (∀ st, (runReach g c p polls n out r s).outcome = .done (some st) →
        P st (runReach g c p polls n out r s).world) ↔
      ∀ st₀, (runStart g c p r out s).outcome = .done (some st₀) →
        ∀ st, (runPasses g c p polls n st₀
            (runStart g c p r out s).world).outcome = .done st →
          P st (runPasses g c p polls n st₀
            (runStart g c p r out s).world).world := by
  rw [runReach, bind_apply]
  cases hstart : (runStart g c p r out s).outcome with
  | halt why =>
      rw [Run.andThen_of_halt hstart]
      constructor
      · intro _ st₀ h
        cases h
      · intro _ st h
        cases h
  | done start =>
      rw [Run.andThen_of_done hstart]
      cases start with
      | none =>
          constructor
          · intro _ st₀ h
            cases h
          · intro _ st h
            cases h
      | some st₀ =>
          dsimp only
          rw [bind_apply]
          cases hrun : (runPasses g c p polls n st₀
              (runStart g c p r out s).world).outcome with
          | halt why =>
              rw [Run.andThen_of_halt hrun]
              constructor
              · rintro - _ ⟨⟩ st h
                rw [hrun] at h
                cases h
              · intro _ st h
                cases h
          | done st =>
              rw [Run.andThen_of_done hrun]
              constructor
              · rintro hall _ ⟨⟩ st' h
                rw [hrun] at h
                cases h
                exact hall st rfl
              · rintro hall _ ⟨⟩
                exact hall st₀ rfl st hrun

theorem runStart_awake (c : RouterCfg) (r : Router) (out : List Byte) :
    Emits (fun e => pollSet e = none)
      (runStart g c p r out : Host σ (Option Running)) :=
  routerParts_awake.runStart g p (Emits.note rfl) trivial trivial c r out

theorem cmdRun_waits_iff (hreports : c.reportSecs ≠ 0) (polls passes : ℕ)
    (out : List Byte) (r : Router) (s : σ) :
    WaitsInRange (cmdRun g c p polls passes out r s).trace ↔
      ∀ n < passes, ∀ st,
        (runReach g c p polls n out r s).outcome = .done (some st) →
          WaitFits p st (runReach g c p polls n out r s).world := by
  have hend (st₀ : Running) (s' : σ) :
      WaitsInRange ((do
        let _ ← runPasses g c p polls passes st₀
        pure 0 : Host σ ℕ) s').trace ↔
      WaitsInRange (runPasses g c p polls passes st₀ s').trace := by
    rw [WaitsInRange, forall_trace_bind]
    exact and_iff_left fun _ _ _ he => absurd he List.not_mem_nil
  rw [cmdRun, WaitsInRange, forall_trace_bind]
  constructor
  · rintro ⟨-, hrest⟩ n hn
    apply (runReach_done_iff g p polls n out r s (WaitFits p)).mpr
    intro st₀ hstart
    exact (runPasses_waits_iff g p hreports polls passes st₀ _).mp
      ((hend st₀ _).mp (hrest (some st₀) hstart)) n hn
  · intro hall
    refine ⟨waitsInRange_of_awake (runStart_awake g p c r out) s, ?_⟩
    intro start hstart
    cases start with
    | none => exact fun _ he => absurd he List.not_mem_nil
    | some st₀ =>
        apply (hend st₀ _).mpr
        apply (runPasses_waits_iff g p hreports polls passes st₀ _).mpr
        intro n hn
        exact (runReach_done_iff g p polls n out r s (WaitFits p)).mp
          (hall n hn) st₀ hstart

/-- The interval is within a fifth of `report_secs` exactly if its sum fits an
`unsigned`, and every wait of every run is in range exactly if, at the clock
reading before it, the milliseconds left fit a `long`. -/
theorem schedule_inRange_iff (hreports : c.reportSecs ≠ 0) :
    (∀ (s : σ) (interval : BitVec 32),
      (reportInterval c s).outcome = .done interval →
        (WithinAFifth c.reportSecs interval ↔
          JitterFits c.reportSecs
            (Surroundings.answer (I := host) .rand s).1)) ∧
    ∀ (polls passes : ℕ) (out : List Byte) (r : Router) (s : σ),
      WaitsInRange (cmdRun g c p polls passes out r s).trace ↔
        ∀ n < passes, ∀ st,
          (runReach g c p polls n out r s).outcome = .done (some st) →
            WaitFits p st (runReach g c p polls n out r s).world := by
  refine ⟨?_, cmdRun_waits_iff g p hreports⟩
  intro s interval hinterval
  rw [reportInterval_apply] at hinterval
  cases hinterval
  exact intervalFor_withinAFifth_iff _ _

/-- A configuration that reports at this interval. -/
def reporting (secs : BitVec 32) : RouterCfg :=
  { defaultCfg with reportSecs := secs }

/-- Reporting once a day: two passes that wait in range, so that their waits
fit. -/
theorem schedule_inRange_iff_daily :
    (reporting 86400).reportSecs ≠ 0 ∧
    WithinAFifth 86400 69120 ∧
    ∀ n < 2, ∀ st,
      (runReach ⟨⟨2, false⟩, true⟩ (reporting 86400) ⟨3, 4, 5, 7, 6⟩ 1 n []
        routerInit afterDrain).outcome = .done (some st) →
      WaitFits ⟨3, 4, 5, 7, 6⟩ st (runReach ⟨⟨2, false⟩, true⟩
        (reporting 86400) ⟨3, 4, 5, 7, 6⟩ 1 n [] routerInit
          afterDrain).world := by
  have hreports : (reporting 86400).reportSecs ≠ 0 := by decide
  have hschedule := schedule_inRange_iff (σ := Interrupting)
    ⟨⟨2, false⟩, true⟩ ⟨3, 4, 5, 7, 6⟩ hreports
  refine ⟨hreports, ?_, ?_⟩
  · exact (hschedule.1 afterDrain 69120 (by decide +kernel)).mpr (by decide)
  · exact (hschedule.2 1 2 [] routerInit afterDrain).mp (by decide +kernel)

/-- Quiet surroundings in which `rand` always rolls the same. -/
structure Rolling where
  random : ℕ

instance : Kernel Rolling where
  answer
    | .rand, s => (s.random, s)
    | c, s => (quietAnswer c, s)

/-- At the end of `unsigned` the interval can come out as no time at all, and
with reports 32 days apart the daemon goes to sleep for a negative time, which
is for ever. -/
theorem schedule_out_of_range :
    (¬∀ (c : RouterCfg) (s : Rolling) (interval : BitVec 32),
      c.reportSecs ≠ 0 → (reportInterval c s).outcome = .done interval →
        WithinAFifth c.reportSecs interval) ∧
    ¬∀ (g : Globals) (c : RouterCfg) (p : Pins) (polls passes : ℕ)
      (out : List Byte) (r : Router) (s : Interrupting),
      c.reportSecs ≠ 0 →
        WaitsInRange (cmdRun g c p polls passes out r s).trace := by
  constructor
  · intro hall
    have hinterval := hall (reporting 4294967295) ⟨858993460⟩ 0 (by decide)
      (by decide +kernel)
    exact absurd hinterval (by decide)
  · intro hall
    have hwaits := hall ⟨⟨2, false⟩, true⟩ (reporting 2764800)
      ⟨3, 4, 5, 7, 6⟩ 1 2 [] routerInit afterDrain (by decide)
    exact absurd hwaits (by decide +kernel)

end EzspSpi
