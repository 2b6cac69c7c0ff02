import EzspSpi.Board.Flash

/-!
# Handing the radio back

When the flash script leaves the service as it found it, and never asks the
radio anything while the service runs.  The script exits wherever a command
fails, so its teardown runs once, from the script or from the trap, or begins
in the script and runs again in the trap.
-/

namespace EzspSpi.Flash

open Shell

/-! ## The service along a run -/

/-- Whether the service is stopped after a step. -/
def Step.leaves (stopped : Bool) : Step → Bool
  | .stop => true
  | .start => false
  | _ => stopped

def stoppedAfter (t : List Step) : Bool := t.foldl Step.leaves false

/-- Whatever was stopped has been started again, and at every `info` the
service is stopped. -/
structure HandsBack (t : List Step) : Prop where
  started : stoppedAfter t = false
  info_alone : ∀ before after, t = before ++ .info :: after →
    stoppedAfter before = true

/-- A step that is no command to the service and no `info`. -/
def Step.Quiet (c : Step) : Prop := c ≠ .stop ∧ c ≠ .start ∧ c ≠ .info

instance (c : Step) : Decidable c.Quiet := inferInstanceAs (Decidable (_ ∧ _))

theorem Step.Quiet.leaves {c : Step} (h : c.Quiet) (stopped : Bool) :
    c.leaves stopped = stopped := by
  cases c <;> first | rfl | simp [Step.Quiet] at h

theorem stoppedAfter_append_quiet (t : List Step) {t' : List Step}
    (h : ∀ c ∈ t', c.Quiet) : stoppedAfter (t ++ t') = stoppedAfter t := by
  rw [stoppedAfter, stoppedAfter, List.foldl_append]
  induction t' with
  | nil => rfl
  | cons c t' ih =>
      obtain ⟨hc, ht'⟩ := List.forall_mem_cons.mp h
      rw [List.foldl_cons, hc.leaves, ih ht']

theorem stoppedAfter_append_singleton (t : List Step) (c : Step) :
    stoppedAfter (t ++ [c]) = c.leaves (stoppedAfter t) := by
  rw [stoppedAfter, List.foldl_append]
  rfl

/-- A run without `info` hands the radio back if the service is up. -/
theorem HandsBack.of_not_mem {t : List Step} (hinfo : Step.info ∉ t)
    (hstarted : stoppedAfter t = false) : HandsBack t := by
  refine ⟨hstarted, fun before after ht => absurd ?_ hinfo⟩
  rw [ht]
  exact List.mem_append_right _ List.mem_cons_self

theorem not_mem_of_quiet {t : List Step} (h : ∀ c ∈ t, c.Quiet) :
    Step.info ∉ t := fun hmem => (h _ hmem).2.2 rfl

/-! ## What each part of the script needs to go on -/

section Parts

variable (m : Machine)

/-- The script gets as far as stopping the service. -/
def Machine.Stops : Prop :=
  m.ok .imageGiven ∧ m.ok .imageExists ∧ m.ok .tarballExists ∧
    m.ok (.say .stopping)

def Machine.Mounts (p : Place) : Prop :=
  m.ok (.bound p) = false → m.ok (.mount p)

def Machine.ImageChecked : Prop :=
  m.ok .sleepStopped ∧ m.ok (.say .checking) ∧ m.ok .verify

def Machine.RootPrepared : Prop :=
  m.ok (.say .preparing) ∧ m.ok .mkdirRoot ∧ m.ok .cdRoot ∧
    (m.ok .hasTool = false → m.ok .untar) ∧ m.ok .mkdirTree ∧
    (∀ a ∈ [Applet.sh, .sleep, .echo, .cat, .ls, .grep, .sed],
      m.ok (.linkApplet a)) ∧
    m.Mounts .dev ∧ m.Mounts .proc ∧ m.Mounts .sys

def Machine.LinesTaken (hw : Hardware) : Prop :=
  m.ok (.say .board) ∧ (hw.revision = 1 → m.ok (.say .untested)) ∧
    m.ok .writeSyscfg ∧ m.ok .chmodSyscfg ∧
    (∀ g ∈ [sysfs hw.ncs, sysfs hw.wake, 557, 561, 562],
      m.ok (.exported g) = false → m.ok (.exportedNow g)) ∧
    m.Mounts .gpio ∧ m.ok .cdGpio ∧
    m.ok (.linkGpio (sysfs hw.ncs) hw.ncs) ∧
    m.ok (.linkGpio (sysfs hw.wake) hw.wake) ∧
    m.ok (.linkGpio 557 45) ∧ m.ok (.linkGpio 561 49) ∧
    m.ok (.linkGpio 562 50) ∧ m.ok .cdBack

def Machine.HardwareRead : Prop :=
  m.ok .readBoard ∧ ∃ hw, hardware m.board = some hw ∧ m.LinesTaken hw

def Machine.Transferred : Prop :=
  m.ok .copyImage ∧ m.ok (.say .transferring) ∧ m.ok .transfer ∧
    m.ok (.say .transferred)

/-- Nothing fails between stopping the service and the end of the transfer. -/
def Machine.Flashes : Prop :=
  m.ImageChecked ∧ m.RootPrepared ∧ m.HardwareRead ∧ m.Transferred

/-- `teardown` gets as far as the restart. -/
def Machine.Dismantles (who : Caller) : Prop :=
  (∀ p ∈ [Place.gpio, .sys, .proc, .dev], m.ok (.mounted who p) →
    m.ok (.umount who p) = false → m.ok (.umountLazy who p)) ∧
  m.ok (.sleepUnmounted who) ∧
  (if m.ok (.stillMounted who) then m.ok (.say (.standing who)) = true
    else m.ok (.rmTree who) = true)

/-- `teardown` restarts the service it owes the node. -/
def Machine.Restarts (who : Caller) : Prop :=
  m.Dismantles who ∧ m.ok (.say (.restarting who))

end Parts

section Runs

variable {m : Machine}

/-- A part of the script that leaves the service alone and goes on under a
condition. -/
abbrev Passes (m : Machine) (part : Cmd Step Vars) (good : Prop) : Prop :=
  Steady m.ok Step.Quiet part good

theorem passes_run {c : Step} (hc : c.Quiet) : Passes m (.run c) (m.ok c) :=
  .run hc

theorem passes_ignored {c : Step} (hc : c.Quiet) :
    Passes m (.either (.run c) .skip) True :=
  .ignored (.run hc)

theorem passes_say (msg : Message) :
    Passes m (.run (.say msg)) (m.ok (.say msg)) :=
  .run (by simp [Step.Quiet])

theorem passes_refuse (msg : Message) : Passes m (refuse msg) False :=
  ((passes_say msg).seq .exit).congr (by simp)

/-- A command the script refuses to go on without. -/
theorem passes_demand {c : Step} (hc : c.Quiet) (msg : Message) :
    Passes m (.either (.run c) (refuse msg)) (m.ok c) :=
  (Steady.either (.run hc) (passes_refuse msg)).congr (by simp)

theorem passes_checkArguments :
    Passes m checkArguments
      (m.ok .imageGiven ∧ m.ok .imageExists ∧ m.ok .tarballExists) :=
  (passes_demand (by decide) _).seq
    ((passes_demand (by decide) _).seq (passes_demand (by decide) _))

theorem passes_checkImage : Passes m checkImage m.ImageChecked :=
  (passes_run (by decide)).seq
    ((passes_say _).seq (passes_demand (by decide) _))

theorem passes_mountOnce (p : Place) : Passes m (mountOnce p) (m.Mounts p) :=
  .either (.run (by simp [Step.Quiet])) (passes_run (by simp [Step.Quiet]))

theorem passes_linkApplets (applets : List Applet) :
    Passes m (.forEach applets fun a => .run (.linkApplet a))
      (∀ a ∈ applets, m.ok (.linkApplet a)) :=
  .forEach fun _ => .round (passes_run (by simp [Step.Quiet]))

theorem passes_prepareRoot : Passes m prepareRoot m.RootPrepared := by
  have htool : Passes m (.either (.run .hasTool) (.run .untar)) _ :=
    .either (.run (by decide)) (passes_run (by decide))
  have hmounts :=
    (passes_mountOnce (m := m) .dev).seq
      ((passes_mountOnce .proc).seq (passes_mountOnce .sys))
  have htree (applets : List Applet) :=
    (passes_run (m := m) (c := .mkdirTree) (by decide)).seq
      ((passes_linkApplets applets).seq hmounts)
  refine ((passes_say _).seq ((passes_run (by decide)).seq
    ((passes_run (by decide)).seq (htool.seq
      ((passes_ignored (by decide)).seq (htree _)))))).congr ?_
  simp only [Machine.RootPrepared, true_and]

theorem passes_exportLine (g : ℕ) :
    Passes m (.round (exportLine g))
      (m.ok (.exported g) = false → m.ok (.exportedNow g)) := by
  have hnow := (passes_ignored (m := m) (c := .doExport g)
    (by simp [Step.Quiet])).seq
      (passes_demand (c := .exportedNow g) (by simp [Step.Quiet])
        (.cannotExport g))
  refine (Steady.round_unless (.run (by simp [Step.Quiet])) hnow).congr ?_
  simp only [true_and]

theorem passes_linkGpio (line name : ℕ) :
    Passes m (.run (.linkGpio line name)) (m.ok (.linkGpio line name)) :=
  passes_run (by simp [Step.Quiet])

theorem passes_takeLines (hw : Hardware) :
    Passes m (takeLines hw) (m.LinesTaken hw) := by
  have hnote : Passes m (.both (.test fun _ => hw.revision == 1)
      (.run (.say .untested))) _ :=
    .both .const (passes_say _)
  have hlinks :=
    (passes_linkGpio (m := m) (sysfs hw.ncs) hw.ncs).seq
      ((passes_linkGpio (sysfs hw.wake) hw.wake).seq
        ((passes_linkGpio 557 45).seq ((passes_linkGpio 561 49).seq
          ((passes_linkGpio 562 50).seq (passes_run (c := .cdBack)
            (by decide))))))
  have hgpio :=
    (passes_ignored (m := m) (c := .setDirection) (by decide)).seq
      ((passes_ignored (c := .setValue) (by decide)).seq
        ((passes_mountOnce .gpio).seq
          ((passes_run (c := .cdGpio) (by decide)).seq hlinks)))
  have hexports : Passes m
      (.forEach [sysfs hw.ncs, sysfs hw.wake, 557, 561, 562] exportLine) _ :=
    .forEach passes_exportLine
  refine ((passes_say _).seq (hnote.seq ((passes_run (by decide)).seq
    ((passes_run (by decide)).seq (hexports.seq hgpio))))).congr ?_
  simp only [Machine.LinesTaken, true_and, beq_iff_eq]

theorem passes_readHardware :
    Passes m (readHardware m.board) m.HardwareRead := by
  have hread := passes_run (m := m) (c := .readBoard) (by decide)
  unfold readHardware Machine.HardwareRead
  cases hboard : hardware m.board with
  | some hw =>
      exact (hread.seq (passes_takeLines hw)).congr (by simp)
  | none =>
      exact (hread.seq (passes_refuse _)).congr (by simp)

theorem passes_transferImage : Passes m transferImage m.Transferred :=
  (passes_run (by decide)).seq ((passes_say _).seq
    ((passes_run (by decide)).seq (passes_say _)))

theorem passes_flashImage : Passes m (flashImage m.board) m.Flashes :=
  passes_checkImage.seq (passes_prepareRoot.seq
    (passes_readHardware.seq passes_transferImage))

theorem passes_unmount (who : Caller) (p : Place) :
    Passes m (.round (.block [
        .either (.run (.mounted who p)) .next,
        .either (.run (.umount who p)) (.run (.umountLazy who p))]))
      (m.ok (.mounted who p) → m.ok (.umount who p) = false →
        m.ok (.umountLazy who p)) :=
  .round_when (.run (by simp [Step.Quiet]))
    (.either (.run (by simp [Step.Quiet])) (passes_run (by simp [Step.Quiet])))

theorem passes_dismantle (who : Caller) :
    Passes m (dismantle who) (m.Dismantles who) := by
  have hunexport : Passes m (.forEach [541, 543, 557, 561, 562, 567, 568]
      fun g => .either (.run (.unexport g)) .skip) _ :=
    .forEach fun _ => .round (passes_ignored (by simp [Step.Quiet]))
  have hremove : Passes m (.ite (.run (.stillMounted who))
      (.run (.say (.standing who))) (.run (.rmTree who))) _ :=
    .ite (.run (by simp [Step.Quiet])) (passes_say _)
      (passes_run (by simp [Step.Quiet]))
  refine ((Steady.forEach (passes_unmount who)).seq
    ((passes_run (by simp [Step.Quiet])).seq
      (hremove.seq hunexport))).congr ?_
  simp only [Machine.Dismantles, implies_true, and_true]

/-! ## Teardown -/

variable {s : State Step Vars}

theorem teardown_eq (who : Caller) :
    teardown who = .seq (dismantle who) (.seq (restart who) .skip) := rfl

theorem eval_restart_owed (hs : s.vars.stoppedService = true) (who : Caller) :
    (restart who).eval m.ok false s =
      if m.ok (.say (.restarting who)) then
        (.done true, s.ran [.say (.restarting who), .start])
      else (.exit, s.ran [.say (.restarting who)]) := by
  cases hsay : m.ok (.say (.restarting who)) with
  | true =>
      cases hstart : m.ok .start <;>
        simp [restart, Cmd.block, Cmd.eval, checked, hs, hsay, hstart]
  | false => simp [restart, Cmd.block, Cmd.eval, checked, hs, hsay]

theorem eval_restart_idle (hs : s.vars.stoppedService = false)
    (who : Caller) : (restart who).eval m.ok false s = (.done false, s) := by
  simp [restart, Cmd.eval, checked, hs]

/-- A teardown that owes no restart leaves the service alone. -/
theorem teardown_idle (hs : s.vars.stoppedService = false) (who : Caller) :
    ∃ t, (∀ c ∈ t, c.Quiet) ∧
      ((teardown who).eval m.ok false s).2 = s.ran t := by
  rw [teardown_eq]
  by_cases hgoes : m.Dismantles who
  · obtain ⟨p, t, ht, heval⟩ := (passes_dismantle who).goes_on hgoes s
    refine ⟨t, ht, ?_⟩
    rw [Cmd.eval_seq_done heval,
      Cmd.eval_seq_done (eval_restart_idle (by exact hs) who)]
    rfl
  · obtain ⟨t, ht, heval⟩ := (passes_dismantle who).exits hgoes s
    exact ⟨t, ht, by rw [Cmd.eval_seq_exit heval]⟩

/-- One that owes a restart gives it, or ends before it. -/
theorem teardown_restarts (hs : s.vars.stoppedService = true) {who : Caller}
    (hgoes : m.Restarts who) :
    ∃ t, (∀ c ∈ t, c.Quiet) ∧
      (teardown who).eval m.ok false s =
        (.done true, s.ran (t ++ [.start])) := by
  obtain ⟨hdismantles, hsay⟩ := hgoes
  obtain ⟨p, t, ht, heval⟩ := (passes_dismantle who).goes_on hdismantles s
  have hrestart := eval_restart_owed (m := m) (s := s.ran t) hs who
  rw [if_pos hsay, State.ran_ran] at hrestart
  refine ⟨t ++ [.say (.restarting who)], ?_, ?_⟩
  · exact List.forall_mem_append.mpr ⟨ht, by simp [Step.Quiet]⟩
  · rw [teardown_eq, Cmd.eval_seq_done heval,
      Cmd.eval_seq_done hrestart, List.append_assoc]
    rfl

theorem teardown_ends (hs : s.vars.stoppedService = true) {who : Caller}
    (hends : ¬m.Restarts who) :
    ∃ t, (∀ c ∈ t, c.Quiet) ∧
      (teardown who).eval m.ok false s = (.exit, s.ran t) := by
  rw [teardown_eq]
  by_cases hgoes : m.Dismantles who
  · obtain ⟨p, t, ht, heval⟩ := (passes_dismantle who).goes_on hgoes s
    have hsay : ¬m.ok (.say (.restarting who)) = true :=
      fun hsay => hends ⟨hgoes, hsay⟩
    have hrestart := eval_restart_owed (m := m) (s := s.ran t) hs who
    rw [if_neg hsay, State.ran_ran] at hrestart
    refine ⟨t ++ [.say (.restarting who)], ?_, ?_⟩
    · exact List.forall_mem_append.mpr ⟨ht, by simp [Step.Quiet]⟩
    · rw [Cmd.eval_seq_done heval, Cmd.eval_seq_exit hrestart]
  · obtain ⟨t, ht, heval⟩ := (passes_dismantle who).exits hgoes s
    exact ⟨t, ht, by rw [Cmd.eval_seq_exit heval]⟩

/-! ## The whole script -/

/-- The script has stopped the service, has its trap set, and has not asked
the radio anything yet. -/
structure Owing (s : State Step Vars) : Prop where
  owed : s.vars.stoppedService = true
  trapped : s.trapped = true
  stopped : stoppedAfter s.trace = true
  unasked : Step.info ∉ s.trace

theorem Owing.ran (hs : Owing s) {t : List Step} (ht : ∀ c ∈ t, c.Quiet) :
    Owing (s.ran t) := by
  refine ⟨hs.owed, hs.trapped, ?_, ?_⟩
  · rw [State.trace_ran, stoppedAfter_append_quiet _ ht, hs.stopped]
  · rw [State.trace_ran, List.mem_append]
    exact fun hmem => hmem.elim hs.unasked (not_mem_of_quiet ht)

/-- An owing script that exits leaves the restart to the trap. -/
theorem Owing.handsBack_iff_restarts (hs : Owing s)
    (hexit : (flash m.board).eval m.ok false ⟨⟨false⟩, false, []⟩ =
      (.exit, s)) : HandsBack m.trace ↔ m.Restarts .trap := by
  have htrace : m.trace =
      ((teardown .trap).eval m.ok false { s with trapped := false }).2.trace := by
    rw [Machine.trace, traceOf, hexit]
    exact if_pos hs.trapped
  rw [htrace]
  by_cases hgoes : m.Restarts .trap
  · obtain ⟨t, ht, heval⟩ :=
      teardown_restarts (s := { s with trapped := false }) hs.owed hgoes
    rw [heval]
    refine iff_of_true (.of_not_mem ?_ ?_) hgoes
    · simp [hs.unasked, not_mem_of_quiet ht]
    · rw [State.trace_ran, ← List.append_assoc, stoppedAfter_append_singleton]
      rfl
  · obtain ⟨t, ht, heval⟩ :=
      teardown_ends (s := { s with trapped := false }) hs.owed hgoes
    rw [heval]
    refine iff_of_false (fun hback => ?_) hgoes
    have hstarted := hback.started
    rw [State.trace_ran, stoppedAfter_append_quiet _ ht, hs.stopped]
      at hstarted
    cases hstarted

/-- `flash` from the first command that needs the service stopped. -/
def flashStopped (board : List Byte) : Cmd Step Vars :=
  .seq (flashImage board)
    (.seq (teardown .script) (.seq (.trap false) report))

theorem flash_eq (board : List Byte) :
    flash board =
      .seq checkArguments (.seq (.trap true) (.seq (.run (.say .stopping))
        (.seq (.either (.run .stop) .skip)
          (.seq (.assign fun v => { v with stoppedService := true })
            (flashStopped board))))) := rfl

/-- A script that does not get to the stop command leaves the service
alone. -/
theorem quiet_of_not_stops (h : ¬m.Stops) : ∀ c ∈ m.trace, c.Quiet := by
  rw [Machine.trace, traceOf, flash_eq]
  by_cases hargs : m.ok .imageGiven ∧ m.ok .imageExists ∧ m.ok .tarballExists
  · obtain ⟨p, t, ht, heval⟩ :=
      passes_checkArguments.goes_on hargs ⟨⟨false⟩, false, []⟩
    have hsay : m.ok (.say .stopping) = false := by
      simpa [Machine.Stops, hargs] using h
    have hend : (Cmd.run (.say .stopping) : Cmd Step Vars).eval m.ok false
        ⟨⟨false⟩, true, t⟩ = (.exit, ⟨⟨false⟩, true, t ++ [.say .stopping]⟩) := by
      simp [Cmd.eval, checked, hsay, State.ran]
    obtain ⟨t', ht', hteardown⟩ := teardown_idle (m := m)
      (s := ⟨⟨false⟩, false, t ++ [.say .stopping]⟩) rfl .trap
    rw [Cmd.eval_seq_done heval, Cmd.eval_seq_done rfl]
    simp only [State.ran, List.nil_append, Cmd.eval_seq_exit hend, if_true]
    rw [hteardown]
    refine List.forall_mem_append.mpr ⟨?_, ht'⟩
    exact List.forall_mem_append.mpr ⟨ht, by simp [Step.Quiet]⟩
  · obtain ⟨t, ht, heval⟩ :=
      passes_checkArguments.exits hargs ⟨⟨false⟩, false, []⟩
    rw [Cmd.eval_seq_exit heval]
    simpa [State.ran] using ht

/-- One that does owes a restart. -/
theorem owing_of_stops (h : m.Stops) :
    ∃ s, Owing s ∧
      (flash m.board).eval m.ok false ⟨⟨false⟩, false, []⟩ =
        (flashStopped m.board).eval m.ok false s := by
  obtain ⟨himage, hexists, htarball, hsay⟩ := h
  obtain ⟨p, t, ht, heval⟩ := passes_checkArguments.goes_on
    ⟨himage, hexists, htarball⟩ ⟨⟨false⟩, false, []⟩
  have hstop : ∃ q, (Cmd.either (.run .stop) .skip : Cmd Step Vars).eval m.ok
      false ⟨⟨false⟩, true, t ++ [.say .stopping]⟩ =
        (.done q, ⟨⟨false⟩, true, t ++ [.say .stopping] ++ [.stop]⟩) := by
    cases hok : m.ok .stop <;> simp [Cmd.eval, checked, hok, State.ran]
  obtain ⟨q, hstop⟩ := hstop
  refine ⟨⟨⟨true⟩, true, t ++ [.say .stopping] ++ [.stop]⟩, ?_, ?_⟩
  · refine ⟨rfl, rfl, stoppedAfter_append_singleton _ _, ?_⟩
    simp [not_mem_of_quiet ht]
  · have hsaid : (Cmd.run (.say .stopping) : Cmd Step Vars).eval m.ok false
        ⟨⟨false⟩, true, t⟩ =
          (.done true, ⟨⟨false⟩, true, t ++ [.say .stopping]⟩) := by
      simp [Cmd.eval, checked, hsay, State.ran]
    rw [flash_eq, Cmd.eval_seq_done heval, Cmd.eval_seq_done rfl]
    simp only [State.ran, List.nil_append]
    rw [Cmd.eval_seq_done hsaid, Cmd.eval_seq_done hstop,
      Cmd.eval_seq_done rfl]

/-- `report` begins by asking the radio. -/
theorem prefix_report (s : State Step Vars) :
    s.trace ++ [.info] <+: (report.eval m.ok false s).2.trace := by
  have hasked : ∃ q, (Cmd.either (.run .info) .skip : Cmd Step Vars).eval
      m.ok false s = (.done q, s.ran [.info]) := by
    cases hok : m.ok .info <;> simp [Cmd.eval, checked, hok]
  obtain ⟨q, hasked⟩ := hasked
  rw [report, Cmd.block, Cmd.eval_seq_done hasked]
  · exact Cmd.trace_eval _ _ (s.ran [.info])
  · exact List.cons_ne_nil _ _

/-- A script that gets through its own teardown asks the radio after it. -/
theorem not_handsBack_of_restarts (hs : Owing s)
    (heval : (flash m.board).eval m.ok false ⟨⟨false⟩, false, []⟩ =
      (flashStopped m.board).eval m.ok false s)
    (hflashes : m.Flashes) (hrestarts : m.Restarts .script) :
    ¬HandsBack m.trace := by
  obtain ⟨p, t, ht, himage⟩ := passes_flashImage.goes_on hflashes s
  obtain ⟨t', ht', hteardown⟩ :=
    teardown_restarts (hs.ran ht).owed hrestarts
  have htrace := prefix_traceOf m.ok (teardown .trap) (flash m.board) ⟨false⟩
  rw [heval, flashStopped, Cmd.eval_seq_done himage,
    Cmd.eval_seq_done hteardown, Cmd.eval_seq_done rfl] at htrace
  obtain ⟨after, hafter⟩ := (prefix_report _).trans htrace
  intro hback
  have hstopped := hback.info_alone _ after (by
    rw [Machine.trace, ← hafter, List.append_assoc, List.singleton_append])
  rw [State.trace_ran, ← List.append_assoc, stoppedAfter_append_singleton]
    at hstopped
  cases hstopped

/-- The flash script hands the radio back if it stops the service and then
fails before its own teardown is through, and the trap's teardown gets through;
or if it never stops the service. -/
theorem flash_handsBack_iff (m : Machine) :
    HandsBack m.trace ↔
      (m.Stops → ¬(m.Flashes ∧ m.Restarts .script) ∧ m.Restarts .trap) := by
  by_cases hstops : m.Stops
  · obtain ⟨s, hs, heval⟩ := owing_of_stops hstops
    rw [forall_prop_of_true hstops]
    by_cases hflashes : m.Flashes
    · by_cases hrestarts : m.Restarts .script
      · exact iff_of_false
          (not_handsBack_of_restarts hs heval hflashes hrestarts)
          fun hand => hand.1 ⟨hflashes, hrestarts⟩
      · obtain ⟨p, t, ht, himage⟩ := passes_flashImage.goes_on hflashes s
        obtain ⟨t', ht', hteardown⟩ :=
          teardown_ends (hs.ran ht).owed hrestarts
        rw [((hs.ran ht).ran ht').handsBack_iff_restarts]
        · exact (and_iff_right fun hand => hrestarts hand.2).symm
        · rw [heval, flashStopped, Cmd.eval_seq_done himage,
            Cmd.eval_seq_exit hteardown]
    · obtain ⟨t, ht, himage⟩ := passes_flashImage.exits hflashes s
      rw [(hs.ran ht).handsBack_iff_restarts]
      · exact (and_iff_right fun hand => hflashes hand.1).symm
      · rw [heval, flashStopped, Cmd.eval_seq_exit himage]
  · have hquiet := quiet_of_not_stops hstops
    refine iff_of_true (.of_not_mem (not_mem_of_quiet hquiet) ?_)
      fun h => absurd h hstops
    exact stoppedAfter_append_quiet [] hquiet

end Runs

/-- A first flash of a V2 on which every command does its work. -/
def firstFlash : Machine where
  ok
    | .hasTool | .bound _ | .exported _ | .stillMounted _ => false
    | _ => true
  board := ascii "linksys,whw03v2"

/-- The teardown before `info` has restarted the service already. -/
theorem firstFlash_asks_running : ¬∀ m : Machine, HandsBack m.trace := by
  intro hall
  have hstopped := (hall firstFlash).info_alone
    (firstFlash.trace.take 82) (firstFlash.trace.drop 83) (by decide +kernel)
  exact absurd hstopped (by decide +kernel)

end EzspSpi.Flash
