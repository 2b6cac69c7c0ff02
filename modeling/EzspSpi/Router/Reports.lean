import EzspSpi.Core.Books
import EzspSpi.Router.Callbacks
import EzspSpi.Router.Upheld
import Mathlib.Algebra.Order.Field.Rat
import Mathlib.Algebra.Order.Field.Basic
import Mathlib.Data.Nat.Cast.Order.Ring
import Mathlib.Tactic.Linarith
import Mathlib.Tactic.NormNum

/-!
# The counters of the reports

`report_count` and `report_failed` over whole runs of `cmd_run`, against books
that have one entry for every report.
-/

namespace EzspSpi

open Program

variable {σ : Type} [Kernel σ] (g : Globals) (c : RouterCfg) (p : Pins)

/-! ## What happens to the reports -/

/-- The buffer of `cmd_run`, which the answers to `networkInit` and to the
polls are written to. -/
def runBuffer (out : List Byte) (xs : List Exchange) : List Byte :=
  xs.foldl (fun out x =>
    if commandId x.command = ezspNetworkInit ∨
      commandId x.command = ezspCallback then overwrite out 0 x.payload
    else out) out

/-- A unicast with the report. -/
def IsReport (x : Exchange) : Prop :=
  commandId x.command = ezspSendUnicast ∧
    (commandParams x.command).drop 16 = reportFrame

/-- A poll that is answered by `messageSentHandler`. -/
def ConfirmsMessage (x : Exchange) : Prop :=
  commandId x.command = ezspCallback ∧
    x.reply?.map Prod.fst = some ezspMessageSentHandler

instance (x : Exchange) : Decidable (IsReport x) :=
  inferInstanceAs (Decidable (_ ∧ _))

instance (x : Exchange) : Decidable (ConfirmsMessage x) :=
  inferInstanceAs (Decidable (_ ∧ _))

/-- What a call means for the reports, with the buffer after it: a report with
its tag, or a confirmation with the tag and the status that the buffer shows. -/
def happening? (out : List Byte) (x : Exchange) : Option (Happening Byte) :=
  if IsReport x then
    some (.sent ((commandParams x.command).getD 14 0)
      (decide (x.status? = some emberSuccess)))
  else if ConfirmsMessage x then
    some (.confirmed (out.getD 14 0) (decide (out.getD 15 0 = emberSuccess)))
  else none

def happenings (out : List Byte) : List Exchange → List (Happening Byte)
  | [] => []
  | x :: xs =>
      (happening? (runBuffer out [x]) x).toList ++
        happenings (runBuffer out [x]) xs

theorem runBuffer_append (out : List Byte) (xs : List Exchange)
    (x : Exchange) :
    runBuffer out (xs ++ [x]) = runBuffer (runBuffer out xs) [x] :=
  List.foldl_append

theorem happenings_append (out : List Byte) (xs : List Exchange)
    (x : Exchange) :
    happenings out (xs ++ [x]) = happenings out xs ++
      (happening? (runBuffer out (xs ++ [x])) x).toList := by
  induction xs generalizing out with
  | nil => exact List.append_nil _
  | cons y xs ih =>
      rw [List.cons_append, happenings, happenings, ih, List.append_assoc]
      rfl

theorem happening?_of_other {x : Exchange}
    (hsend : commandId x.command ≠ ezspSendUnicast)
    (hpoll : commandId x.command ≠ ezspCallback) (out : List Byte) :
    happening? out x = none := by
  have hreport : ¬IsReport x := fun h => hsend h.1
  have hconfirms : ¬ConfirmsMessage x := fun h => hpoll h.1
  rw [happening?, if_neg hreport, if_neg hconfirms]

/-! ## Keeping the counters -/

/-- The counters of the process, which have 32 bits. -/
def Counts (count : Tally) (r : Router) : Prop :=
  r.reportCount = BitVec.ofNat 32 count.sent ∧
    r.reportFailed = BitVec.ofNat 32 count.failed

/-- The calls so far, with the first and the present contents of the buffer,
and the counters that they lead to. -/
def Booked (out₀ out : List Byte) (r : Router) (h : List HostEvent) : Prop :=
  ∃ xs, Called xs r h ∧ runBuffer out₀ xs = out ∧
    Counts (tally (happenings out₀ xs)) r

theorem Counts.congr {count : Tally} {r r' : Router} (hcounts : Counts count r)
    (hcount : r'.reportCount = r.reportCount)
    (hfailed : r'.reportFailed = r.reportFailed) : Counts count r' :=
  ⟨hcount.trans hcounts.1, hfailed.trans hcounts.2⟩

/-- One more call, and what it means. -/
theorem Booked.call {out₀ out : List Byte} {xs : List Exchange} {r r' : Router}
    {h' : List HostEvent} {x : Exchange} (hcalled : Called (xs ++ [x]) r' h')
    (hout : runBuffer out₀ xs = out)
    (hcounts : Counts (tally (happenings out₀ xs)) r)
    (hwhat : ∀ count, Counts count r →
      Counts ((happening? (runBuffer out [x]) x).toList.foldl Tally.add count)
        r') :
    Booked out₀ (runBuffer out [x]) r' h' := by
  refine ⟨xs ++ [x], hcalled, by rw [runBuffer_append, hout], ?_⟩
  rw [happenings_append, runBuffer_append, hout, tally, List.foldl_append]
  exact hwhat _ hcounts

theorem runBuffer_of_other {x : Exchange}
    (hinit : commandId x.command ≠ ezspNetworkInit)
    (hpoll : commandId x.command ≠ ezspCallback) (out : List Byte) :
    runBuffer out [x] = out :=
  if_neg (not_or.mpr ⟨hinit, hpoll⟩)

/-- Other commands change nothing. -/
theorem upheld_booked (out₀ out : List Byte) :
    Upheld σ (Booked out₀ out) IsAside where
  quiet := by
    rintro r h t ⟨xs, hcalled, hout, hcounts⟩ ht
    exact ⟨xs, hcalled.quiet ht, hout, hcounts⟩
  alike := by
    rintro r r' h ⟨xs, hcalled, hout, hcounts⟩ halike
    exact ⟨xs, hcalled.congr halike.seq, hout,
      hcounts.congr halike.reportCount halike.reportFailed⟩
  xfer := by
    rintro g p r frameId params max hid hparams h ⟨xs, hcalled, hout, hcounts⟩
    have hne : frameId ∉ [0x01, 0xFF] := by
      simp only [IsAside, List.mem_cons, not_or] at hid ⊢
      exact ⟨hid.2.2.2.1, hid.2.2.2.2.1, List.not_mem_nil⟩
    simp only [IsAside, List.mem_cons, not_or] at hid
    apply (ezspXfer_called g p hcalled hne hparams max).mono
    rintro _ _ ⟨x, hasks, hmore, rfl⟩
    rw [← hasks.frameId] at hid
    have hbooked := Booked.call hmore hout hcounts fun count hcount => by
      rw [happening?_of_other hid.1 hid.2.1]
      exact hcount
    rwa [runBuffer_of_other hid.2.2.1 hid.2.1] at hbooked

/-! ## The daemon -/

/-- The end of `runStart`. -/
def runListen (r : Router) (out : List Byte) (nextReport : Int) :
    Host σ (Option Running) := do
  let listenFd ← call (I := host) .controlListen
  pure (some ⟨r, out, nextReport, listenFd.elim (-1) fun fd => fd⟩)

/-- `runStart` from `networkInit` on. -/
def runNetwork (r : Router) (out : List Byte) (nextReport : Int) :
    Host σ (Option Running) := do
  let (r, reply) ← ezspCmd g p r ezspNetworkInit [] 64
  let out := overwrite out 0 (reply.getD [])
  let r ←
    if status? reply ≠ some emberSuccess then do
      let (r, _) ← ezspCmd g p r ezspNetworkState [] 8
      pure r
    else pure r
  runListen r out nextReport

section Daemon

variable {out₀ out : List Byte} {r : Router} {h : List HostEvent}

/-- A response is no report. -/
theorem Booked.sends (hbooked : Booked out₀ out r h) {r' : Router}
    {t : List HostEvent} (ht : SendsAtMost r r' t)
    (hcount : r'.reportCount = r.reportCount)
    (hfailed : r'.reportFailed = r.reportFailed) :
    Booked out₀ out r' (h ++ t) := by
  obtain ⟨xs, hcalled, hout, hcounts⟩ := hbooked
  rcases ht with ⟨hquiet, hseq⟩ | ⟨params, x, hresponse, hseq, hcommanded⟩
  · exact ⟨xs, (hcalled.quiet hquiet).congr hseq, hout,
      hcounts.congr hcount hfailed⟩
  · have hmore := hcalled.commanded hcommanded hseq
    obtain ⟨hasks, _⟩ := Exchange.reads (by decide) hcommanded.2.1
    have hpoll : commandId x.command ≠ ezspCallback := by
      rw [hasks.frameId]
      decide
    have hinit : commandId x.command ≠ ezspNetworkInit := by
      rw [hasks.frameId]
      decide
    have hreport : ¬IsReport x := by
      rintro ⟨_, hframe⟩
      rw [hasks.params] at hframe
      have hbyte : (params.drop 16).getD 2 0 = params.getD 18 0 := by
        simp [List.getD_eq_getElem?_getD]
      rw [hframe, hresponse] at hbyte
      exact absurd hbyte (by decide)
    have hbooked := Booked.call hmore hout hcounts fun count hcount' => by
      rw [happening?, if_neg hreport, if_neg fun h => hpoll h.1]
      exact hcount'.congr hcount hfailed
    rwa [runBuffer_of_other hinit hpoll] at hbooked

theorem confirmsMessage_iff {x : Exchange} (hx : x.Asks ezspCallback [])
    (max : ℕ) :
    ConfirmsMessage x ↔ (polled (x.reply?.map fun reply =>
      (reply.1, reply.2.take max))).1 = ezspMessageSentHandler := by
  rw [ConfirmsMessage, and_iff_right hx.frameId]
  cases x.reply? with
  | none =>
      refine iff_of_false nofun fun hnone => ?_
      exact absurd (show (0 : Byte) = ezspMessageSentHandler from hnone)
        (by decide)
  | some reply =>
      rw [Option.map_some, Option.map_some, Option.some_inj, polled]
      dsimp only
      split
      · rename_i hnone
        rw [hnone]
        decide
      · rfl

/-- A poll, and what is done about the callback it brings. -/
theorem runCallback_booked {xs : List Exchange} {x : Exchange}
    (hcalled : Called (xs ++ [x]) r h) (hx : x.Asks ezspCallback [])
    (hout : runBuffer out₀ xs = out)
    (hcounts : Counts (tally (happenings out₀ xs)) r) {id : Byte}
    (hid : ConfirmsMessage x ↔ id = ezspMessageSentHandler) :
    Holds anyRun h
      (runCallback g p r id (runBuffer out [x]) : Host σ Router)
      fun r' h' => Booked out₀ (runBuffer out [x]) r' h' := by
  apply (runCallback_holds g p r id _ h).mono
  rintro r' _ ⟨t, rfl, hhandled, hsends⟩
  have hreport : ¬IsReport x := fun hreport =>
    absurd (hreport.1.symm.trans hx.frameId) (by decide)
  have hcounted : Called (xs ++ [x]) { r with reportFailed := r'.reportFailed }
      h := hcalled.congr rfl
  have hbooked := Booked.call hcounted hout hcounts ?_
  · exact hbooked.sends hsends hhandled.reportCount rfl
  rintro count ⟨hcount, hfailed⟩
  refine ⟨?_, ?_⟩
  · rw [happening?, if_neg hreport]
    split
    · cases decide ((runBuffer out [x]).getD 15 0 = emberSuccess) <;>
        exact hcount
    · exact hcount
  · dsimp only
    rw [hhandled.reportFailed, happening?, if_neg hreport]
    by_cases hconfirms : ConfirmsMessage x
    · rw [if_pos hconfirms]
      by_cases hsuccess : (runBuffer out [x]).getD 15 0 = emberSuccess
      · rw [if_neg fun hfails => hfails.2 hsuccess, decide_eq_true hsuccess]
        exact hfailed
      · rw [if_pos ⟨hid.mp hconfirms, hsuccess⟩, decide_eq_false hsuccess,
          hfailed]
        exact BitVec.ofNat_add_ofNat count.failed 1
    · rw [if_neg hconfirms, if_neg fun hfails => hconfirms (hid.mpr hfails.1)]
      exact hfailed

theorem runDrain_booked (polls : ℕ) (hbooked : Booked out₀ out r h) :
    Holds anyRun h (runDrain g p polls r out : Host σ _) fun final h' =>
      Booked out₀ final.2 final.1 h' := by
  induction polls generalizing r out h with
  | zero => exact Holds.halt trivial
  | succ polls ih =>
      obtain ⟨xs, hcalled, hout, hcounts⟩ := hbooked
      rw [runDrain]
      apply (ezspPollCallback_called g p hcalled 64).seq
      rintro _ h' ⟨x, hasks, hmore, rfl⟩
      have hid := confirmsMessage_iff hasks 64
      have hpayload := polled_payload x
      have hbuffer : runBuffer out [x] = overwrite out 0 x.payload :=
        if_pos (Or.inr hasks.frameId)
      generalize polled _ = reply at hid hpayload
      obtain ⟨id, payload⟩ := reply
      obtain rfl : payload = x.payload := hpayload
      dsimp only
      rw [← hbuffer]
      apply (runCallback_booked g p hmore hasks hout
        (hcounts.congr rfl rfl) hid).seq
      intro r' h'' hbooked'
      split
      · exact Holds.pure hbooked'
      · exact ih hbooked'

/-- A report counts as accepted or as failed. -/
theorem zclReport_booked (hbooked : Booked out₀ out r h) :
    Holds anyRun h (zclReport g p r : Host σ Router) fun r' h' =>
      Booked out₀ out r' h' := by
  rw [zclReport]
  apply ((upheld_booked out₀ out).call .time (fun _ => ⟨rfl, rfl⟩) r h
    hbooked).seq
  rintro now h' ⟨xs, hcalled, hout, hcounts⟩
  have hshort : ¬reportFrame.length > 64 := by decide
  rw [zclSend, if_neg hshort, bind_assoc]
  have hcalled' : Called xs { r with reportLast := now, tag := r.tag + 1 } h' :=
    hcalled.congr rfl
  have hparams (r : Router) :
      (unicastParams r 0x0000 zclClusterBasic reportFrame).length ≤ 135 :=
    Nat.le_add_left 23 112
  apply (ezspCmd_called g p hcalled' (by decide) (hparams _) 8).seq
  rintro _ h'' ⟨x, hasks, hmore, rfl⟩
  rw [pure_bind, status?_reply (by decide)]
  have hreport : IsReport x := ⟨hasks.frameId, by rw [hasks.params]; rfl⟩
  have hinit : commandId x.command ≠ ezspNetworkInit := by
    rw [hasks.frameId]
    decide
  have hpoll : commandId x.command ≠ ezspCallback := by
    rw [hasks.frameId]
    decide
  have hbooked {r' : Router} (hseq : r'.seq = r.seq + 1)
      (hwhat : ∀ count, Counts count r → Counts (count.add
        (.sent ((commandParams x.command).getD 14 0)
          (decide (x.status? = some emberSuccess)))) r') :
      Booked out₀ out r' h'' := by
    have hcall := Booked.call (hmore.congr hseq) hout hcounts
      fun count hcount => by
        rw [happening?, if_pos hreport]
        exact hwhat count hcount
    rwa [runBuffer_of_other hinit hpoll] at hcall
  dsimp only
  split
  · rename_i haccepted
    apply Holds.pure
    apply hbooked rfl
    rintro count ⟨hcount, hfailed⟩
    rw [haccepted]
    refine ⟨?_, hfailed⟩
    dsimp only
    rw [hcount]
    exact BitVec.ofNat_add_ofNat count.sent 1
  · rename_i hrefused
    apply Holds.pure
    apply hbooked rfl
    rintro count ⟨hcount, hfailed⟩
    rw [eq_false_of_ne_true hrefused]
    refine ⟨hcount, ?_⟩
    dsimp only
    rw [hfailed]
    exact BitVec.ofNat_add_ofNat count.failed 1

theorem runReport_booked {st : Running} (hbooked : Booked out₀ st.out st.router h) :
    Holds anyRun h (runReport g c p st : Host σ Running) fun st' h' =>
      Booked out₀ st'.out st'.router h' := by
  have hI := upheld_booked (σ := σ) out₀ st.out
  rw [runReport]
  split
  · exact Holds.pure hbooked
  apply (hI.call .time (fun _ => ⟨rfl, rfl⟩) st.router h hbooked).seq
  intro now h' hbooked
  split
  · exact Holds.pure hbooked
  apply (zclReport_booked g p hbooked).seq
  intro r h' hbooked
  apply (hI.call .time (fun _ => ⟨rfl, rfl⟩) r h' hbooked).seq
  intro now h' hbooked
  have hinterval : Emits IsQuiet (reportInterval c : Host σ _) := by
    apply Emits.ite Emits.pure
    exact (Emits.call fun _ => ⟨rfl, rfl⟩).bind fun _ => Emits.pure
  apply (hI.emits hinterval r h' hbooked).seq
  exact fun _ _ hbooked => Holds.pure hbooked

/-- One pass of the loop. -/
theorem runPass_booked (polls : ℕ) {st : Running}
    (hbooked : Booked out₀ st.out st.router h) :
    Holds anyRun h (runPass g c p polls st : Host σ Running) fun st' h' =>
      Booked out₀ st'.out st'.router h' := by
  have hI := upheld_booked (σ := σ) out₀ st.out
  have hwatch : Emits IsQuiet (runWatch p : Host σ Bool) := by
    apply Emits.ite _ Emits.pure
    exact (Emits.call fun _ => ⟨rfl, rfl⟩).bind fun _ => Emits.pure
  have hpoll (watch : Bool) : Emits IsQuiet (runPoll c p st watch :
      Host σ _) := by
    have hwait (timeout : Int) (fds : List Int) : Emits IsQuiet (
        if fds ≠ [] then Program.call (I := host) (.pollEvents fds timeout)
        else pure fun _ => ⟨false, false, false⟩ : Host σ _) :=
      Emits.ite (Emits.call fun _ => ⟨rfl, rfl⟩) Emits.pure
    rw [runPoll]
    split
    · apply Emits.bind (Emits.call fun _ => ⟨rfl, rfl⟩)
      intro now
      exact Emits.pure.bind fun timeout => hwait timeout _
    · exact Emits.pure.bind fun timeout => hwait timeout _
  rw [runPass]
  apply (hI.emits hwatch st.router h hbooked).seq
  intro watch h' hbooked
  apply (hI.emits (hpoll watch) st.router h' hbooked).seq
  intro revents h' hbooked
  have hedge : Emits IsQuiet (onlyIf (watch = true ∧
      (revents (if 0 ≤ st.listenFd then 1 else 0)).pollin = true)
      (Program.call (I := host) (.gpioReadEdge p.hint)) : Host σ Unit) :=
    Emits.ite (Emits.call fun _ => ⟨rfl, rfl⟩) Emits.pure
  rw [runServe]
  apply (hI.emits hedge st.router h' hbooked).seq
  intro _ h' hbooked
  have hrest {r : Router} {h' : List HostEvent}
      (hbooked : Booked out₀ st.out r h') :
      Holds anyRun h' (EzspSpi.runDrain g p polls r st.out >>= fun drained =>
          EzspSpi.runReport g c p
            { st with router := drained.1, out := drained.2 } : Host σ Running)
        fun st' h' => Booked out₀ st'.out st'.router h' := by
    apply (runDrain_booked g p polls hbooked).seq
    exact fun drained h' hbooked => runReport_booked g c p hbooked
  split
  · apply (hI.controlAccept (fun _ hid => hid) g p st.listenFd st.router h'
      hbooked).seq
    exact fun r h' hbooked => hrest hbooked
  · rw [pure_bind]
    exact hrest hbooked

theorem runPasses_booked (polls passes : ℕ) {st : Running}
    (hbooked : Booked out₀ st.out st.router h) :
    Holds anyRun h (runPasses g c p polls passes st : Host σ Running)
      fun st' h' => Booked out₀ st'.out st'.router h' := by
  induction passes generalizing st h with
  | zero => exact Holds.pure hbooked
  | succ passes ih =>
      apply (runPass_booked g c p polls hbooked).seq
      exact fun st' h' hbooked => ih hbooked

theorem runListen_booked (hbooked : Booked out₀ out r h) (nextReport : Int) :
    Holds anyRun h (runListen r out nextReport : Host σ _) fun st h' =>
      ∀ st' ∈ st, Booked out₀ st'.out st'.router h' := by
  rw [runListen]
  apply ((upheld_booked out₀ out).call .controlListen (fun _ => ⟨rfl, rfl⟩) r
    h hbooked).seq
  intro fd h' hbooked
  apply Holds.pure
  rintro _ ⟨⟩
  exact hbooked

theorem runNetwork_booked (hbooked : Booked out₀ out r h) (nextReport : Int) :
    Holds anyRun h (runNetwork g p r out nextReport : Host σ _) fun st h' =>
      ∀ st' ∈ st, Booked out₀ st'.out st'.router h' := by
  obtain ⟨xs, hcalled, hout, hcounts⟩ := hbooked
  rw [runNetwork]
  apply (ezspCmd_called g p hcalled (by decide) (by decide) 64).seq
  rintro _ h ⟨x, hasks, hmore, rfl⟩
  have hsend : commandId x.command ≠ ezspSendUnicast := by
    rw [hasks.frameId]
    decide
  have hpoll : commandId x.command ≠ ezspCallback := by
    rw [hasks.frameId]
    decide
  have hbooked := Booked.call hmore hout hcounts fun count hcount => by
    rw [happening?_of_other hsend hpoll]
    exact hcount.congr rfl rfl
  have hbuffer : runBuffer out [x] = overwrite out 0 x.payload :=
    if_pos (Or.inl hasks.frameId)
  rw [hbuffer] at hbooked
  dsimp only
  split
  · apply ((upheld_booked out₀ _).ezspCmd g p (by decide) _ (by decide) 8 h
      hbooked).seq
    intro answer h hbooked
    rw [pure_bind]
    exact runListen_booked hbooked nextReport
  · rw [pure_bind]
    exact runListen_booked hbooked nextReport

theorem runStart_booked (hbooked : Booked out₀ out r h) :
    Holds anyRun h (runStart g c p r out : Host σ _) fun st h' =>
      ∀ st' ∈ st, Booked out₀ st'.out st'.router h' := by
  have hI := upheld_booked (σ := σ) out₀ out
  rw [runStart]
  apply (hI.radioUp g p (by decide) c r h hbooked).seq
  rintro ⟨r, ver⟩ h hbooked
  dsimp only
  split
  · exact Holds.pure fun _ hst => absurd hst (Option.not_mem_none _)
  apply (hI.ezspApplyConfig g p (by decide) (by decide) r h hbooked).seq
  intro r h hbooked
  apply (hI.ezspCmd g p (by decide) r (by decide) 16 h hbooked).seq
  rintro ⟨r, eui⟩ h hbooked
  apply (hI.call .time (fun _ => ⟨rfl, rfl⟩) r h hbooked).seq
  intro now h hbooked
  dsimp only
  split
  · apply (hI.call .rand (fun _ => ⟨rfl, rfl⟩) r h hbooked).seq
    exact fun stagger h hbooked => runNetwork_booked g p hbooked _
  · rw [pure_bind]
    exact runNetwork_booked g p hbooked _

theorem runReach_booked (polls passes : ℕ) (hbooked : Booked out₀ out r h) :
    Holds anyRun h (runReach g c p polls passes out r : Host σ _)
      fun st h' => ∀ st' ∈ st, Booked out₀ st'.out st'.router h' := by
  rw [runReach]
  apply (runStart_booked g c p hbooked).seq
  intro st h' hstarted
  cases st with
  | none => exact Holds.pure fun _ hst => absurd hst (Option.not_mem_none _)
  | some st =>
      apply (runPasses_booked g c p polls passes (hstarted st rfl)).seq
      intro st' h'' hbooked'
      apply Holds.pure
      rintro _ ⟨⟩
      exact hbooked'

end Daemon

/-! ## Whether they account for the reports -/

/-- The success rate that the page shows, in percent, once there is a report. -/
def successRate (r : Router) : Option ℚ :=
  if r.reportCount = 0 then none
  else some (((r.reportCount.toNat : ℚ) - r.reportFailed.toNat) /
    r.reportCount.toNat * 100)

/-- A report fails at most once, nothing else counts as failed, and no more
reports fail than are sent. -/
structure ReportsAccounted (hs : List (Happening Byte)) (r : Router) :
    Prop where
  failed : r.reportFailed.toNat = Books.failures (Books.of hs)
  bounded : r.reportFailed ≤ r.reportCount
  rate : ∀ rate ∈ successRate r, 0 ≤ rate ∧ rate ≤ 100

theorem successRate_bounds {r : Router}
    (hbounded : r.reportFailed ≤ r.reportCount) :
    ∀ rate ∈ successRate r, 0 ≤ rate ∧ rate ≤ 100 := by
  intro rate hrate
  rw [successRate] at hrate
  split at hrate
  · cases hrate
  · rename_i hsome
    obtain rfl := Option.some.inj hrate
    have hle : (r.reportFailed.toNat : ℚ) ≤ r.reportCount.toNat :=
      Nat.cast_le.mpr hbounded
    have hfailed : (0 : ℚ) ≤ r.reportFailed.toNat := Nat.cast_nonneg _
    have hpos : (0 : ℚ) < r.reportCount.toNat := by
      rw [Nat.cast_pos]
      exact Nat.pos_of_ne_zero fun h => hsome (BitVec.eq_of_toNat_eq h)
    have hshare : ((r.reportCount.toNat : ℚ) - r.reportFailed.toNat) /
        r.reportCount.toNat ≤ 1 := by
      rw [div_le_one hpos]
      exact sub_le_self _ hfailed
    have hleast : 0 ≤ ((r.reportCount.toNat : ℚ) - r.reportFailed.toNat) /
        r.reportCount.toNat :=
      div_nonneg (sub_nonneg.mpr hle) hpos.le
    exact ⟨by linarith, by linarith⟩

theorem Counts.toNat {hs : List (Happening Byte)} {r : Router}
    (hcounts : Counts (tally hs) r) (hfew : hs.length < 2 ^ 32) :
    r.reportCount.toNat = (tally hs).sent ∧
      r.reportFailed.toNat = (tally hs).failed := by
  obtain ⟨hsent, hfailed⟩ := tally_le hs
  rw [hcounts.1, hcounts.2, BitVec.toNat_ofNat, BitVec.toNat_ofNat]
  exact ⟨Nat.mod_eq_of_lt (by omega), Nat.mod_eq_of_lt (by omega)⟩

/-- The counters account for the reports, and there is none that was not
counted, exactly if the stack accepts every report and every delivery that
fails is that of a report which waits for its confirmation: in every state that
a run of `cmd_run` reaches, whatever the NCP and the clients do. -/
theorem runReach_accounts_iff (polls passes : ℕ) (out : List Byte)
    {r : Router} (hcount : r.reportCount = 0) (hfailed : r.reportFailed = 0)
    (s : σ) {st : Running}
    (hdone : (runReach g c p polls passes out r s).outcome = .done (some st))
    (hfew : (happenings out
      (calls (runReach g c p polls passes out r s).trace)).length < 2 ^ 32) :
    (ReportsAccounted (happenings out
        (calls (runReach g c p polls passes out r s).trace)) st.router ∧
      st.router.reportCount.toNat = (Books.of (happenings out
        (calls (runReach g c p polls passes out r s).trace))).length) ↔
    Books.AllFit [] (happenings out
        (calls (runReach g c p polls passes out r s).trace)) ∧
      ∀ what ∈ happenings out
        (calls (runReach g c p polls passes out r s).trace),
        Books.Accepted what := by
  have hstart : Booked out out r [] :=
    ⟨[], Called.start r, rfl, hcount, hfailed⟩
  obtain ⟨xs, hcalled, _, hcounts⟩ :=
    (runReach_booked g c p polls passes hstart s).2.1 _ hdone st rfl
  have hcalls : calls (runReach g c p polls passes out r s).trace = xs :=
    hcalled.calls
  rw [hcalls] at hfew ⊢
  generalize happenings out xs = hs at hcounts hfew
  obtain ⟨hsent, hlost⟩ := hcounts.toNat hfew
  rw [hsent, Books.sent_eq_iff]
  constructor
  · rintro ⟨haccounted, haccepted⟩
    have hfit := haccounted.failed
    rw [hlost, Books.failed_eq_iff] at hfit
    exact ⟨hfit, haccepted⟩
  · rintro ⟨hfit, haccepted⟩
    have heq := (Books.failed_eq_iff hs).mpr hfit
    have hle : st.router.reportFailed ≤ st.router.reportCount := by
      change st.router.reportFailed.toNat ≤ st.router.reportCount.toNat
      rw [hlost, hsent, heq, (Books.sent_eq_iff hs).mpr haccepted]
      exact Books.failures_le hs
    exact ⟨⟨hlost.trans heq, hle, successRate_bounds hle⟩, haccepted⟩

/-! ## Reports that are refused, and a response that is lost -/

/-- Two passes of the daemon, the first of which sends a report. -/
def twoPasses (s : Responder) : Run host Responder (Option Running) :=
  runReach ⟨⟨2, false⟩, true⟩ { defaultCfg with noReset := true }
    ⟨3, 4, 5, 7, 6⟩ 3 2 (List.replicate 64 0) routerInit s

/-- A failed delivery with this tag. -/
def lostMessage (tag : Byte) : List Byte :=
  ezspMessageSentHandler :: (List.replicate 14 0 ++ [tag, 0x66])

/-- The report is accepted, and gets lost. -/
def losingNcp : Responder := obligingNcp 0x00 fun n =>
  if n = 10 then lostMessage 0 else [ezspNoCallbacks]

/-- The stack refuses to send, as it does without a network. -/
def refusingNcp : Responder where
  respond n tx :=
    if commandId tx = ezspSendUnicast then [0x00, 0x80, ezspSendUnicast, 0x70]
    else (obligingNcp 0x00 fun _ => [ezspNoCallbacks]).respond n tx
  commands := 0
  pending := []

/-- A client reads the ZCL version before the report.  The response gets lost,
and the report as well. -/
def readingNcp : Responder := obligingNcp 0x00 fun n =>
  if n = 8 then
    [ezspIncomingMessageHandler, 0x00, 0x04, 0x01, 0x00, 0x00, 0x01, 0x01, 0x40,
      0x01, 0x00, 0x00, 0x00, 0xFF, 0xC8, 0x00, 0x00, 0xFF, 0xFF, 0x05, 0x00,
      0x2A, 0x00, 0x00, 0x00]
  else if n = 12 then lostMessage 0
  else if n = 13 then lostMessage 1
  else [ezspNoCallbacks]

private def counters (st : Option Running) : Option (BitVec 32 × BitVec 32) :=
  st.map fun st => (st.router.reportCount, st.router.reportFailed)

private theorem exists_of_counters {s : Responder} {count failed : BitVec 32}
    (h : doneWith (fun st => decide (counters st = some (count, failed)))
      (twoPasses s).outcome = true) :
    ∃ st, (twoPasses s).outcome = .done (some st) ∧
      st.router.reportCount = count ∧ st.router.reportFailed = failed := by
  obtain ⟨st, hdone, hst⟩ := exists_of_doneWith h
  cases st with
  | none => cases of_decide_eq_true hst
  | some st =>
      obtain ⟨hcount, hfailed⟩ := Prod.mk.inj
        (Option.some.inj (of_decide_eq_true hst))
      exact ⟨st, hdone, hcount, hfailed⟩

theorem runReach_accounts_iff_losing :
    ∃ st, (twoPasses losingNcp).outcome = .done (some st) ∧
      ((ReportsAccounted (happenings (List.replicate 64 0)
          (calls (twoPasses losingNcp).trace)) st.router ∧
        st.router.reportCount.toNat = (Books.of (happenings
          (List.replicate 64 0) (calls (twoPasses losingNcp).trace))).length) ↔
      Books.AllFit [] (happenings (List.replicate 64 0)
          (calls (twoPasses losingNcp).trace)) ∧
        ∀ what ∈ happenings (List.replicate 64 0)
          (calls (twoPasses losingNcp).trace), Books.Accepted what) := by
  have hcounters : doneWith (fun st => decide (counters st = some (1, 1)))
      (twoPasses losingNcp).outcome = true := by
    decide +kernel
  obtain ⟨st, hdone, _⟩ := exists_of_counters hcounters
  exact ⟨st, hdone, runReach_accounts_iff _ _ _ _ _ _ rfl rfl _ hdone
    (by decide +kernel)⟩

/-- A report that is refused counts as failed only, and so does the response of
a client: more reports fail than are sent, and the rate is negative. -/
theorem twoPasses_overcount :
    (∃ st, (twoPasses refusingNcp).outcome = .done (some st) ∧
      ¬st.router.reportFailed ≤ st.router.reportCount) ∧
    ∃ st, (twoPasses readingNcp).outcome = .done (some st) ∧
      ¬st.router.reportFailed ≤ st.router.reportCount ∧
      successRate st.router = some (-100) := by
  have hrefusing : doneWith (fun st => decide (counters st = some (0, 1)))
      (twoPasses refusingNcp).outcome = true := by
    decide +kernel
  have hreading : doneWith (fun st => decide (counters st = some (1, 2)))
      (twoPasses readingNcp).outcome = true := by
    decide +kernel
  obtain ⟨st, hdone, hcount, hfailed⟩ := exists_of_counters hrefusing
  obtain ⟨st', hdone', hcount', hfailed'⟩ := exists_of_counters hreading
  refine ⟨⟨st, hdone, ?_⟩, st', hdone', ?_, ?_⟩
  · rw [hcount, hfailed]
    decide
  · rw [hcount', hfailed']
    decide
  · have hone : (1 : BitVec 32).toNat = 1 := rfl
    have htwo : (2 : BitVec 32).toNat = 2 := rfl
    rw [successRate, hcount', hfailed', if_neg (by decide), hone, htwo]
    norm_num

end EzspSpi
