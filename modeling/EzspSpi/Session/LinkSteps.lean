import EzspSpi.Session.Invariant
import EzspSpi.Session.Link

/-!
# The bridge keeps pace with the relay

Between two of its procedures the bridge state reflects the relay's, all that
the relay has sent is written, and the frames it has passed on are those the
session has stored.  Within a procedure some of it is still due.
-/

namespace EzspSpi

open Program RingLog Transducer

variable {σ : Type} [Kernel σ] (g : Globals)

/-! ## The invariant -/

/-- The bridge state that goes with a state of the relay. -/
structure Reflects (b : Bridge) (L : Link) : Prop where
  client : 0 ≤ b.cli → L.client = some b.cli.toNat
  linked : L.linked = b.ready
  ver : L.ver = b.ver
  next : L.next = b.ack
  three : b.ack &&& 0x07 = b.ack
  frm : b.frm.toNat = L.log.length % 8
  ring : Mirrors [] b.sent L.log
  sent : ∀ body ∈ L.log, body ≠ [] ∧ body.length ≤ ashMaxFrame

/-- What an event stores. -/
def storedAt : HostEvent → List (List Byte)
  | .note (.store body) => [body]
  | _ => []

/-- The bridge keeps pace, and stores the frames the relay passes on as soon as
it hears them. -/
def relayContract : Contract host where
  event h e := relayPacing.contract.event h e ∧
    (isBus e = false → (session h).log ++ storedAt e =
      (relay.after (relayPacing.state h).2 (relayPacing.state h).1.answer).log)
  halt _ := True

theorem relayContract_halt (h : List HostEvent) : relayContract.halt h :=
  trivial

/-- Once the answer on the bus is heard, the relay is in this state and has
sent this much more than is written, while the session keeps these frames. -/
def Stands (L : Link) (due : List (Int × List Byte)) (kept : List (List Byte))
    (h : List HostEvent) : Prop :=
  ∃ owed, relayPacing.Owing owed h ∧
    relay.after (relayPacing.state h).2 (relayPacing.state h).1.answer = L ∧
    owed ++ relay.output (relayPacing.state h).2
      (relayPacing.state h).1.answer = due ∧
    (session h).log = kept

/-- A command was begun and nothing has happened on the bus yet. -/
structure Asking (hear : List Byte → Heard) (L : Link) (h : List HostEvent) :
    Prop where
  owing : relayPacing.Owing [] h
  state : relayPacing.state h = (some (hear, []), L)
  kept : (session h).log = L.log

def Tracks (b : Bridge) (h : List HostEvent) : Prop :=
  ∃ L, Reflects b L ∧ Stands L [] L.log h

/-- The same with a client connected. -/
def Serves (b : Bridge) (h : List HostEvent) : Prop :=
  Tracks b h ∧ 0 ≤ b.cli

/-! ## Events -/

private theorem relayPacing_step (s : Reader × Link) (e : HostEvent) :
    relayPacing.machine.step s e =
      (((s.1.step e).1, relay.after s.2 (s.1.step e).2),
        relay.output s.2 (s.1.step e).2) := rfl

private theorem answer_begin (e : HostEvent) :
    (Reader.begin e).answer = [] := by
  cases e with
  | note n => cases n <;> rfl
  | call c r => rfl

/-- Off the bus an answer is heard at once. -/
private theorem step_begin {R : Reader} {e : HostEvent}
    (he : isBus e = false) :
    R.step e = (Reader.begin e, R.answer ++ Reader.tells e) := by
  rw [Reader.step, he]
  rfl

private theorem step_bus {R : Reader} {e : HostEvent} (he : isBus e = true) :
    R.step e = (R.map fun cmd => (cmd.1, cmd.2 ++ [e]), []) := by
  rw [Reader.step, he]
  rfl

private theorem answer_append_quiet (R : Reader) {e : HostEvent}
    (he : IsQuiet e) :
    Reader.answer (R.map fun cmd => (cmd.1, cmd.2 ++ [e])) = R.answer := by
  cases R with
  | none => rfl
  | some cmd =>
      rw [Option.map_some, Reader.answer, Reader.answer,
        exchanges_concat_quiet he]

private theorem write_log (S : Session) (fd : Int) (buf : List Byte)
    (rounds : List WriteResult) :
    (S.step (.call (.write fd buf) rounds)).log = S.log := by
  rw [Session.step]
  split <;> rfl

private theorem handleFrame_log {S : Session} {L : Link}
    (hlog : S.log = L.log) (f : List Byte) :
    (S.receive f).log = (L.receive f).1.log := by
  rw [Session.receive, Link.receive]
  cases frameKind f with
  | rst => rfl
  | ack => exact (S.acknowledge_log _).trans hlog
  | nak => exact (S.acknowledge_log _).trans hlog
  | error => exact hlog
  | data =>
      dsimp only
      rw [Session.deliver_log, Session.acknowledge_log]
      split
      · exact hlog
      · exact hlog

/-- Off the bus the frames kept stay those of the relay, if those that it
passed on are stored. -/
theorem log_step_tells {S : Session} {L : Link} {e : HostEvent}
    (he : isBus e = false) (hlog : S.log ++ storedAt e = L.log) :
    (S.step e).log = (relay.after L (Reader.tells e)).log := by
  cases e with
  | note n =>
      cases n with
      | store body => exact hlog
      | handleFrame b f =>
          exact handleFrame_log ((List.append_nil _).symm.trans hlog) f
      | negotiated neg => cases he
      | _ => exact (List.append_nil _).symm.trans hlog
  | call c r =>
      have hsame : S.log = L.log := (List.append_nil _).symm.trans hlog
      cases c with
      | accept srv =>
          cases r with
          | none => exact hsame
          | some fd => rfl
      | write fd buf => exact (write_log S fd buf r).trans hsame
      | _ => exact hsame

/-- On the bus nothing is stored. -/
theorem log_step_bus (S : Session) {e : HostEvent} (he : isBus e = true) :
    (S.step e).log = S.log := by
  cases e with
  | note n => cases n <;> first | rfl | cases he
  | call c r => cases c <;> first | rfl | cases he

/-- An event off the bus: the relay hears what it tells, and what is due is
written now or later. -/
theorem Stands.concat {L : Link} {due due' : List (Int × List Byte)}
    {kept : List (List Byte)} {h : List HostEvent} {e : HostEvent}
    (hh : Stands L due kept h) (he : isBus e = false)
    (hkept : kept ++ storedAt e = L.log)
    (hdue : due ++ relay.output L (Reader.tells e) = writtenAt e ++ due') :
    relayPacing.Owing due' (h ++ [e]) ∧
      relayPacing.state (h ++ [e]) =
        (Reader.begin e, relay.after L (Reader.tells e)) ∧
      (session (h ++ [e])).log = (relay.after L (Reader.tells e)).log := by
  obtain ⟨owed, howing, hafter, hout, hlog⟩ := hh
  have hstep : relayPacing.machine.step (relayPacing.state h) e =
      ((Reader.begin e, relay.after L (Reader.tells e)),
        relay.output (relayPacing.state h).2 (relayPacing.state h).1.answer ++
          relay.output L (Reader.tells e)) := by
    rw [relayPacing_step, step_begin he, Machine.after_append,
      Machine.output_append, hafter]
  refine ⟨?_, ?_, ?_⟩
  · apply howing.concat
    rw [hstep]
    calc owed ++ (relay.output _ _ ++ relay.output L (Reader.tells e))
        = due ++ relay.output L (Reader.tells e) := by
          rw [← List.append_assoc, hout]
      _ = writtenAt e ++ due' := hdue
  · rw [Pacing.state_concat, hstep]
  · rw [session_concat]
    rw [← hlog] at hkept
    exact log_step_tells he hkept

theorem stands_of_begin {L : Link} {due : List (Int × List Byte)}
    {h : List HostEvent} {e : HostEvent} (howing : relayPacing.Owing due h)
    (hstate : relayPacing.state h = (Reader.begin e, L))
    (hlog : (session h).log = L.log) : Stands L due L.log h := by
  refine ⟨due, howing, ?_, ?_, hlog⟩ <;> rw [hstate, answer_begin]
  · rfl
  · exact List.append_nil due

/-- What the contract asks at such an event. -/
theorem Stands.keeps {L : Link} {due due' : List (Int × List Byte)}
    {kept : List (List Byte)} {h : List HostEvent} {e : HostEvent}
    (hh : Stands L due kept h) (howing : relayPacing.Owing due' (h ++ [e]))
    (hwaits : WaitsAt e → due' = [])
    (hkept : kept ++ storedAt e = L.log) : relayContract.event h e := by
  obtain ⟨_, _, hafter, _, hlog⟩ := hh
  refine ⟨⟨due', howing, hwaits⟩, fun _ => ?_⟩
  rw [hafter, hlog, hkept]

/-- The rule for such an event under the contract. -/
theorem Stands.event {L : Link} {due due' : List (Int × List Byte)}
    {kept : List (List Byte)} {h : List HostEvent} {e : HostEvent}
    (hh : Stands L due kept h) (he : isBus e = false)
    (hkept : kept ++ storedAt e = L.log)
    (hdue : due ++ relay.output L (Reader.tells e) = writtenAt e ++ due')
    (hwaits : WaitsAt e → due' = []) :
    relayContract.event h e ∧
      Stands (relay.after L (Reader.tells e)) due'
        (relay.after L (Reader.tells e)).log (h ++ [e]) := by
  obtain ⟨howing, hstate, hlog⟩ := hh.concat he hkept hdue
  exact ⟨hh.keeps howing hwaits hkept, stands_of_begin howing hstate hlog⟩

/-- An event that neither tells nor writes nor stores anything. -/
structure IsIdle (e : HostEvent) : Prop where
  bus : isBus e = false
  tells : Reader.tells e = []
  written : writtenAt e = []
  stored : storedAt e = []

/-- Such an event changes nothing. -/
theorem Stands.idle {L : Link} {due : List (Int × List Byte)}
    {h : List HostEvent} {e : HostEvent} (hh : Stands L due L.log h)
    (he : IsIdle e) (hwaits : WaitsAt e → due = []) :
    relayContract.event h e ∧ Stands L due L.log (h ++ [e]) := by
  have hdue : due ++ relay.output L (Reader.tells e) = writtenAt e ++ due := by
    rw [he.tells, he.written, Machine.output_nil, List.append_nil,
      List.nil_append]
  have hkept : L.log ++ storedAt e = L.log := by
    rw [he.stored, List.append_nil]
  have hevent := hh.event he.bus hkept hdue hwaits
  rw [he.tells] at hevent
  exact hevent

theorem IsGpio.isBus {e : HostEvent} (he : IsGpio e) : isBus e = true := by
  cases e with
  | note n => exact he.elim
  | call c r => cases c <;> first | rfl | exact he.elim

private theorem writtenAt_of_isBus {e : HostEvent} (he : isBus e = true) :
    writtenAt e = [] := by
  cases e with
  | note n => rfl
  | call c r => cases c <;> first | rfl | exact absurd he Bool.false_ne_true

/-- Neither does an event on the bus on which no byte is clocked. -/
theorem Stands.quiet {L : Link} {due : List (Int × List Byte)}
    {kept : List (List Byte)} {h : List HostEvent} {e : HostEvent}
    (hh : Stands L due kept h) (he : isBus e = true) (hquiet : IsQuiet e)
    (hwaits : ¬WaitsAt e) :
    relayContract.event h e ∧ Stands L due kept (h ++ [e]) := by
  obtain ⟨owed, howing, hafter, hout, hlog⟩ := hh
  have hwritten : writtenAt e = [] := writtenAt_of_isBus he
  have hstep : relayPacing.machine.step (relayPacing.state h) e =
      (((relayPacing.state h).1.map fun cmd => (cmd.1, cmd.2 ++ [e]),
        (relayPacing.state h).2), []) := by
    rw [relayPacing_step, step_bus he]
    rfl
  have howing' : relayPacing.Owing owed (h ++ [e]) := by
    apply howing.concat
    rw [hstep]
    exact (List.append_nil owed).trans (congrArg (· ++ owed) hwritten).symm
  have hoff : isBus e ≠ false := by
    rw [he]
    exact Bool.noConfusion
  refine ⟨⟨⟨owed, howing', fun hwait => absurd hwait hwaits⟩,
    fun hbus => absurd hbus hoff⟩, owed, howing', ?_⟩
  rw [Pacing.state_concat, hstep, session_concat, log_step_bus _ he]
  dsimp only
  rw [answer_append_quiet _ hquiet]
  exact ⟨hafter, hout, hlog⟩

theorem Stands.gpio {L : Link} {due : List (Int × List Byte)}
    {kept : List (List Byte)} {h : List HostEvent} {e : HostEvent}
    (hh : Stands L due kept h) (he : IsGpio e) :
    relayContract.event h e ∧ Stands L due kept (h ++ [e]) := by
  apply hh.quiet he.isBus he.isQuiet
  cases e with
  | note n => exact he.elim
  | call c r => cases c <;> first | exact id | exact he.elim

/-! ## A command on the bus -/

/-- During a command nothing is due. -/
theorem Asking.append {hear : List Byte → Heard} {L : Link}
    {h t : List HostEvent} (hh : Asking hear L h)
    (ht : ∀ e ∈ t, isBus e = true) :
    relayPacing.Owing [] (h ++ t) ∧
      relayPacing.state (h ++ t) = (some (hear, t), L) ∧
      (session (h ++ t)).log = L.log := by
  induction t using List.reverseRecOn with
  | nil =>
      rw [List.append_nil]
      exact ⟨hh.owing, hh.state, hh.kept⟩
  | append_singleton t e ih =>
      obtain ⟨howing, hstate, hlog⟩ :=
        ih fun e' he' => ht e' (List.mem_append_left [e] he')
      have hbus : isBus e = true := ht e List.mem_concat_self
      have hwritten : writtenAt e = [] := writtenAt_of_isBus hbus
      have hstep : relayPacing.machine.step (relayPacing.state (h ++ t)) e =
          ((some (hear, t ++ [e]), L), []) := by
        rw [relayPacing_step, step_bus hbus, hstate]
        rfl
      rw [← List.append_assoc]
      refine ⟨?_, ?_, ?_⟩
      · apply howing.concat
        rw [hstep]
        exact (congrArg (· ++ []) hwritten).symm
      · rw [Pacing.state_concat, hstep]
      · rw [session_concat, log_step_bus _ hbus, hlog]

/-- After it the relay has heard the answer, if there is one. -/
theorem Asking.answered {hear : List Byte → Heard} {L : Link}
    {h t : List HostEvent} {tx : List Byte} {x : Exchange}
    (hh : Asking hear L h) (ht : ∀ e ∈ t, isBus e = true)
    (hx : Commanded tx x t) :
    Stands (relay.after L (x.frame?.map hear).toList)
      (relay.output L (x.frame?.map hear).toList) L.log (h ++ t) := by
  obtain ⟨howing, hstate, hlog⟩ := hh.append ht
  have hlast : (exchanges t).getLast? = some x := (hx.exchanges_append []).1
  have hanswer : Reader.answer (some (hear, t)) =
      (x.frame?.map hear).toList := by
    rw [Reader.answer, hlast]
    rfl
  refine ⟨[], howing, ?_, ?_, hlog⟩ <;> rw [hstate] <;> dsimp only <;>
    rw [hanswer]
  rfl

private theorem Relays.isBus {e : HostEvent} (he : Relays False e) :
    isBus e = true := by
  cases e with
  | note n => cases n <;> exact he.elim
  | call c r => cases c <;> first | rfl | exact he.elim

/-- Relaying an EZSP frame, begun with nothing due. -/
theorem ezspRelay_paced (p : Pins) {ezsp : List Byte} {h : List HostEvent}
    {hear : List Byte → Heard} {L : Link} (hh : Asking hear L h)
    (hpos : ezsp ≠ []) (hlen : ezsp.length ≤ ashMaxFrame) :
    Holds relayContract h
      (ezspRelay g p ezsp ashMaxFrame : Host σ (Option (List Byte)))
      fun reply h' => ∃ answer : Option (List Byte),
        reply = answer.map (fun frame => frame.take ashMaxFrame) ∧
        Stands (relay.after L (answer.map hear).toList)
          (relay.output L (answer.map hear).toList) L.log h' := by
  have hrelay : Holds (relaying False) h
      (ezspRelay g p ezsp ashMaxFrame : Host σ (Option (List Byte))) _ :=
    ezspRelay_holds (fun _ => trivial) (relaying_bus False) g p hpos hlen
      ashMaxFrame fun _ _ _ => trivial
  have hstep : ∀ h' e, Relays False e →
      (∃ t, (∀ e ∈ t, isBus e = true) ∧ h' = h ++ t) →
      relayContract.event h' e ∧
        ∃ t, (∀ e ∈ t, isBus e = true) ∧ h' ++ [e] = h ++ t := by
    rintro h' e he ⟨t, ht, rfl⟩
    have ht' : ∀ e' ∈ t ++ [e], isBus e' = true := by
      intro e' he'
      rcases List.mem_append.mp he' with hold | hnew
      · exact ht e' hold
      · exact List.mem_singleton.mp hnew ▸ he.isBus
    rw [List.append_assoc]
    refine ⟨⟨⟨[], ?_, fun _ => rfl⟩, fun hoff => ?_⟩, t ++ [e], ht', rfl⟩
    · rw [List.append_assoc]
      exact (hh.append ht').1
    · rw [he.isBus] at hoff
      exact absurd hoff.symm Bool.false_ne_true
  have hstart : ∃ t, (∀ e ∈ t, isBus e = true) ∧ h = h ++ t :=
    ⟨[], fun e he => absurd he List.not_mem_nil, (List.append_nil h).symm⟩
  apply (hrelay.frame hstep (fun _ _ => trivial) hstart).mono
  rintro reply _ ⟨⟨t, x, rfl, hcommanded, hreply⟩, t', ht', heq⟩
  rw [← List.append_cancel_left heq] at ht'
  exact ⟨x.frame?, hreply, hh.answered ht' hcommanded⟩

end EzspSpi
