import EzspSpi.Session.Simulation

/-!
# What the client has yet to acknowledge

The relay's DATA frames and the client's acknowledgements of them, counted on
what the bridge hears.  In every run the count is that of the bridge's session,
and the bridge stores a frame exactly where the NCP brings one to pass on.
-/

namespace EzspSpi

open Program Transducer

/-! ## The count -/

/-- What the bridge has heard over a trace. -/
def heard (t : List HostEvent) : List Heard :=
  reader.output reader.start t

/-- The relay, and how many of the DATA frames it has sent since the last RST
the client has acknowledged. -/
structure Backlog where
  link : Link
  acked : ℕ
  deriving DecidableEq, Repr

namespace Backlog

def start : Backlog := ⟨Link.start, 0⟩

/-- An acknowledgement is cumulative; one beyond the frames sent is void. -/
def acknowledge (B : Backlog) (n : Byte) : ℕ :=
  let acked := B.acked + (n.toNat + 8 - B.acked % 8) % 8
  if acked ≤ B.link.log.length then acked else B.acked

/-- A frame from the client: all but RST and ERROR acknowledge. -/
def receive (B : Backlog) (f : List Byte) : ℕ :=
  match frameKind f with
  | .rst => 0
  | .error => B.acked
  | _ => B.acknowledge (ackNumber f)

def step (B : Backlog) (x : Heard) : Backlog where
  link := (B.link.step x).1
  acked :=
    match x with
    | .accepted _ => 0
    | .frame f => B.receive f
    | .reply _ | .callback _ => B.acked

/-- DATA frames sent and not yet acknowledged. -/
def outstanding (B : Backlog) : ℕ := B.link.log.length - B.acked

end Backlog

/-- The backlog after all this is heard. -/
def backlog (xs : List Heard) : Backlog :=
  xs.foldl Backlog.step Backlog.start

/-- The NCP brings a frame to pass on. -/
def Link.Takes (L : Link) : Heard → Prop
  | .accepted _ | .frame _ => False
  | .reply ezsp => ezsp ≠ [] ∧ ezsp.length < ashMaxFrame
  | .callback ezsp => IsCallback L.ver ezsp ∧ ezsp.length < ashMaxFrame

instance (L : Link) (x : Heard) : Decidable (L.Takes x) :=
  match x with
  | .accepted _ | .frame _ => inferInstanceAs (Decidable False)
  | .reply _ | .callback _ => inferInstanceAs (Decidable (_ ∧ _))

/-! ## What the relay takes -/

private theorem length_pass {L : Link} {ezsp : List Byte} (hezsp : ezsp ≠ [])
    (hlen : ezsp.length < ashMaxFrame) :
    (L.pass ezsp).1.log.length = L.log.length + 1 := by
  rw [Link.pass, if_neg fun h => h.elim hezsp (not_le.mpr hlen),
    List.length_append, List.length_singleton]

private theorem pass_of_not {L : Link} {ezsp : List Byte}
    (h : ¬(ezsp ≠ [] ∧ ezsp.length < ashMaxFrame)) :
    (L.pass ezsp).1 = L := by
  have hdrop : ezsp = [] ∨ ashMaxFrame ≤ ezsp.length := by
    by_contra hkeep
    exact h ⟨fun hnil => hkeep (Or.inl hnil),
      not_le.mp fun hle => hkeep (Or.inr hle)⟩
  rw [Link.pass, if_pos hdrop]

/-- Only what the relay takes makes its log longer. -/
theorem Link.takes_iff (L : Link) (x : Heard) :
    L.Takes x ↔ L.log.length < (L.step x).1.log.length := by
  cases x with
  | accepted fd => exact iff_of_false id (Nat.not_lt_zero _)
  | frame f =>
      refine iff_of_false id (not_lt.mpr ?_)
      show (L.receive f).1.log.length ≤ L.log.length
      rw [Link.receive]
      split
      · exact Nat.zero_le _
      · exact le_rfl
      · exact le_rfl
      · exact le_rfl
      · split <;> exact le_rfl
  | reply ezsp =>
      have hadopt := L.adopt_log ezsp
      show (ezsp ≠ [] ∧ ezsp.length < ashMaxFrame) ↔
        L.log.length < ((L.adopt ezsp).pass ezsp).1.log.length
      by_cases h : ezsp ≠ [] ∧ ezsp.length < ashMaxFrame
      · rw [length_pass h.1 h.2, hadopt]
        exact iff_of_true h (Nat.lt_succ_self _)
      · rw [pass_of_not h, hadopt]
        exact iff_of_false h (lt_irrefl _)
  | callback ezsp =>
      show (IsCallback L.ver ezsp ∧ ezsp.length < ashMaxFrame) ↔
        L.log.length < (if IsCallback L.ver ezsp then L.pass ezsp
          else (L, [])).1.log.length
      by_cases hcallback : IsCallback L.ver ezsp
      · have hezsp : ezsp ≠ [] :=
          List.ne_nil_of_length_pos (Nat.zero_lt_of_lt hcallback.1)
        rw [if_pos hcallback]
        by_cases hlen : ezsp.length < ashMaxFrame
        · rw [length_pass hezsp hlen]
          exact iff_of_true ⟨hcallback, hlen⟩ (Nat.lt_succ_self _)
        · rw [pass_of_not fun h => hlen h.2]
          exact iff_of_false (fun h => hlen h.2) (lt_irrefl _)
      · rw [if_neg hcallback]
        exact iff_of_false (fun h => hcallback h.1) (lt_irrefl _)

/-! ## The backlog is that of the session -/

private theorem foldl_link (xs : List Heard) (B : Backlog) :
    (xs.foldl Backlog.step B).link = relay.after B.link xs := by
  induction xs generalizing B with
  | nil => rfl
  | cons x xs ih => exact ih (B.step x)

/-- Where the reader is after a trace. -/
private def reading (t : List HostEvent) : Reader :=
  reader.after reader.start t

private theorem backlog_link (t : List HostEvent) :
    (backlog (heard t)).link = (relayPacing.state t).2 := by
  have hstate : relayPacing.state t =
      (reading t, relay.after Link.start (heard t)) :=
    Machine.after_cascade reader relay reader.start Link.start t
  rw [hstate]
  exact foldl_link (heard t) Backlog.start

private theorem relayPacing_reader (t : List HostEvent) :
    (relayPacing.state t).1 = reading t :=
  congrArg Prod.fst
    (Machine.after_cascade reader relay reader.start Link.start t)

/-- The reader waits for a reply or for a callback. -/
private theorem reader_hears (t : List HostEvent) {hear : List Byte → Heard}
    {bus : List HostEvent} (ht : reading t = some (hear, bus)) :
    hear = .reply ∨ hear = .callback := by
  induction t using List.reverseRecOn generalizing bus with
  | nil => cases ht
  | append_singleton t e ih =>
      have hstep : (Reader.step (reading t) e).1 = some (hear, bus) := by
        rw [reading, Machine.after_append] at ht
        exact ht
      rw [Reader.step] at hstep
      by_cases he : isBus e = true
      · rw [if_pos he] at hstep
        obtain ⟨⟨hear', bus'⟩, hbefore, hsame⟩ := Option.map_eq_some_iff.mp hstep
        obtain ⟨rfl, _⟩ := Prod.mk.inj hsame
        exact ih hbefore
      · rw [if_neg he] at hstep
        cases e with
        | call c r => cases hstep
        | note n =>
            cases n <;> first
              | cases hstep; exact Or.inl rfl
              | cases hstep; exact Or.inr rfl
              | cases hstep

/-- So an answer acknowledges nothing. -/
private theorem answer_acked (t : List HostEvent) (B : Backlog) :
    ((reading t).answer.foldl Backlog.step B).acked = B.acked := by
  cases hreader : reading t with
  | none => rfl
  | some cmd =>
      obtain ⟨hear, bus⟩ := cmd
      rw [Reader.answer]
      cases (exchanges bus).getLast?.bind Exchange.frame? with
      | none => rfl
      | some frame =>
          rcases reader_hears t hreader with rfl | rfl <;> rfl

/-- The frames sent and the frames acknowledged are those of the session. -/
structure Backlog.Counts (B : Backlog) (S : Session) : Prop where
  log : S.log = B.link.log
  acked : S.acked = B.acked

theorem Backlog.Counts.outstanding {B : Backlog} {S : Session}
    (h : B.Counts S) : B.outstanding = S.unacked := by
  rw [Backlog.outstanding, Session.unacked, h.log, h.acked]

private theorem acknowledge_acked {B : Backlog} {S : Session}
    (h : B.Counts S) (n : Byte) :
    (S.acknowledge n).acked = B.acknowledge n := by
  rw [Session.acknowledge, Backlog.acknowledge, h.log, h.acked]
  split
  · rfl
  · exact h.acked

private theorem receive_acked {B : Backlog} {S : Session} (h : B.Counts S)
    (f : List Byte) : (S.receive f).acked = B.receive f := by
  rw [Session.receive, Backlog.receive]
  cases frameKind f with
  | rst => rfl
  | ack => exact acknowledge_acked h _
  | nak => exact acknowledge_acked h _
  | error => exact h.acked
  | data => exact (Session.deliver_acked _ _).trans (acknowledge_acked h _)

/-- An event off the bus, once the answer before it is heard and stored. -/
private theorem step_acked {B : Backlog} {S : Session} {e : HostEvent}
    (hlog : S.log ++ storedAt e = B.link.log) (hacked : S.acked = B.acked) :
    (S.step e).acked = ((Reader.tells e).foldl Backlog.step B).acked := by
  cases e with
  | note n =>
      cases n with
      | handleFrame b f =>
          exact receive_acked ⟨(List.append_nil _).symm.trans hlog, hacked⟩ f
      | _ => exact hacked
  | call c r =>
      cases c with
      | accept srv =>
          cases r with
          | none => exact hacked
          | some fd => rfl
      | write fd buf =>
          rw [Session.step]
          split <;> exact hacked
      | _ => exact hacked

private theorem bus_acked (S : Session) {e : HostEvent}
    (he : isBus e = true) : (S.step e).acked = S.acked := by
  cases e with
  | note n => cases n <;> first | rfl | cases he
  | call c r => cases c <;> first | rfl | cases he

private theorem heard_concat (t : List HostEvent) (e : HostEvent) :
    heard (t ++ [e]) = heard t ++ ((reading t).step e).2 := by
  rw [heard, Machine.output_append, Machine.output_cons, Machine.output_nil,
    List.append_nil]
  rfl

/-- In every run the bridge's session is what the backlog says. -/
theorem backlog_counts {t : List HostEvent} (ht : Along relayContract [] t) :
    (backlog (heard t)).Counts (session t) := by
  induction t using List.reverseRecOn with
  | nil => exact ⟨rfl, rfl⟩
  | append_singleton t e ih =>
      obtain ⟨halong, _, hstored⟩ := along_concat.mp ht
      have hcounts := ih halong
      rw [heard_concat, session_concat, Reader.step]
      by_cases he : isBus e = true
      · rw [if_pos he, List.append_nil]
        exact ⟨(log_step_bus _ he).trans hcounts.log,
          (bus_acked _ he).trans hcounts.acked⟩
      · have hoff : isBus e = false := Bool.eq_false_of_not_eq_true he
        have hkept := hstored hoff
        rw [List.nil_append, relayPacing_reader, ← backlog_link,
          ← foldl_link] at hkept
        have hacked := hcounts.acked.trans
          (answer_acked t (backlog (heard t))).symm
        rw [if_neg he, backlog, List.foldl_append, List.foldl_append]
        constructor
        · rw [foldl_link]
          exact log_step_tells hoff hkept
        · exact step_acked hkept hacked

/-! ## Where frames are stored -/

private theorem answer_cases (R : Reader) :
    R.answer = [] ∨ ∃ x, R.answer = [x] := by
  cases R with
  | none => exact Or.inl rfl
  | some cmd =>
      obtain ⟨hear, bus⟩ := cmd
      rw [Reader.answer]
      cases (exchanges bus).getLast?.bind Exchange.frame? with
      | none => exact Or.inl rfl
      | some frame => exact Or.inr ⟨hear frame, rfl⟩

/-- What the contract says at an event off the bus. -/
private theorem stored_concat {t t' : List HostEvent} {e : HostEvent}
    (ht : Along relayContract [] (t ++ e :: t')) (he : isBus e = false) :
    (backlog (heard t)).link.log ++ storedAt e =
      (relay.after (backlog (heard t)).link (reading t).answer).log := by
  have hcounts := backlog_counts (along_append.mp ht).1
  obtain ⟨_, hstored⟩ := ht.at_event
  have hkept := hstored he
  rw [List.nil_append, relayPacing_reader, ← backlog_link] at hkept
  rw [← hcounts.log, hkept]

/-- A frame is stored only where the NCP brings one to pass on. -/
theorem takes_of_store {t₁ t₂ : List HostEvent} {body : List Byte}
    (ht : Along relayContract [] (t₁ ++ .note (.store body) :: t₂)) :
    ∃ x ys, heard (t₁ ++ .note (.store body) :: t₂) =
        heard t₁ ++ x :: ys ∧
      (backlog (heard t₁)).link.Takes x := by
  have hstored := stored_concat ht rfl
  have hheard : heard (t₁ ++ .note (.store body) :: t₂) =
      heard t₁ ++ ((reading t₁).answer ++
        reader.output none t₂) := by
    rw [heard, Machine.output_append, Machine.output_cons]
    congr 2
    exact List.append_nil _
  rcases answer_cases (reading t₁) with hnone | ⟨x, hx⟩
  · rw [hnone, Machine.after_nil] at hstored
    exact absurd (List.append_right_eq_self.mp hstored) (List.cons_ne_nil _ _)
  · rw [hx] at hstored hheard
    refine ⟨x, _, hheard, ?_⟩
    have hlength := congrArg List.length hstored
    rw [List.length_append, storedAt, List.length_singleton] at hlength
    rw [Link.takes_iff]
    exact Nat.lt_of_succ_le hlength.le

private theorem not_takes_tells {L : Link} {e : HostEvent} {x : Heard}
    (hx : x ∈ Reader.tells e) : ¬L.Takes x := by
  cases e with
  | note n =>
      cases n with
      | handleFrame b f => exact List.mem_singleton.mp hx ▸ id
      | _ => exact absurd hx List.not_mem_nil
  | call c r =>
      cases c with
      | accept srv =>
          cases r with
          | none => exact absurd hx List.not_mem_nil
          | some fd => exact List.mem_singleton.mp hx ▸ id
      | _ => exact absurd hx List.not_mem_nil

private theorem exists_store {e : HostEvent} (he : storedAt e ≠ []) :
    ∃ body, e = .note (.store body) := by
  cases e with
  | call c r => exact absurd rfl he
  | note n =>
      cases n with
      | store body => exact ⟨body, rfl⟩
      | _ => exact absurd rfl he

/-- And it is stored there. -/
theorem store_of_takes {t : List HostEvent} {xs ys : List Heard} {x : Heard}
    (ht : Along relayContract [] t) (hheard : heard t = xs ++ x :: ys)
    (hx : (backlog xs).link.Takes x) :
    ∃ t₁ body t₂, t = t₁ ++ .note (.store body) :: t₂ ∧ heard t₁ = xs := by
  obtain ⟨t₁, e, t₂, us, vs, rfl, hxs, hstep⟩ :=
    reader.exists_input_of_output hheard
  have hout : ((reading t₁).step e).2 = us ++ x :: vs := hstep
  rw [Reader.step] at hout
  by_cases he : isBus e = true
  · rw [if_pos he] at hout
    exact absurd hout.symm (List.append_ne_nil_of_right_ne_nil us
      (List.cons_ne_nil x vs))
  rw [if_neg he] at hout
  have hstored := stored_concat ht (Bool.eq_false_of_not_eq_true he)
  have htold (us' : List Heard) (htells : Reader.tells e = us' ++ x :: vs) :
      False := by
    have hmem : x ∈ Reader.tells e := by
      rw [htells]
      exact List.mem_append_right us' List.mem_cons_self
    exact not_takes_tells hmem hx
  rcases answer_cases (reading t₁) with hnone | ⟨y, hy⟩
  · rw [hnone] at hout
    exact (htold us hout).elim
  · rw [hy] at hout hstored
    cases us with
    | cons u us => exact (htold us (List.cons.inj hout).2).elim
    | nil =>
        obtain rfl : y = x := (List.cons.inj hout).1
        have hsame : xs = heard t₁ := hxs.trans (List.append_nil _)
        rw [hsame, Link.takes_iff] at hx
        have hne : storedAt e ≠ [] := by
          intro hnil
          rw [hnil, List.append_nil] at hstored
          rw [hstored] at hx
          exact absurd hx (lt_irrefl _)
        obtain ⟨body, rfl⟩ := exists_store hne
        exact ⟨t₁, body, t₂, rfl, hsame.symm⟩

end EzspSpi
