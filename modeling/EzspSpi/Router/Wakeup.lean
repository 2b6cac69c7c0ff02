import EzspSpi.Ash.Parts
import EzspSpi.Router.Parts
import EzspSpi.Session.Isolation

/-!
# Going to sleep

Both daemons look at nHOST_INT before they sleep and watch it only while it is
released, for the edge that is to wake them.  A callback that comes after the
drain and before that look has pulled the line low already, and a drain that is
cut short leaves it low: the line is then left out of the poll set, and the
daemon sleeps with the callback queued.
-/

namespace EzspSpi

open Program

variable {σ : Type} [Kernel σ]

/-- The surroundings as the calls among these events left them. -/
def worldAfter (s : σ) (t : List HostEvent) : σ :=
  t.foldl (fun s e => match e with
    | .call c _ => (Surroundings.answer (I := host) c s).2
    | .note _ => s) s

/-- The descriptors a wait for events is entered with. -/
def pollSet : HostEvent → Option (List Int)
  | .call (.poll fds _) _ => some fds
  | .call (.pollEvents fds _) _ => some fds
  | _ => none

/-- nHOST_INT and the callback queue behind it, as the surroundings have them.
A line that is read low is low, and stays so while the host only looks at the
clock. -/
structure HintLine (σ : Type) [Kernel σ] (hint : Int) where
  low : σ → Prop
  queued : σ → Prop
  sampled : ∀ s,
    (Surroundings.answer (I := host) (.gpioGetValue hint) s).1 = some false →
      low (Surroundings.answer (I := host) (.gpioGetValue hint) s).2
  held : ∀ s, low s → low (Surroundings.answer (I := host) .time s).2

/-- To sleep on these descriptors is to miss a callback: it is queued, the line
is low and its descriptor left out. -/
def HintLine.Blind {hint : Int} (line : HintLine σ hint) (fds : List Int)
    (s : σ) : Prop := hint ∉ fds ∧ line.low s ∧ line.queued s

/-- `gpio_get` has read the line low. -/
def readLow (hint : Int) : HostEvent := .call (.gpioGetValue hint) (some false)

/-! ## A pass of either loop -/

/-- A look at the line, and at most one at the clock. -/
def Looked (hint : Int) (level : Option Bool) (h : List HostEvent) : Prop :=
  h = [.call (.gpioGetValue hint) level] ∨
    ∃ now, h = [.call (.gpioGetValue hint) level, .call .time now]

/-- The one wait of a pass follows a look at the line, and includes it unless it
is low. -/
def sleepsAfterLook (hint : Int) (others : List Int) : Contract host where
  event h e := ∀ fds, pollSet e = some fds → ∃ level, Looked hint level h ∧
    fds = others ++ if level = some false then [] else [hint]
  halt _ := True

omit [Kernel σ] in
theorem awake_holds {hint : Int} {others : List Int} {α : Type}
    {m : Host σ α} {h : List HostEvent}
    (hm : Emits (fun e => pollSet e = none) m) :
    Holds (sleepsAfterLook hint others) h m fun _ _ => True := by
  apply hm.holds (R := fun _ => True) _ (fun _ _ => trivial) trivial
  intro h' e he _
  refine ⟨fun fds hfds => ?_, trivial⟩
  rw [he] at hfds
  cases hfds

namespace Looked

variable {hint : Int} {level : Option Bool} {h : List HostEvent}
  (hlooked : Looked hint level h)

include hlooked

omit [Kernel σ] in
/-- The first event says what the line was read as. -/
theorem level_eq {t : List HostEvent} {level' : Option Bool}
    (hfirst : (h ++ t).head? = some (.call (.gpioGetValue hint) level')) :
    level = level' := by
  rcases hlooked with rfl | ⟨now, rfl⟩
  · simpa using hfirst
  · simpa using hfirst

theorem readLow_mem : readLow hint ∈ h ↔ level = some false := by
  rcases hlooked with rfl | ⟨now, rfl⟩
  · simp [readLow, eq_comm]
  · simp [readLow, eq_comm]

/-- A line read low is low as the loop goes to sleep. -/
theorem low (line : HintLine σ hint) {s : σ}
    (hlow : (Surroundings.answer (I := host) (.gpioGetValue hint) s).1 =
      some false) : line.low (worldAfter s h) := by
  have hlow' := line.sampled s hlow
  rcases hlooked with rfl | ⟨now, rfl⟩
  · exact hlow'
  · exact line.held _ hlow'

end Looked

/-- A pass whose first event is the look at the line. -/
theorem blind_iff {hint : Int} {others : List Int} (line : HintLine σ hint)
    {s : σ} {t t₁ t₂ : List HostEvent} {e : HostEvent} {fds : List Int}
    (ht : Along (sleepsAfterLook hint others) [] t)
    (hfirst : t.head? = some (.call (.gpioGetValue hint)
      (Surroundings.answer (I := host) (.gpioGetValue hint) s).1))
    (htrace : t = t₁ ++ e :: t₂) (hfds : pollSet e = some fds) :
    line.Blind fds (worldAfter s t₁) ↔
      readLow hint ∈ t₁ ∧ line.queued (worldAfter s t₁) ∧ hint ∉ others := by
  rw [htrace] at ht hfirst
  obtain ⟨level, hlooked, rfl⟩ := ht.at_event fds hfds
  rw [List.nil_append] at hlooked
  have hlevel := hlooked.level_eq hfirst
  rw [hlooked.readLow_mem, HintLine.Blind]
  by_cases hlow : level = some false
  · rw [if_pos hlow, List.append_nil]
    have hline := hlooked.low line (hlevel.symm.trans hlow)
    constructor
    · exact fun ⟨hleft, _, hqueued⟩ => ⟨hlow, hqueued, hleft⟩
    · exact fun ⟨_, hqueued, hleft⟩ => ⟨hleft, hline, hqueued⟩
  · rw [if_neg hlow]
    constructor
    · exact fun ⟨hleft, _⟩ => absurd List.mem_concat_self hleft
    · exact fun ⟨hlow', _⟩ => absurd hlow' hlow

theorem IsPlainCall.not_pollSet {c : Call} (hc : IsPlainCall c)
    (r : host.Resp c) : pollSet (.call c r) = none := by
  cases c with
  | poll fds timeout => exact hc.elim
  | pollEvents fds timeout => exact hc.elim
  | _ => rfl

/-- No transaction waits for events. -/
theorem busParts_awake (T : List Byte → Prop) : BusParts
    (fun (α : Type) (m : Host σ α) => Emits (fun e => pollSet e = none) m) T :=
  emits_busParts (fun _ hc => hc.isPlainCall.not_pollSet) (fun _ _ _ => rfl)
    fun _ _ _ _ => rfl

/-! ## The bridge -/

section Bridge

variable (g : Globals)

theorem bridgeServe_awake (b : Bridge) (ivCli ivHint : Option ℕ)
    (revents : ℕ → Revents) :
    Emits (fun e => pollSet e = none)
      (bridgeServe g b ivCli ivHint revents : Host σ Bridge) := by
  have hparts : BridgeParts fun (α : Type) (m : Host σ α) =>
      Emits (fun e => pollSet e = none) m :=
    { toTxnParts := (busParts_awake _).txnParts
      note := fun _ _ => Emits.note rfl
      writeAll := fun _ _ => writeAll_emits fun _ => rfl }
  exact hparts.bridgeServe g
    (hparts.bridgeHandleFrame g Emits.halt fun _ _ => Emits.note rfl)
    (fun _ hc => Emits.call hc.1.not_pollSet) b ivCli ivHint revents

theorem bridgePass_sleeps {b : Bridge} (hcli : 0 ≤ b.cli)
    (hhint : 0 ≤ b.p.hint) :
    Holds (sleepsAfterLook b.p.hint [b.srv, b.cli]) []
      (bridgePass g b : Host σ Bridge) fun _ _ => True := by
  rw [bridgePass, bridgeWatch, if_pos ⟨hcli, hhint⟩, bind_assoc]
  apply Holds.bind
  apply Holds.call
  · intro level fds hfds
    cases hfds
  intro level
  rw [pure_bind, if_pos hcli, if_pos hcli]
  apply Holds.bind
  apply Holds.call
  · rintro r fds hfds
    cases hfds
    refine ⟨level, Or.inl rfl, ?_⟩
    by_cases hlow : level = some false
    · simp [hlow]
    · simp [hlow]
  intro got
  cases got with
  | interrupted => exact Holds.pure trivial
  | failed => exact Holds.halt trivial
  | ready revents => exact awake_holds (bridgeServe_awake g b _ _ revents)

theorem bridgePass_first {b : Bridge} (hcli : 0 ≤ b.cli)
    (hhint : 0 ≤ b.p.hint) (s : σ) :
    (bridgePass g b s).trace.head? = some (.call (.gpioGetValue b.p.hint)
      (Surroundings.answer (I := host) (.gpioGetValue b.p.hint) s).1) := by
  rw [bridgePass, bridgeWatch, if_pos ⟨hcli, hhint⟩, bind_assoc]
  rfl

/-- A callback that has pulled the line low by the time of the look. -/
theorem bridgePass_blind {b : Bridge} (hcli : 0 ≤ b.cli)
    (hhint : 0 ≤ b.p.hint) {s : σ}
    (hlow : (Surroundings.answer (I := host) (.gpioGetValue b.p.hint) s).1 =
      some false) :
    ∃ r t₂, (bridgePass g b s).trace = [readLow b.p.hint] ++
      .call (.poll [b.srv, b.cli] 1000) r :: t₂ := by
  have htimeout : ¬(0 ≤ b.cli ∧ b.p.hint < 0) :=
    fun h => absurd h.2 (not_lt.mpr hhint)
  rw [bridgePass, bridgeWatch, if_pos ⟨hcli, hhint⟩, bind_assoc, gpioGet,
    call_bind_apply]
  dsimp only
  rw [hlow, pure_bind, if_pos hcli, if_pos hcli, if_neg htimeout,
    call_bind_apply]
  exact ⟨_, _, rfl⟩

end Bridge

/-! ## The router daemon -/

section Run

variable (g : Globals) (c : RouterCfg) {p : Pins}

/-- Nor does anything else that the daemon does between its waits. -/
theorem routerParts_awake : RouterParts (fun (α : Type) (m : Host σ α) =>
    Emits (fun e => pollSet e = none) m) fun _ => True where
  toTxnParts := (busParts_awake _).txnParts
  routine _ _ := trivial
  call _ hc := Emits.call hc.1.not_pollSet
  writeReply _ _ := writeReply_emits fun _ => rfl

theorem runServe_awake (polls : ℕ) (st : Running) (watch : Bool)
    (revents : ℕ → Revents) :
    Emits (fun e => pollSet e = none)
      (runServe g c p polls st watch revents : Host σ Running) :=
  have hparts := routerParts_awake (σ := σ)
  hparts.runServe g p (hparts.runDrain g p Emits.halt polls) c st watch revents

/-- The listening socket, if there is one. -/
def listening (st : Running) : List Int :=
  if 0 ≤ st.listenFd then [st.listenFd] else []

/-- The wait after a look at the line, with or without one at the clock. -/
theorem runPoll_sleeps (st : Running) (level : Option Bool) :
    Holds (sleepsAfterLook p.hint (listening st))
      [.call (.gpioGetValue p.hint) level]
      (runPoll c p st (decide (level ≠ some false)) : Host σ (ℕ → Revents))
      fun _ _ => True := by
  have hwait {h : List HostEvent} (hlooked : Looked p.hint level h)
      (fds : List Int) (timeout : Int)
      (hfds : fds = listening st ++
        if level = some false then [] else [p.hint]) :
      Holds (sleepsAfterLook p.hint (listening st)) h
        (if fds ≠ [] then call (I := host) (.pollEvents fds timeout)
        else pure fun _ => ⟨false, false, false⟩ : Host σ (ℕ → Revents))
        fun _ _ => True := by
    split
    · apply Holds.call _ fun _ => trivial
      rintro r fds' hfds'
      cases hfds'
      exact ⟨level, hlooked, hfds⟩
    · exact Holds.pure trivial
  have hset : (listening st ++
      if decide (level ≠ some false) = true then [p.hint] else []) =
      listening st ++ if level = some false then [] else [p.hint] := by
    by_cases hlow : level = some false
    · simp [hlow]
    · simp [hlow]
  rw [runPoll]
  split
  · apply Holds.bind
    apply Holds.call
    · intro now fds hfds
      cases hfds
    intro now
    rw [pure_bind]
    exact hwait (Or.inr ⟨now, rfl⟩) _ _ hset
  · rw [pure_bind]
    exact hwait (Or.inl rfl) _ _ hset

theorem runPass_sleeps (hhint : 0 ≤ p.hint) (polls : ℕ) (st : Running) :
    Holds (sleepsAfterLook p.hint (listening st)) []
      (runPass g c p polls st : Host σ Running) fun _ _ => True := by
  rw [runPass, runWatch, if_pos hhint, bind_assoc]
  apply Holds.bind
  apply Holds.call
  · intro level fds hfds
    cases hfds
  intro level
  rw [pure_bind]
  apply (runPoll_sleeps c st level).seq
  exact fun revents _ _ => awake_holds (runServe_awake g c polls st _ revents)

theorem runPass_first (hhint : 0 ≤ p.hint) (polls : ℕ) (st : Running)
    (s : σ) :
    (runPass g c p polls st s).trace.head? = some (.call (.gpioGetValue p.hint)
      (Surroundings.answer (I := host) (.gpioGetValue p.hint) s).1) := by
  rw [runPass, runWatch, if_pos hhint, bind_assoc]
  rfl

/-- The same for a daemon that sends no reports. -/
theorem runPass_blind (hhint : 0 ≤ p.hint) (hquiet : c.reportSecs = 0)
    {st : Running} (hlisten : 0 ≤ st.listenFd) (polls : ℕ) {s : σ}
    (hlow : (Surroundings.answer (I := host) (.gpioGetValue p.hint) s).1 =
      some false) :
    ∃ r t₂, (runPass g c p polls st s).trace = [readLow p.hint] ++
      .call (.pollEvents [st.listenFd] 30000) r :: t₂ := by
  rw [runPass, runWatch, if_pos hhint, bind_assoc, gpioGet, call_bind_apply]
  dsimp only
  rw [hlow, pure_bind, runPoll, if_neg (not_not.mpr hquiet), pure_bind,
    if_pos hlisten]
  exact ⟨_, _, rfl⟩

end Run

/-! ## Every pass of every run -/

/-- What holds at every wait of these events, which start in the surroundings
`s`: of the events before it, of its descriptors and of the surroundings it is
entered in. -/
def AtWaits (s : σ) (t : List HostEvent)
    (P : List HostEvent → List Int → σ → Prop) : Prop :=
  ∀ t₁ e t₂ fds, t = t₁ ++ e :: t₂ → pollSet e = some fds →
    P t₁ fds (worldAfter s t₁)

/-- In every pass of a daemon the wait misses a callback exactly if the look
before it has read the line low with the callback queued (and no other
descriptor is that of the line). -/
theorem daemons_sleep_blind_iff (g : Globals) {p : Pins} (hhint : 0 ≤ p.hint)
    (line : HintLine σ p.hint) (s : σ) :
    (∀ (srv : Int) (passes : ℕ) (b : Bridge),
      (cmdBridge g passes (bridgeInit p srv) s).outcome = .done b →
      0 ≤ b.cli → b.ready = true → b.negotiated = true →
      let s' := (cmdBridge g passes (bridgeInit p srv) s).world
      AtWaits s' (bridgePass g b s').trace fun t₁ fds w =>
        (line.Blind fds w ↔ readLow p.hint ∈ t₁ ∧ line.queued w ∧
          p.hint ∉ [srv, b.cli])) ∧
    ∀ (c : RouterCfg) (polls passes : ℕ) (out : List Byte) (r : Router)
      (st : Running),
      (runReach g c p polls passes out r s).outcome = .done (some st) →
      let s' := (runReach g c p polls passes out r s).world
      AtWaits s' (runPass g c p polls st s').trace fun t₁ fds w =>
        (line.Blind fds w ↔ readLow p.hint ∈ t₁ ∧ line.queued w ∧
          p.hint ∉ listening st) := by
  constructor
  · intro srv passes b houtcome hcli _ _ s' t₁ e t₂ fds htrace hfds
    have hreachable : Reachable g p srv b :=
      ⟨σ, inferInstance, passes, s, Or.inl houtcome⟩
    obtain ⟨rfl, rfl⟩ := hreachable.fixed
    exact blind_iff line (bridgePass_sleeps g hcli hhint s').1
      (bridgePass_first g hcli hhint s') htrace hfds
  · intro c polls passes out r st _ s' t₁ e t₂ fds htrace hfds
    exact blind_iff line (runPass_sleeps g c hhint polls st s').1
      (runPass_first g c hhint polls st s') htrace hfds

/-- Surroundings that play back a script, with the levels at which nHOST_INT is
found, one look after the other.  A callback is queued while it is low. -/
structure Interrupting where
  script : Playback
  levels : List Bool
  asserted : Bool

instance : Kernel Interrupting where
  answer
    | .gpioGetValue _, s =>
        (some (s.levels.headD true),
          { s with
            levels := s.levels.tail
            asserted := !s.levels.headD true })
    | .controlListen, s => (some 5, s)
    | c, s =>
        let (r, script) := Surroundings.answer (I := host) c s.script
        (r, { s with script := script })

def Interrupting.line (hint : Int) : HintLine Interrupting hint where
  low s := s.asserted = true
  queued s := s.asserted = true
  sampled s hlow := by
    have hlevel : s.levels.headD true = false := Option.some.inj hlow
    show (!s.levels.headD true) = true
    rw [hlevel]
    rfl
  held _ hlow := hlow

/-- A client negotiates version 4 with the bridge; the line is released when the
pass has drained, and low at the look of the next one. -/
def betweenPasses : Interrupting where
  script :=
    { miso := [0xFE, 0x04, 0x00, 0x80, 0x00, 0x04, 0xA7]
      polls := [[⟨true, false, false⟩],
        [⟨false, false, false⟩, ⟨true, false, false⟩],
        [⟨false, false, false⟩, ⟨true, false, false⟩]]
      accepts := [9]
      reads := [.bytes (ashEncode [0xC0]),
        .bytes (ashEncode (0x00 :: ashMask [0x00, 0x00, 0x00, 0x04]))] }
  levels := [true, true, true, true, false]
  asserted := false

/-- The NCP negotiates version 4 with the router daemon; the line is released at
the look of the first pass, and low at that of the second. -/
def afterDrain : Interrupting where
  script :=
    { miso := [0xFE, 0x07, 0x00, 0x80, 0x00, 0x04, 0x02, 0x00, 0x54, 0xA7]
      polls := []
      accepts := []
      reads := [] }
  levels := [true, false]
  asserted := false

/-- The bridge sleeps with the callback queued. -/
theorem bridge_sleeps_between_passes :
    ∃ b r t₂,
      (cmdBridge ⟨⟨2, false⟩, true⟩ 3 (bridgeInit ⟨3, 4, 5, 7, 6⟩ 8)
        betweenPasses).outcome = .done b ∧
      (b.cli = 9 ∧ b.ready = true ∧ b.negotiated = true) ∧
      (bridgePass ⟨⟨2, false⟩, true⟩ b (cmdBridge ⟨⟨2, false⟩, true⟩ 3
        (bridgeInit ⟨3, 4, 5, 7, 6⟩ 8) betweenPasses).world).trace =
        [readLow 6] ++ .call (.poll [8, 9] 1000) r :: t₂ ∧
      (worldAfter (cmdBridge ⟨⟨2, false⟩, true⟩ 3
        (bridgeInit ⟨3, 4, 5, 7, 6⟩ 8) betweenPasses).world
          [readLow 6]).asserted = true := by
  have hdone : doneWith (fun b => decide (b.cli = 9) && b.ready && b.negotiated)
      (cmdBridge ⟨⟨2, false⟩, true⟩ 3 (bridgeInit ⟨3, 4, 5, 7, 6⟩ 8)
        betweenPasses).outcome = true := by
    decide +kernel
  obtain ⟨b, houtcome, hb⟩ := exists_of_doneWith hdone
  obtain ⟨⟨hcli, hready⟩, hnegotiated⟩ :
      (b.cli = 9 ∧ b.ready = true) ∧ b.negotiated = true := by
    simpa using hb
  have hreachable : Reachable ⟨⟨2, false⟩, true⟩ ⟨3, 4, 5, 7, 6⟩ 8 b :=
    ⟨Interrupting, inferInstance, 3, betweenPasses, Or.inl houtcome⟩
  obtain ⟨hp, hsrv⟩ := hreachable.fixed
  have hconnected : 0 ≤ b.cli := by
    rw [hcli]
    decide
  have hhint : b.p.hint = 6 := congrArg Pins.hint hp
  have hlow : (Surroundings.answer (I := host) (.gpioGetValue b.p.hint)
      (cmdBridge ⟨⟨2, false⟩, true⟩ 3 (bridgeInit ⟨3, 4, 5, 7, 6⟩ 8)
        betweenPasses).world).1 = some false := by
    rw [hhint]
    decide +kernel
  obtain ⟨r, t₂, htrace⟩ := bridgePass_blind ⟨⟨2, false⟩, true⟩ hconnected
    (by rw [hhint]; decide) hlow
  rw [hhint, hsrv, hcli] at htrace
  exact ⟨b, r, t₂, houtcome, ⟨hcli, hready, hnegotiated⟩, htrace,
    by decide +kernel⟩

/-- The default configuration, without reports. -/
def reportless : RouterCfg := { defaultCfg with reportSecs := 0 }

/-- The router daemon does so, for up to half a minute. -/
theorem run_sleeps_after_drain :
    ∃ st r t₂,
      (runReach ⟨⟨2, false⟩, true⟩ reportless ⟨3, 4, 5, 7, 6⟩ 1 1 [] routerInit
        afterDrain).outcome = .done (some st) ∧
      listening st = [5] ∧
      (runPass ⟨⟨2, false⟩, true⟩ reportless ⟨3, 4, 5, 7, 6⟩ 1 st
        (runReach ⟨⟨2, false⟩, true⟩ reportless ⟨3, 4, 5, 7, 6⟩ 1 1 []
          routerInit afterDrain).world).trace =
        [readLow 6] ++ .call (.pollEvents [5] 30000) r :: t₂ ∧
      (worldAfter (runReach ⟨⟨2, false⟩, true⟩ reportless ⟨3, 4, 5, 7, 6⟩ 1 1
        [] routerInit afterDrain).world [readLow 6]).asserted = true := by
  have hdone : doneWith (fun st => st.any fun st => decide (st.listenFd = 5))
      (runReach ⟨⟨2, false⟩, true⟩ reportless ⟨3, 4, 5, 7, 6⟩ 1 1 [] routerInit
        afterDrain).outcome = true := by
    decide +kernel
  obtain ⟨st?, houtcome, hst⟩ := exists_of_doneWith hdone
  obtain ⟨st, rfl, hfd⟩ := (Option.any_eq_true _ _).mp hst
  have hlisten : st.listenFd = 5 := of_decide_eq_true hfd
  have hsocket : 0 ≤ st.listenFd := by
    rw [hlisten]
    decide
  have hlow : (Surroundings.answer (I := host) (.gpioGetValue 6)
      (runReach ⟨⟨2, false⟩, true⟩ reportless ⟨3, 4, 5, 7, 6⟩ 1 1 [] routerInit
        afterDrain).world).1 = some false := by
    decide +kernel
  obtain ⟨r, t₂, htrace⟩ := runPass_blind ⟨⟨2, false⟩, true⟩ reportless
    (p := ⟨3, 4, 5, 7, 6⟩) (by decide) rfl hsocket 1 hlow
  have hlistening : listening st = [5] := by
    rw [listening, if_pos hsocket, hlisten]
  rw [hlisten] at htrace
  exact ⟨st, r, t₂, houtcome, hlistening, htrace, by decide +kernel⟩

/-- In both runs the line is low, and the callback queued. -/
theorem daemons_sleep_blind_once :
    (∃ b r t₂,
      (cmdBridge ⟨⟨2, false⟩, true⟩ 3 (bridgeInit ⟨3, 4, 5, 7, 6⟩ 8)
        betweenPasses).outcome = .done b ∧
      (b.cli = 9 ∧ b.ready = true ∧ b.negotiated = true) ∧
      let s' := (cmdBridge ⟨⟨2, false⟩, true⟩ 3 (bridgeInit ⟨3, 4, 5, 7, 6⟩ 8)
        betweenPasses).world
      (bridgePass ⟨⟨2, false⟩, true⟩ b s').trace =
        [readLow 6] ++ .call (.poll [8, 9] 1000) r :: t₂ ∧
      (Interrupting.line 6).Blind [8, 9] (worldAfter s' [readLow 6])) ∧
    ∃ st r t₂,
      (runReach ⟨⟨2, false⟩, true⟩ reportless ⟨3, 4, 5, 7, 6⟩ 1 1 [] routerInit
        afterDrain).outcome = .done (some st) ∧
      let s' := (runReach ⟨⟨2, false⟩, true⟩ reportless ⟨3, 4, 5, 7, 6⟩ 1 1 []
        routerInit afterDrain).world
      (runPass ⟨⟨2, false⟩, true⟩ reportless ⟨3, 4, 5, 7, 6⟩ 1 st s').trace =
        [readLow 6] ++ .call (.pollEvents [5] 30000) r :: t₂ ∧
      (Interrupting.line 6).Blind [5] (worldAfter s' [readLow 6]) := by
  have hhint : (0 : Int) ≤ (6 : Int) := by decide
  constructor
  · obtain ⟨b, r, t₂, houtcome, ⟨hcli, hready, hnegotiated⟩, htrace, hqueued⟩ :=
      bridge_sleeps_between_passes
    refine ⟨b, r, t₂, houtcome, ⟨hcli, hready, hnegotiated⟩, htrace, ?_⟩
    have hconnected : 0 ≤ b.cli := by
      rw [hcli]
      decide
    have hiff := (daemons_sleep_blind_iff ⟨⟨2, false⟩, true⟩
      (p := ⟨3, 4, 5, 7, 6⟩) hhint (Interrupting.line 6) betweenPasses).1 8 3 b
      houtcome hconnected hready hnegotiated _ _ _ [8, 9] htrace rfl
    exact hiff.mpr ⟨List.mem_cons_self, hqueued, by rw [hcli]; decide⟩
  · obtain ⟨st, r, t₂, houtcome, hlistening, htrace, hqueued⟩ :=
      run_sleeps_after_drain
    refine ⟨st, r, t₂, houtcome, htrace, ?_⟩
    have hiff := (daemons_sleep_blind_iff ⟨⟨2, false⟩, true⟩
      (p := ⟨3, 4, 5, 7, 6⟩) hhint (Interrupting.line 6) afterDrain).2
      reportless 1 1 [] routerInit st houtcome _ _ _ [5] htrace rfl
    exact hiff.mpr ⟨List.mem_cons_self, hqueued, by rw [hlistening]; decide⟩

/-- Neither loop is safe from that. -/
theorem daemons_sleep_on_callback :
    (¬∀ (g : Globals) (p : Pins) (srv : Int) (passes : ℕ) (s : Interrupting)
      (b : Bridge), 0 ≤ p.hint →
      (cmdBridge g passes (bridgeInit p srv) s).outcome = .done b →
      0 ≤ b.cli → b.ready = true → b.negotiated = true →
      let s' := (cmdBridge g passes (bridgeInit p srv) s).world
      AtWaits s' (bridgePass g b s').trace fun _ fds w =>
        ¬(Interrupting.line p.hint).Blind fds w) ∧
    ¬∀ (g : Globals) (c : RouterCfg) (p : Pins) (polls passes : ℕ)
      (out : List Byte) (r : Router) (s : Interrupting) (st : Running),
      0 ≤ p.hint →
      (runReach g c p polls passes out r s).outcome = .done (some st) →
      let s' := (runReach g c p polls passes out r s).world
      AtWaits s' (runPass g c p polls st s').trace fun _ fds w =>
        ¬(Interrupting.line p.hint).Blind fds w := by
  have hhint : (0 : Int) ≤ (6 : Int) := by decide
  constructor
  · intro hall
    obtain ⟨b, r, t₂, houtcome, ⟨hcli, hready, hnegotiated⟩, htrace, hqueued⟩ :=
      bridge_sleeps_between_passes
    have hconnected : 0 ≤ b.cli := by
      rw [hcli]
      decide
    apply hall ⟨⟨2, false⟩, true⟩ ⟨3, 4, 5, 7, 6⟩ 8 3 betweenPasses b hhint
      houtcome hconnected hready hnegotiated _ _ _ [8, 9] htrace rfl
    exact ⟨by decide, hqueued, hqueued⟩
  · intro hall
    obtain ⟨st, r, t₂, houtcome, _, htrace, hqueued⟩ := run_sleeps_after_drain
    apply hall ⟨⟨2, false⟩, true⟩ reportless ⟨3, 4, 5, 7, 6⟩ 1 1 [] routerInit
      afterDrain st hhint houtcome _ _ _ [5] htrace rfl
    exact ⟨by decide, hqueued, hqueued⟩

end EzspSpi
