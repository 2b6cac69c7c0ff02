import EzspSpi.Router.Callbacks

/-!
# Draining the callbacks

The drain of `cmd_run` polls until an answer brings no callback.  Nothing else
bounds it, so it ends exactly if the NCP gives such an answer at some time.
-/

namespace EzspSpi

open Program

variable {σ : Type} [Kernel σ] (g : Globals) (p : Pins)

def IsPoll (ver : ℕ) (x : Exchange) : Prop :=
  ∃ seq, x.command = ezspTx ver seq ezspCallback []

/-- The answer has no complete header, or the frame id of no callback. -/
def NoCallback (ver : ℕ) (x : Exchange) : Prop :=
  ∀ frame, x.frame? = some frame → (ezspLayout ver).1 ≤ frame.length →
    frame.getD (ezspLayout ver).2 0 ∈ [0x00, ezspNoCallbacks]

/-- Nothing disturbs the bus. -/
def BusWorks (t : List HostEvent) : Prop := ∀ e ∈ t, ¬Disturbs e

/-- What is exchanged last is a poll that brings no callback. -/
def Drained (ver : ℕ) (t : List HostEvent) : Prop :=
  ∃ x, (exchanges t).getLast? = some x ∧ IsPoll ver x ∧ NoCallback ver x

/-! ## One round -/

theorem polled_none_iff (ver max : ℕ) (x : Exchange) :
    (polled (x.frame?.bind (unwrapReply ver max))).1 = 0 ↔
      NoCallback ver x := by
  rw [NoCallback]
  cases x.frame? with
  | none => exact iff_of_true rfl nofun
  | some frame =>
      simp only [Option.bind_some, Option.some.injEq, forall_eq', unwrapReply]
      split
      · rename_i hshort
        exact iff_of_true rfl fun hlong => absurd hshort (not_lt.mpr hlong)
      · rename_i hlong
        simp only [polled, ite_eq_left_iff, List.mem_cons, List.not_mem_nil,
          or_false, not_lt.mp hlong, forall_const]
        tauto

/-- A unicast is no poll. -/
theorem Commanded.not_poll {ver : ℕ} {seq : Byte} {params : List Byte}
    (hparams : IsReadResponse params) {x : Exchange} {t : List HostEvent}
    (ht : Commanded (ezspTx ver seq ezspSendUnicast params) x t) :
    ¬IsPoll ver x := by
  rintro ⟨seq', hpoll⟩
  rw [ht.2.1, ezspTx_eq, ezspTx_eq] at hpoll
  have hlength := congrArg List.length hpoll
  simp only [ezspCommand, List.length_append, List.length_cons,
    length_ezspBody, List.length_nil] at hlength
  have hpos : params ≠ [] := by
    rintro rfl
    exact absurd hparams (by decide)
  have hpos := List.length_pos_iff.mpr hpos
  omega

theorem SendsAtMost.receivedFirst {r r' : Router} {t : List HostEvent}
    (ht : SendsAtMost r r' t) : receivedFirst t = [] := by
  rcases ht with ⟨hquiet, _⟩ | ⟨_, _, _, _, hcommanded⟩
  · exact (exchanges_of_quiet hquiet).2
  · exact hcommanded.1

/-- What comes last decides, if anything was exchanged in it. -/
theorem drained_append {ver : ℕ} {t t' : List HostEvent}
    (ht' : receivedFirst t' = []) :
    Drained ver (t ++ t') ↔
      Drained ver (if exchanges t' = [] then t else t') := by
  rw [Drained, (exchanges_append ht').1, List.getLast?_append]
  split
  · rename_i hnone
    rw [hnone]
    rfl
  · rename_i hsome
    rw [List.getLast?_eq_some_getLast hsome, Option.some_or, Drained,
      List.getLast?_eq_some_getLast hsome]

/-- One round of the drain, with the id that decides whether it goes on. -/
def drainRound (r : Router) (out : List Byte) :
    Host σ (Router × Byte × List Byte) := do
  let (r, id, payload) ← ezspPollCallback g p r 64
  let out := overwrite out 0 payload
  let r ← runCallback g p r id out
  pure (r, id, out)

theorem runDrain_succ (polls : ℕ) (r : Router) (out : List Byte) :
    (runDrain g p (polls + 1) r out : Host σ _) =
      drainRound g p r out >>= fun (r, id, out) =>
        if id = 0 then pure (r, out) else runDrain g p polls r out := by
  simp only [runDrain, drainRound, bind_assoc, pure_bind]

theorem drainRound_ends (r : Router) (out : List Byte) :
    EndsUnless Disturbs (drainRound g p r out : Host σ _) := by
  have hmodular := EndsUnless.modular (σ := σ) Disturbs
  apply hmodular.bind ((commandParts_ends g p).ezspPollCallback r 64)
  rintro ⟨r', id, payload⟩
  apply hmodular.bind (runCallback_ends g p r' id _)
  exact fun _ => hmodular.pure _

/-- A round is the last one exactly if its poll brings no callback. -/
theorem drainRound_holds (r : Router) (out : List Byte) (h : List HostEvent) :
    Holds anyRun h (drainRound g p r out : Host σ _) fun final h' =>
      ∃ t, h' = h ++ t ∧ final.1.ezspVersion = r.ezspVersion ∧
        receivedFirst t = [] ∧ (final.2.1 = 0 ↔ Drained r.ezspVersion t) := by
  rw [drainRound]
  apply (ezspPollCallback_holds g p (fun _ => trivial) anyRun_bus r 64
    fun _ _ _ => trivial).seq
  rintro _ _ ⟨t, x, rfl, hpolled, rfl⟩
  generalize hreply : polled _ = reply
  obtain ⟨id, payload⟩ := reply
  dsimp only
  have hid : id = 0 ↔ NoCallback r.ezspVersion x := by
    rw [← polled_none_iff r.ezspVersion 64 x, hreply]
  have hlast : (exchanges t).getLast? = some x :=
    (hpolled.exchanges_append []).1
  have hpoll : IsPoll r.ezspVersion x := ⟨_, hpolled.2.1⟩
  by_cases hnone : id = 0
  · have hincoming : id ≠ ezspIncomingMessageHandler :=
      fun h => absurd (hnone.symm.trans h) (by decide)
    have hsent : id ≠ ezspMessageSentHandler :=
      fun h => absurd (hnone.symm.trans h) (by decide)
    rw [runCallback_other g p hincoming hsent, pure_bind]
    apply Holds.pure
    exact ⟨t, rfl, rfl, hpolled.1,
      iff_of_true hnone ⟨x, hlast, hpoll, hid.mp hnone⟩⟩
  · apply (runCallback_holds g p _ id _ _).seq
    rintro r' _ ⟨t', rfl, hhandled, hsends⟩
    apply Holds.pure
    refine ⟨t ++ t', List.append_assoc h t t', hhandled.ezspVersion, ?_,
      iff_of_false hnone ?_⟩
    · rw [(exchanges_append hsends.receivedFirst).2, hpolled.1]
    · rw [drained_append hsends.receivedFirst]
      rcases hsends with ⟨hquiet, _⟩ | ⟨params, y, hparams, _, hsent⟩
      · rw [if_pos (exchanges_of_quiet hquiet).1]
        rintro ⟨x', hlast', _, hnothing⟩
        rw [hlast, Option.some.injEq] at hlast'
        exact hnone (hid.mpr (hlast' ▸ hnothing))
      · have hsome : (exchanges t').getLast? = some y :=
          (hsent.exchanges_append []).1
        have hexchanged : exchanges t' ≠ [] := by
          intro hempty
          rw [hempty] at hsome
          cases hsome
        rw [if_neg hexchanged]
        rintro ⟨y', hlast', hpoll', _⟩
        rw [hsome, Option.some.injEq] at hlast'
        exact hsent.not_poll hparams (hlast' ▸ hpoll')

/-! ## The whole drain -/

theorem BusWorks.append {t t' : List HostEvent} :
    BusWorks (t ++ t') ↔ BusWorks t ∧ BusWorks t' := by
  simp only [BusWorks, List.forall_mem_append]

/-- With so many rounds at most, the drain ends exactly if undisturbed and
drained. -/
theorem runDrain_ends (polls : ℕ) (r : Router) (out : List Byte) (s : σ) :
    (BusWorks (runDrain g p polls r out s).trace →
      receivedFirst (runDrain g p polls r out s).trace = []) ∧
    ((∃ final, (runDrain g p polls r out s).outcome = .done final) ↔
      BusWorks (runDrain g p polls r out s).trace ∧
        Drained r.ezspVersion (runDrain g p polls r out s).trace) := by
  induction polls generalizing r out s with
  | zero =>
      refine ⟨fun _ => rfl, iff_of_false nofun ?_⟩
      rintro ⟨_, x, hlast, _⟩
      cases hlast
  | succ polls ih =>
      have hround := drainRound_ends g p r out s
      have hholds := (drainRound_holds g p r out [] s).2.1
      rw [runDrain_succ, bind_apply]
      generalize drainRound g p r out s = run at hround hholds
      obtain ⟨outcome, t, s'⟩ := run
      cases outcome with
      | halt why =>
          have hdisturbed : ¬BusWorks t := fun h => by
            obtain ⟨a, ha⟩ := hround.mpr h
            cases ha
          exact ⟨fun h => absurd h hdisturbed,
            iff_of_false nofun fun h => hdisturbed h.1⟩
      | done final =>
          obtain ⟨r', id, out'⟩ := final
          have hworks : BusWorks t := hround.mp ⟨_, rfl⟩
          obtain ⟨t₀, ht, hver, hfirst, hdrained⟩ := hholds _ rfl
          obtain rfl : t = t₀ := ht
          dsimp only at hver hdrained
          rw [Run.andThen_of_done rfl]
          dsimp only
          by_cases hid : id = 0
          · rw [if_pos hid, pure_apply, List.append_nil]
            exact ⟨fun _ => hfirst, iff_of_true ⟨_, rfl⟩
              ⟨hworks, hdrained.mp hid⟩⟩
          · rw [if_neg hid]
            obtain ⟨hfirst', hends⟩ := ih r' out' s'
            rw [hver] at hends
            generalize runDrain g p polls r' out' s' = rest at hfirst' hends
            refine ⟨fun h => ?_, ?_⟩
            · rw [(exchanges_append (hfirst' (BusWorks.append.mp h).2)).2,
                hfirst]
            · rw [hends, BusWorks.append, and_assoc,
                and_iff_right hworks]
              apply and_congr_right
              intro hquiet
              rw [drained_append (hfirst' hquiet)]
              split
              · rename_i hnothing
                refine iff_of_false ?_ fun h => hid (hdrained.mpr h)
                rintro ⟨x, hlast, _⟩
                rw [hnothing] at hlast
                cases hlast
              · rfl

/-- The drain of `cmd_run` ends exactly if the NCP brings an end to it: for
every state the drain can be entered in and every behaviour of the
surroundings, it is over after some number of polls if and only if one of its
polls is answered by no callback, with nothing having disturbed the bus before.
The bridge stops after its window is full in the same place. -/
theorem runDrain_ends_iff (r : Router) (out : List Byte) (s : σ) :
    (∃ polls final, (runDrain g p polls r out s).outcome = .done final) ↔
      ∃ polls, BusWorks (runDrain g p polls r out s).trace ∧
        Drained r.ezspVersion (runDrain g p polls r out s).trace :=
  exists_congr fun polls => (runDrain_ends g p polls r out s).2

/-! ## An NCP that was reset -/

/-- After a reset of its own the NCP answers every command but `version` with
`invalidCommand`. -/
def resetNcp : Responder where
  respond _ _ := [0x00, 0x80, 0x58, 0x31]
  commands := 0
  pending := []

private theorem runDrain_stuck (polls : ℕ) {r : Router}
    (hver : r.ezspVersion = 4) (out : List Byte) {s : Responder}
    (hs : s.respond = resetNcp.respond) :
    (runDrain ⟨⟨512, false⟩, true⟩ ⟨3, 4, 5, 7, 6⟩ polls r out s).outcome =
        .halt .stuck ∧
      (runDrain ⟨⟨512, false⟩, true⟩ ⟨3, 4, 5, 7, 6⟩ polls r out
        s).world.commands = s.commands + polls := by
  induction polls generalizing r out s with
  | zero => exact ⟨rfl, rfl⟩
  | succ polls ih =>
      have hframe (n : ℕ) (tx : List Byte) :
          s.respond n tx = [0x00, 0x80, 0x58, 0x31] := by
        rw [hs]
        rfl
      have hlength : (s.respond s.commands
          (ezspTx r.ezspVersion r.seq ezspCallback [])).length ≤ 255 := by
        rw [hframe]
        decide
      obtain ⟨t, hpolled⟩ := responder_polled (g := ⟨⟨512, false⟩, true⟩)
        (p := ⟨3, 4, 5, 7, 6⟩) (by decide) r 64 s hlength
      have hreply : polled (unwrapReply 4 64 [0x00, 0x80, 0x58, 0x31]) =
          (0x58, [0x31]) := by decide
      have hgoes : ¬(0x58 : Byte) = 0 := by decide
      rw [hframe, hver, hreply] at hpolled
      obtain ⟨houtcome, hcommands⟩ :=
        ih (r := { r with ezspVersion := 4, seq := r.seq + 1 }) rfl
          (overwrite out 0 [0x31])
          (s := { s with commands := s.commands + 1, pending := [] }) hs
      rw [runDrain, bind_apply, hpolled, Run.andThen_of_done rfl]
      dsimp only
      rw [runCallback_other _ _ (by decide) (by decide), pure_bind,
        if_neg hgoes, houtcome, hcommands]
      exact ⟨rfl, by dsimp only; omega⟩

/-- It is polled without end and without bound. -/
theorem runDrain_reset :
    (¬∃ polls final, (runDrain ⟨⟨512, false⟩, true⟩ ⟨3, 4, 5, 7, 6⟩ polls
        routerInit (List.replicate 64 0) resetNcp).outcome = .done final) ∧
      ¬∃ bound, ∀ polls, (runDrain ⟨⟨512, false⟩, true⟩ ⟨3, 4, 5, 7, 6⟩ polls
        routerInit (List.replicate 64 0) resetNcp).world.commands ≤ bound := by
  have hstuck (polls : ℕ) := runDrain_stuck polls (r := routerInit) rfl
    (List.replicate 64 0) (s := resetNcp) rfl
  constructor
  · rintro ⟨polls, final, hdone⟩
    rw [(hstuck polls).1] at hdone
    cases hdone
  · rintro ⟨bound, hbound⟩
    have hmore := hbound (bound + 1)
    rw [(hstuck (bound + 1)).2] at hmore
    have hnone : resetNcp.commands = 0 := rfl
    omega

end EzspSpi
