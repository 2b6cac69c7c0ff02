import EzspSpi.Ash.Events
import EzspSpi.Ash.Loop
import EzspSpi.Host.Playback

/-!
# Poll events and the clients they are for

A pass of the main loop remembers the place of the client in the poll set, not
the client.  If a new one is accepted in the pass, the events reported for the
one before it are taken for its own.
-/

namespace EzspSpi

open Program

variable {σ : Type} [Kernel σ] (g : Globals)

/-! ## What is reported for a client -/

/-- An event of the client at this place in the poll set. -/
def Revents.Any (r : Revents) : Prop :=
  r.pollin = true ∨ r.pollerr = true ∨ r.pollhup = true

instance (r : Revents) : Decidable r.Any :=
  inferInstanceAs (Decidable (_ ∨ _ ∨ _))

/-- The client of a poll and its events there.  A client accepted later has
had nothing reported for it. -/
def report (last : Option (Int × Revents)) :
    HostEvent → Option (Int × Revents)
  | .call (.poll fds _) (.ready revents) => fds[1]?.map fun fd => (fd, revents 1)
  | .call (.poll _ _) _ => none
  | .call (.accept _) (some _) => none
  | .call (.close _) _ => none
  | _ => last

/-- The client connected after a trace that `poll` was last called for, with
the events it reported. -/
def reported (t : List HostEvent) : Option (Int × Revents) :=
  t.foldl report none

theorem reported_concat (t : List HostEvent) (e : HostEvent) :
    reported (t ++ [e]) = report (reported t) e := by
  rw [reported, List.foldl_append, reported]
  rfl

/-- A read from a client is due to data reported for it.  A client is dropped
for a hangup reported for it, at the end of its stream, or because another was
accepted in its place. -/
def Grounded (h : List HostEvent) : HostEvent → Prop
  | .call (.read fd) _ => ∃ r, reported h = some (fd, r) ∧ r.pollin = true
  | .call (.close fd) _ =>
      (∃ r, reported h = some (fd, r) ∧
        (r.pollerr = true ∨ r.pollhup = true)) ∨
      (∃ h' got, h = h' ++ [.call (.read fd) got] ∧
        (got = .bytes [] ∨ got = .failed)) ∨
      ∃ h' srv fd' r, h = h' ++ [.call (.accept srv) (some fd')] ∧
        reported h' = some (fd, r)
  | _ => True

/-- A client is accepted when nothing is reported for the one before it. -/
def Undisturbed (h : List HostEvent) : HostEvent → Prop
  | .call (.accept _) (some _) =>
      ∀ fd r, reported h = some (fd, r) → ¬r.Any
  | _ => True

private def grounded : Contract host := ⟨Grounded, fun _ => True⟩
private def undisturbed : Contract host := ⟨Undisturbed, fun _ => True⟩

/-- If every event so far is grounded, no accept was disturbed. -/
private def Weighed (h : List HostEvent) : Prop :=
  Along grounded [] h → Along undisturbed [] h

/-- Either way: events are grounded as long as no accept was disturbed, and
ungrounded ones show up after a disturbed one. -/
private def keepsApart : Contract host where
  event h e := Along undisturbed [] h → Grounded h e
  halt := Weighed

/-! ## Events that concern no client -/

/-- Events other than the start of a connection, its end and its reads. -/
private def LeavesClients : HostEvent → Prop
  | .call (.accept _) _ => False
  | .call (.read _) _ => False
  | .call (.close _) _ => False
  | _ => True

private theorem LeavesClients.grounded {e : HostEvent}
    (he : LeavesClients e) (h : List HostEvent) : Grounded h e := by
  cases e with
  | note n => trivial
  | call c r => cases c <;> first | exact he.elim | trivial

/-- An event other than a disturbed accept. -/
private theorem Weighed.append {h : List HostEvent} {e : HostEvent}
    (hh : Weighed h) (he : Undisturbed h e) : Weighed (h ++ [e]) := by
  intro hall
  exact along_concat.mpr ⟨hh (along_concat.mp hall).1, he⟩

private theorem LeavesClients.undisturbed {e : HostEvent}
    (he : LeavesClients e) (h : List HostEvent) : Undisturbed h e := by
  cases e with
  | note n => trivial
  | call c r => cases c <;> first | exact he.elim | trivial

omit [Kernel σ] in
/-- A program that leaves the clients alone. -/
private theorem leaves_weighed {α : Type} {m : Host σ α}
    (hm : Emits LeavesClients m) {h : List HostEvent} (hh : Weighed h) :
    Holds keepsApart h m fun _ h' => Weighed h' := by
  have hstep : ∀ h' e, LeavesClients e → Weighed h' →
      keepsApart.event h' e ∧ Weighed (h' ++ [e]) := by
    intro h' e he hh'
    exact ⟨fun _ => he.grounded h', hh'.append (he.undisturbed h')⟩
  exact hm.holds hstep (fun _ hh' => hh') hh

/-! ## Handling frames and collecting callbacks -/

private theorem IsHandling.leavesClients {e : HostEvent}
    (he : IsHandling e) : LeavesClients e := by
  cases e with
  | note n => trivial
  | call c r => cases c <;> first | exact he.elim | trivial

private theorem bridgeDrainCallbacks_leaves (b : Bridge) :
    Emits LeavesClients (bridgeDrainCallbacks g b : Host σ Bridge) :=
  (bridgeDrainCallbacks_emits g b).mono fun _ he => he.leavesClients

private theorem bridgeFeed_leaves (b : Bridge) (buf : List Byte) :
    Emits LeavesClients (bridgeFeed g b buf : Host σ Bridge) := by
  apply (bridgeFeed_emits g b buf).mono
  rintro e (he | ⟨b', f, rfl⟩)
  · exact he.leavesClients
  · trivial

/-! ## One pass -/

omit [Kernel σ] in
/-- A disturbed accept and an ungrounded event are never made up for. -/
private theorem lost_weighed {α : Type} (m : Host σ α) {h : List HostEvent}
    (hdisturbed : ¬Along undisturbed [] h) (hground : ¬Along grounded [] h) :
    Holds keepsApart h m fun _ h' => Weighed h' := by
  have hstep : ∀ h' (e : HostEvent),
      ¬Along undisturbed [] h' ∧ ¬Along grounded [] h' →
      keepsApart.event h' e ∧ ¬Along undisturbed [] (h' ++ [e]) ∧
        ¬Along grounded [] (h' ++ [e]) := by
    rintro h' e ⟨hdisturbed', hground'⟩
    refine ⟨fun hall => absurd hall hdisturbed', ?_, ?_⟩
    · exact fun hall => hdisturbed' (along_concat.mp hall).1
    · exact fun hall => hground' (along_concat.mp hall).1
  apply (Holds.persist hstep _ m ⟨hdisturbed, hground⟩).mono
  · exact fun _ h' hlost hall => absurd hall hlost.2
  · exact fun h' hlost hall => absurd hall hlost.2

private theorem bridgeDropClient_weighed {b : Bridge} {h : List HostEvent}
    (hh : Weighed h) (hdrop : Grounded h (.call (.close b.cli) ())) :
    Holds keepsApart h (bridgeDropClient b : Host σ Bridge)
      fun _ h' => Weighed h' := by
  rw [bridgeDropClient]
  split
  · exact Holds.pure hh
  · apply Holds.bind
    apply Holds.call fun _ _ => hdrop
    exact fun _ => Holds.pure (hh.append trivial)

private theorem bridgeRead_weighed {b : Bridge} {h : List HostEvent}
    (hh : Weighed h)
    (hread : ∃ r, reported h = some (b.cli, r) ∧ r.pollin = true) :
    Holds keepsApart h (bridgeRead g b : Host σ Bridge)
      fun _ h' => Weighed h' := by
  rw [bridgeRead]
  apply Holds.bind
  apply Holds.call fun _ _ => hread
  intro got
  have hgot : Weighed (h ++ [.call (.read b.cli) got]) := hh.append trivial
  have hend (hgot' : got = .bytes [] ∨ got = .failed) :
      Grounded (h ++ [.call (.read b.cli) got]) (.call (.close b.cli) ()) :=
    Or.inr (Or.inl ⟨h, got, rfl, hgot'⟩)
  cases got with
  | bytes buf =>
      cases buf with
      | nil => exact bridgeDropClient_weighed hgot (hend (Or.inl rfl))
      | cons c buf => exact leaves_weighed (bridgeFeed_leaves g b _) hgot
  | interrupted => exact Holds.pure hgot
  | failed => exact bridgeDropClient_weighed hgot (hend (Or.inr rfl))

private theorem readEdge_weighed {b : Bridge} {c : Prop} [Decidable c]
    {h : List HostEvent} (hh : Weighed h) :
    Holds keepsApart h
      (onlyIf c (call (I := host) (.gpioReadEdge b.p.hint)) : Host σ Unit)
      fun _ h' => Weighed h' ∧ reported h' = reported h := by
  rw [onlyIf]
  split
  · apply Holds.call fun _ _ => trivial
    intro r
    exact ⟨hh.append trivial, reported_concat _ _⟩
  · exact Holds.pure ⟨hh, rfl⟩

/-- The events at the client's place were reported for the client, or there
are none. -/
private theorem bridgeServeClient_weighed {b : Bridge} {h : List HostEvent}
    {ivCli : Option ℕ} (ivHint : Option ℕ) {revents : ℕ → Revents}
    (hh : Weighed h)
    (hreported : ∀ iv, ivCli = some iv → (revents iv).Any →
      reported h = some (b.cli, revents iv)) :
    Holds keepsApart h
      (bridgeServeClient g b ivCli ivHint revents : Host σ Bridge)
      fun _ h' => Weighed h' := by
  rw [bridgeServeClient]
  apply (readEdge_weighed hh).seq
  rintro _ h' ⟨hh', hsame⟩
  by_cases hhangup : ivCli.any
      (fun iv => (revents iv).pollerr || (revents iv).pollhup) = true
  · rw [if_pos hhangup]
    obtain ⟨iv, hiv, hevent⟩ := (Option.any_eq_true _ _).mp hhangup
    have hevent' := (Bool.or_eq_true _ _).mp hevent
    apply bridgeDropClient_weighed hh'
    exact Or.inl
      ⟨revents iv, hsame.trans (hreported iv hiv (Or.inr hevent')), hevent'⟩
  · rw [if_neg hhangup]
    have hdrain (b₁ : Bridge) (h₁ : List HostEvent) (hh₁ : Weighed h₁) :
        Holds keepsApart h₁ (bridgeDrainCallbacks g b₁ : Host σ Bridge)
          fun _ h₂ => Weighed h₂ :=
      leaves_weighed (bridgeDrainCallbacks_leaves g b₁) hh₁
    by_cases hdata : ivCli.any (fun iv => (revents iv).pollin) = true
    · rw [if_pos hdata]
      obtain ⟨iv, hiv, hevent⟩ := (Option.any_eq_true _ _).mp hdata
      have hread : ∃ r, reported h' = some (b.cli, r) ∧ r.pollin = true :=
        ⟨revents iv, hsame.trans (hreported iv hiv (Or.inl hevent)), hevent⟩
      exact (bridgeRead_weighed g hh' hread).seq hdrain
    · rw [if_neg hdata, pure_bind]
      exact hdrain b h' hh'

/-- Nothing is reported for the client, and nothing has just been read or
accepted. -/
private structure Bare (h : List HostEvent) : Prop where
  unreported : reported h = none
  unread : ∀ h' fd got, h ≠ h' ++ [.call (.read fd) got]
  unaccepted : ∀ h' srv fd, h ≠ h' ++ [.call (.accept srv) (some fd)]

private theorem bare_concat {h : List HostEvent} {e : HostEvent}
    (hreport : report (reported h) e = none)
    (hread : ∀ fd got, e ≠ .call (.read fd) got)
    (haccept : ∀ srv fd, e ≠ .call (.accept srv) (some fd)) :
    Bare (h ++ [e]) := by
  constructor
  · rw [reported_concat, hreport]
  · intro h' fd got heq
    exact hread fd got (List.singleton_inj.mp (List.append_inj' heq rfl).2)
  · intro h' srv fd heq
    exact haccept srv fd (List.singleton_inj.mp (List.append_inj' heq rfl).2)

private theorem bare_close (h : List HostEvent) (fd : Int) (r : Unit) :
    Bare (h ++ [.call (.close fd) r]) := by
  apply bare_concat rfl
  · intro fd' got heq
    cases heq
  · intro srv fd' heq
    cases heq

private theorem Bare.edge {h : List HostEvent} (hh : Bare h) (fd : Int)
    (r : Unit) : Bare (h ++ [.call (.gpioReadEdge fd) r]) := by
  have hreport : report (reported h) (.call (.gpioReadEdge fd) r) = none :=
    hh.unreported
  apply bare_concat hreport
  · intro fd' got heq
    cases heq
  · intro srv fd' heq
    cases heq

private theorem Bare.not_read {h : List HostEvent} (hh : Bare h) (fd : Int)
    (got : ReadResult) : ¬Grounded h (.call (.read fd) got) := by
  rintro ⟨r, hreported, _⟩
  rw [hh.unreported] at hreported
  cases hreported

private theorem Bare.not_close {h : List HostEvent} (hh : Bare h) (fd : Int)
    (r : Unit) : ¬Grounded h (.call (.close fd) r) := by
  rintro (⟨r, hreported, _⟩ | ⟨h', got, heq, _⟩ | ⟨h', srv, fd', r, heq, _⟩)
  · rw [hh.unreported] at hreported
    cases hreported
  · exact hh.unread h' fd got heq
  · exact hh.unaccepted h' srv fd' heq

omit [Kernel σ] in
/-- After a disturbed accept, whatever is read or dropped without a reason
settles the matter. -/
private theorem ungrounded_weighed {α : Type} (m : Host σ α)
    {h : List HostEvent} {e : HostEvent}
    (hdisturbed : ¬Along undisturbed [] h) (he : ¬Grounded h e) :
    Holds keepsApart (h ++ [e]) m fun _ h' => Weighed h' := by
  apply lost_weighed
  · exact fun hall => hdisturbed (along_concat.mp hall).1
  · exact fun hall => he (along_concat.mp hall).2

/-- An event that was not reported for the client there is now makes it read
from or dropped all the same. -/
private theorem bridgeServeClient_disturbed {b : Bridge} {h : List HostEvent}
    {iv : ℕ} (ivHint : Option ℕ) {revents : ℕ → Revents}
    (hdisturbed : ¬Along undisturbed [] h) (hbare : Bare h)
    (hcli : 0 ≤ b.cli) (hevent : (revents iv).Any) :
    Holds keepsApart h
      (bridgeServeClient g b (some iv) ivHint revents : Host σ Bridge)
      fun _ h' => Weighed h' := by
  have hedge : Holds keepsApart h
      (onlyIf (ivHint.any (fun iv => (revents iv).pollin) = true)
        (call (I := host) (.gpioReadEdge b.p.hint)) : Host σ Unit)
      fun _ h' => ¬Along undisturbed [] h' ∧ Bare h' := by
    rw [onlyIf]
    split
    · apply Holds.call fun _ _ => trivial
      intro r
      constructor
      · exact fun hall => hdisturbed (along_concat.mp hall).1
      · exact hbare.edge b.p.hint r
    · exact Holds.pure ⟨hdisturbed, hbare⟩
  rw [bridgeServeClient]
  apply hedge.seq
  rintro _ h' ⟨hdisturbed', hbare'⟩
  have hvacuous (e : HostEvent) : keepsApart.event h' e :=
    fun hall => absurd hall hdisturbed'
  by_cases hhangup : (some iv).any
      (fun iv => (revents iv).pollerr || (revents iv).pollhup) = true
  · rw [if_pos hhangup, bridgeDropClient, if_neg (not_lt.mpr hcli)]
    apply Holds.bind
    apply Holds.call fun _ => hvacuous _
    intro r
    exact ungrounded_weighed _ hdisturbed' (hbare'.not_close b.cli r)
  · rw [if_neg hhangup]
    have hdata : (some iv).any (fun iv => (revents iv).pollin) = true := by
      rcases hevent with hdata | hhangup'
      · exact hdata
      · exact absurd ((Bool.or_eq_true _ _).mpr hhangup') hhangup
    rw [if_pos hdata, bridgeRead, bind_assoc]
    apply Holds.bind
    apply Holds.call fun _ => hvacuous _
    intro got
    exact ungrounded_weighed _ hdisturbed' (hbare'.not_read b.cli got)

/-- A pass after `poll`, with the client's events in their place. -/
private theorem bridgeServe_weighed {b : Bridge} {h : List HostEvent}
    (ivHint : Option ℕ) {revents : ℕ → Revents} (hh : Weighed h)
    (hreported : reported h =
      if 0 ≤ b.cli then some (b.cli, revents 1) else none) :
    Holds keepsApart h
      (bridgeServe g b (if 0 ≤ b.cli then some 1 else none) ivHint revents :
        Host σ Bridge)
      fun _ h' => Weighed h' := by
  have hplace (h' : List HostEvent) (hsame : reported h' = reported h) :
      ∀ iv, (if 0 ≤ b.cli then some 1 else none) = some iv →
        (revents iv).Any → reported h' = some (b.cli, revents iv) := by
    intro iv hiv _
    rw [hsame, hreported]
    split at hiv
    · cases hiv
      rw [if_pos ‹_›]
    · cases hiv
  rw [bridgeServe]
  by_cases hconnect : (revents 0).pollin = true
  · rw [if_pos hconnect, bridgeAccept, bind_assoc]
    apply Holds.bind
    apply Holds.call fun _ _ => trivial
    intro fd
    cases fd with
    | none =>
        have hsame := reported_concat h (.call (.accept b.srv) none)
        exact bridgeServeClient_weighed g ivHint (hh.append trivial)
          (hplace _ hsame)
    | some fd =>
        dsimp only
        by_cases hcli : 0 ≤ b.cli
        · rw [if_pos hcli] at hreported ⊢
          rw [if_pos hcli, bridgeDropClient, if_neg (not_lt.mpr hcli)]
          simp only [bind_assoc, pure_bind]
          have hreplaced : Grounded
              (h ++ [.call (.accept b.srv) (some fd)])
              (.call (.close b.cli) ()) :=
            Or.inr (Or.inr ⟨h, b.srv, fd, revents 1, rfl, hreported⟩)
          apply Holds.bind
          apply Holds.call fun _ _ => hreplaced
          intro r
          by_cases hevent : (revents 1).Any
          · apply bridgeServeClient_disturbed g ivHint _ (bare_close _ b.cli r)
              (Int.natCast_nonneg fd) hevent
            intro hall
            have haccept := (along_concat.mp (along_concat.mp hall).1).2
            exact haccept _ _ hreported hevent
          · have haccept : Undisturbed h (.call (.accept b.srv) (some fd)) := by
              intro fd' r' hreported'
              rw [hreported] at hreported'
              cases hreported'
              exact hevent
            have hclosed : Weighed (h ++ [.call (.accept b.srv) (some fd)] ++
                [.call (.close b.cli) r]) :=
              (hh.append haccept).append trivial
            apply bridgeServeClient_weighed g ivHint hclosed
            intro iv hiv hevent'
            cases hiv
            exact absurd hevent' hevent
        · rw [if_neg hcli] at hreported ⊢
          rw [if_neg hcli, pure_bind, pure_bind]
          have haccept : Undisturbed h (.call (.accept b.srv) (some fd)) := by
            intro fd' r' hreported'
            rw [hreported] at hreported'
            cases hreported'
          apply bridgeServeClient_weighed g ivHint (hh.append haccept)
          intro iv hiv
          cases hiv
  · rw [if_neg hconnect, pure_bind]
    exact bridgeServeClient_weighed g ivHint hh (hplace h rfl)

/-- nHOST_INT is only watched for a client. -/
private theorem bridgeWatch_weighed {b : Bridge} {h : List HostEvent}
    (hh : Weighed h) :
    Holds keepsApart h (bridgeWatch b : Host σ Bool)
      fun watch h' => Weighed h' ∧ (watch = true → 0 ≤ b.cli) := by
  rw [bridgeWatch, gpioGet]
  split
  · rename_i hwatched
    apply Holds.bind
    apply Holds.call fun _ _ => trivial
    intro level
    exact Holds.pure ⟨hh.append trivial, fun _ => hwatched.1⟩
  · exact Holds.pure ⟨hh, fun hwatch => absurd hwatch Bool.false_ne_true⟩

private theorem bridgePass_weighed {b : Bridge} {h : List HostEvent}
    (hh : Weighed h) :
    Holds keepsApart h (bridgePass g b : Host σ Bridge)
      fun _ h' => Weighed h' := by
  rw [bridgePass]
  apply (bridgeWatch_weighed hh).seq
  rintro watch h' ⟨hh', hwatch⟩
  apply Holds.bind
  apply Holds.call fun _ _ => trivial
  intro got
  have hpolled (fds : List Int) (timeout : ℕ) :
      Weighed (h' ++ [.call (.poll fds timeout) got]) :=
    hh'.append trivial
  cases got with
  | interrupted => exact Holds.pure (hpolled _ _)
  | failed => exact Holds.halt (hpolled _ _)
  | ready revents =>
      apply bridgeServe_weighed g _ (hpolled _ _)
      rw [reported_concat, report]
      by_cases hcli : 0 ≤ b.cli
      · rw [if_pos hcli, if_pos hcli]
        rfl
      · rw [if_neg hcli, if_neg hcli, if_neg fun hw => hcli (hwatch hw)]
        rfl

private theorem cmdBridge_weighed (passes : ℕ) {b : Bridge}
    {h : List HostEvent} (hh : Weighed h) :
    Holds keepsApart h (cmdBridge g passes b : Host σ Bridge)
      fun _ h' => Weighed h' := by
  induction passes generalizing b h with
  | zero => exact Holds.pure hh
  | succ passes ih =>
      rw [cmdBridge]
      apply (bridgePass_weighed g hh).seq
      intro b' h' hh'
      exact ih hh'

/-! ## When clients are kept apart -/

/-- In every run: each read from a client is due to data that `poll` reported
for that client, and each client is dropped for a hangup reported for it, at
the end of its stream or for the next client, if and only if a client is
accepted only when nothing has just been reported for the one before it. -/
theorem cmdBridge_keeps_apart_iff (p : Pins) (srv : Int) (passes : ℕ) (s : σ) :
    (∀ t₁ e t₂, (cmdBridge g passes (bridgeInit p srv) s).trace =
        t₁ ++ e :: t₂ → Grounded t₁ e) ↔
      ∀ t₁ e t₂, (cmdBridge g passes (bridgeInit p srv) s).trace =
        t₁ ++ e :: t₂ → Undisturbed t₁ e := by
  have hnothing : Weighed [] := fun _ => trivial
  obtain ⟨halong, hdone, hhalt⟩ :=
    cmdBridge_weighed g passes hnothing (b := bridgeInit p srv) s
  have hweighed : Weighed (cmdBridge g passes (bridgeInit p srv) s).trace := by
    cases houtcome : (cmdBridge g passes (bridgeInit p srv) s).outcome with
    | done b => exact hdone b houtcome
    | halt why => exact hhalt why houtcome
  have hgrounded :=
    along_iff (C := grounded) (h := [])
      (t := (cmdBridge g passes (bridgeInit p srv) s).trace)
  have hundisturbed :=
    along_iff (C := undisturbed) (h := [])
      (t := (cmdBridge g passes (bridgeInit p srv) s).trace)
  constructor
  · intro hall
    exact hundisturbed.mp (hweighed (hgrounded.mpr hall))
  · intro hall t₁ e t₂ htrace
    have hprefix := hundisturbed.mpr hall
    rw [htrace] at hprefix halong
    exact halong.at_event (along_append.mp hprefix).1

/-- A client connects, and a second one at the moment the first hangs up. -/
def replacedClient : Playback where
  miso := []
  polls := [[⟨true, false, false⟩],
    [⟨true, false, false⟩, ⟨false, false, true⟩]]
  accepts := [9, 10]
  reads := []

/-- The new client is dropped for the hangup of the old one. -/
theorem cmdBridge_drops_replacement :
    ¬∀ t₁ e t₂, (cmdBridge ⟨⟨2, true⟩, true⟩ 2 (bridgeInit ⟨3, 4, 5, 7, 6⟩ 8)
        replacedClient).trace = t₁ ++ e :: t₂ → Grounded t₁ e := by
  intro hall
  obtain ⟨t, htrace⟩ : ∃ t, (cmdBridge ⟨⟨2, true⟩, true⟩ 2
      (bridgeInit ⟨3, 4, 5, 7, 6⟩ 8) replacedClient).trace =
      t ++ [.call (.close 9) ()] ++ [.call (.close 10) ()] :=
    ⟨[_, _, _, _, _], rfl⟩
  exact (bare_close t 9 ()).not_close 10 () (hall _ _ [] htrace)

end EzspSpi
