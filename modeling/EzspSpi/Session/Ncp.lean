import EzspSpi.Ash.Version
import EzspSpi.Session.Upkeep
import Mathlib.Data.List.DropRight

/-!
# Whether the NCP is negotiated

The NCP as its answers show it: it comes out of a reset without an EZSP
version and has one once it has answered a version command.  The bridge clears
its own flag on an RST only, so the two agree until a negotiated session meets
a reset notification.
-/

namespace EzspSpi

open Program

variable {σ : Type} [Kernel σ] (g : Globals)

/-! ## The NCP -/

/-- An RST frame, on which the bridge resets the NCP. -/
def isRst : HostEvent → Bool
  | .note (.handleFrame _ f) => decide (frameKind f = .rst)
  | _ => false

/-- What came after the last RST. -/
def sinceReset (t : List HostEvent) : List HostEvent :=
  t.rtakeWhile fun e => !isRst e

/-- The version command in the layout of version 4, the only one the NCP
knows before a version is negotiated. -/
def IsVersionCommand (tx : List Byte) : Prop :=
  tx[0]? = some spiCmdEzspFrame ∧ tx[4]? = some ezspVersion

instance (tx : List Byte) : Decidable (IsVersionCommand tx) :=
  inferInstanceAs (Decidable (_ ∧ _))

/-- Whether the NCP is negotiated after an exchange: not once it has reported
a reset, and from the first version command on that it answers. -/
def Exchange.negotiates (negotiated : Bool) (x : Exchange) : Bool :=
  if x.IsResetNotice then false
  else negotiated || decide (IsVersionCommand x.command ∧ x.frame? ≠ none)

def ncpNegotiated (t : List HostEvent) : Bool :=
  (exchanges (sinceReset t)).foldl Exchange.negotiates false

/-- No command of a negotiated session is answered by a reset notification.
The session is negotiated from the version exchange up to the next RST or the
next client. -/
def Unbroken : Session → List HostEvent → Prop
  | _, [] => True
  | S, e :: t =>
      (∀ tx ∈ commandOf e, S.negotiated = true →
        ¬Exchange.IsResetNotice ⟨tx, receivedFirst t⟩) ∧
      Unbroken (S.step e) t

instance decidableUnbroken :
    (S : Session) → (t : List HostEvent) → Decidable (Unbroken S t)
  | _, [] => inferInstanceAs (Decidable True)
  | S, e :: t =>
      have := decidableUnbroken (S.step e) t
      inferInstanceAs (Decidable (_ ∧ _))

/-! ## Longer histories -/

theorem sinceReset_append {h t : List HostEvent}
    (ht : ∀ e ∈ t, isRst e = false) :
    sinceReset (h ++ t) = sinceReset h ++ t := by
  induction t using List.reverseRecOn with
  | nil => rw [List.append_nil, List.append_nil]
  | append_singleton t e ih =>
      have hlast : (!isRst e) = true := by
        rw [ht e List.mem_concat_self]
        rfl
      have hrest := ih fun e' he' => ht e' (List.mem_append_left [e] he')
      rw [← List.append_assoc, ← List.append_assoc, ← hrest]
      exact List.rtakeWhile_concat_pos (fun e => !isRst e) (h ++ t) e hlast

theorem ncpNegotiated_append {h t : List HostEvent}
    (hfirst : receivedFirst t = []) (ht : ∀ e ∈ t, isRst e = false) :
    ncpNegotiated (h ++ t) =
      (exchanges t).foldl Exchange.negotiates (ncpNegotiated h) := by
  rw [ncpNegotiated, sinceReset_append ht, (exchanges_append hfirst).1,
    List.foldl_append]
  rfl

theorem unbroken_append {S : Session} {t t' : List HostEvent}
    (hfirst : receivedFirst t' = []) :
    Unbroken S (t ++ t') ↔
      Unbroken S t ∧ Unbroken (t.foldl Session.step S) t' := by
  induction t generalizing S with
  | nil => simp [Unbroken]
  | cons e t ih =>
      rw [List.cons_append, Unbroken, Unbroken, ih,
        (exchanges_append hfirst).2, and_assoc]
      rfl

/-- Events that leave the negotiation as it is: no RST, no new client and no
version. -/
structure IsNeutral (e : HostEvent) : Prop where
  rst : isRst e = false
  negotiated : ∀ S : Session, (S.step e).negotiated = S.negotiated

theorem negotiated_append {h t : List HostEvent} (ht : ∀ e ∈ t, IsNeutral e) :
    (session (h ++ t)).negotiated = (session h).negotiated := by
  induction t using List.reverseRecOn with
  | nil => rw [List.append_nil]
  | append_singleton t e ih =>
      have hrest := ih fun e' he' => ht e' (List.mem_append_left [e] he')
      rw [← List.append_assoc, session_concat,
        (ht e List.mem_concat_self).negotiated, hrest]

theorem IsPlain.isNeutral {e : HostEvent} (he : IsPlain e) : IsNeutral e := by
  refine ⟨?_, fun S => ?_⟩
  · cases e with
    | call c r => rfl
    | note n => cases n <;> first | rfl | exact he.elim
  · cases e with
    | note n => cases n <;> first | rfl | exact he.elim
    | call c r =>
        cases c with
        | accept srv =>
            cases r with
            | none => rfl
            | some fd => exact he.elim
        | write fd buf =>
            rw [Session.step]
            split <;> rfl
        | _ => rfl

theorem IsPlain.isQuiet {e : HostEvent} (he : IsPlain e) : IsQuiet e := by
  cases e with
  | note n => exact isQuiet_note n
  | call c r => cases c <;> first | exact he.elim | exact ⟨rfl, rfl⟩

theorem IsBus.isNeutral {e : HostEvent} (he : IsBus e) : IsNeutral e := by
  cases e with
  | note n => exact he.elim
  | call c r =>
      cases c <;> first | exact he.elim | exact ⟨rfl, fun _ => rfl⟩

private theorem acknowledge_negotiated (S : Session) (n : Byte) :
    (S.acknowledge n).negotiated = S.negotiated := by
  rw [Session.acknowledge]
  split <;> rfl

private theorem deliver_negotiated (S : Session) (f : List Byte) :
    (S.deliver f).negotiated = S.negotiated := by
  rw [Session.deliver]
  split <;> rfl

/-- A frame other than an RST. -/
theorem isNeutral_handleFrame {b : Bridge} {f : List Byte}
    (hf : frameKind f ≠ .rst) : IsNeutral (.note (.handleFrame b f)) := by
  refine ⟨decide_eq_false hf, fun S => ?_⟩
  rw [Session.step, Session.receive]
  cases hkind : frameKind f with
  | rst => exact absurd hkind hf
  | ack => exact acknowledge_negotiated S _
  | nak => exact acknowledge_negotiated S _
  | error => rfl
  | data =>
      exact (deliver_negotiated _ f).trans (acknowledge_negotiated S _)

/-- While a session stays negotiated and unbroken, no command is answered
by a reset notification. -/
theorem Unbroken.not_notice {S : Session} {t : List HostEvent}
    (hunbroken : Unbroken S t) (hS : S.negotiated = true)
    (ht : ∀ e ∈ t, IsNeutral e) :
    ∀ x ∈ exchanges t, ¬x.IsResetNotice := by
  induction t generalizing S with
  | nil => exact fun x hx => absurd hx List.not_mem_nil
  | cons e t ih =>
      have hrest : ∀ x ∈ exchanges t, ¬x.IsResetNotice := by
        apply ih hunbroken.2
        · rw [(ht e List.mem_cons_self).negotiated, hS]
        · exact fun e' he' => ht e' (List.mem_cons_of_mem e he')
      rw [exchanges]
      cases hcommand : commandOf e with
      | none => exact hrest
      | some tx =>
          intro x hx
          rcases List.mem_cons.mp hx with rfl | hx
          · exact hunbroken.1 tx hcommand hS
          · exact hrest x hx

/-! ## Commands -/

/-- A negotiated NCP stays so as long as it reports no reset. -/
private theorem negotiates_of_negotiated {xs : List Exchange}
    (hxs : ∀ x ∈ xs, ¬x.IsResetNotice) :
    xs.foldl Exchange.negotiates true = true := by
  induction xs with
  | nil => rfl
  | cons x xs ih =>
      have hfirst : Exchange.negotiates true x = true := by
        rw [Exchange.negotiates, if_neg (hxs x List.mem_cons_self),
          Bool.true_or]
      rw [List.foldl_cons, hfirst]
      exact ih fun y hy => hxs y (List.mem_cons_of_mem x hy)

/-- It is negotiated after a version command that it has answered. -/
private theorem Relayed.negotiates {tx : List Byte} {x : Exchange}
    {t : List HostEvent} (ht : Relayed tx x t) (htx : IsVersionCommand tx)
    (hx : x.frame? ≠ none) (negotiated : Bool) :
    (exchanges t).foldl Exchange.negotiates negotiated = true := by
  obtain ⟨_, hcommand, hexchanges⟩ := ht.commanded
  have hlast (negotiated' : Bool) : x.negotiates negotiated' = true := by
    have hnotice : ¬x.IsResetNotice := fun h => hx (frame?_of_notice h)
    rw [Exchange.negotiates, if_neg hnotice, hcommand]
    simp [htx, hx]
  rcases hexchanges with hone | ⟨notice, htwo, _⟩
  · rw [hone]
    exact hlast _
  · rw [htwo]
    exact hlast _

private theorem isVersionCommand_ezspCommand {ezsp : List Byte}
    (hid : ezsp[2]? = some ezspVersion) :
    IsVersionCommand (ezspCommand ezsp) := by
  refine ⟨rfl, ?_⟩
  obtain ⟨hlen, _⟩ := List.getElem?_eq_some_iff.mp hid
  have hinside : (ezspCommand ezsp)[4]? = (ezsp ++ [spiFrameTerminator])[2]? :=
    rfl
  rw [hinside, List.getElem?_append_left hlen, hid]

/-! ## The bridge's flag -/

/-- The bridge's flag is set in negotiated sessions only, and while they are
unbroken the NCP is negotiated then.  Without a version in use the bridge
speaks version 4. -/
structure InStep (b : Bridge) (h : List HostEvent) : Prop where
  legacy : b.negotiated = false → b.ver = 4
  session : b.negotiated = true → (session h).negotiated = true
  ncp : b.negotiated = true → Unbroken Session.start h →
    ncpNegotiated h = true

private def negotiatedPolls : Contract host where
  event h e := ∀ b, e = .note (.relayCallback b) →
    Unbroken Session.start h → ncpNegotiated h = true
  halt _ := True

/-- What leaves the bridge's flag as it is, or clears it, and has neither an
RST nor a command in it. -/
private theorem InStep.append {b b' : Bridge} {h t : List HostEvent}
    (hb : InStep b h) (hneutral : ∀ e ∈ t, IsNeutral e)
    (hquiet : ∀ e ∈ t, IsQuiet e) (hflag : b'.negotiated = b.negotiated)
    (hver : b'.ver = b.ver) : InStep b' (h ++ t) where
  legacy hclear := hver.trans (hb.legacy (hflag.symm.trans hclear))
  session hset := by
    rw [negotiated_append hneutral]
    exact hb.session (hflag.symm.trans hset)
  ncp hset hunbroken := by
    obtain ⟨hexchanges, hfirst⟩ := exchanges_of_quiet hquiet
    rw [ncpNegotiated_append hfirst fun e he => (hneutral e he).rst,
      hexchanges]
    exact hb.ncp (hflag.symm.trans hset)
      ((unbroken_append hfirst).mp hunbroken).1

/-- The same for a single note. -/
private theorem InStep.note {b b' : Bridge} {h : List HostEvent} {n : Note}
    (hb : InStep b h) (hn : IsNeutral (.note n))
    (hflag : b'.negotiated = b.negotiated) (hver : b'.ver = b.ver) :
    InStep b' (h ++ [.note n]) := by
  apply hb.append _ _ hflag hver
  · exact fun e he => List.mem_singleton.mp he ▸ hn
  · exact fun e he => List.mem_singleton.mp he ▸ isQuiet_note n

private theorem InStep.relayed {b : Bridge} {h t : List HostEvent}
    {tx : List Byte} {x : Exchange} (hb : InStep b h) (ht : Relayed tx x t) :
    InStep b (h ++ t) where
  legacy := hb.legacy
  session hset := by
    rw [negotiated_append fun e he => (ht.bus e he).isNeutral]
    exact hb.session hset
  ncp hset hunbroken := by
    have hneutral : ∀ e ∈ t, IsNeutral e := fun e he => (ht.bus e he).isNeutral
    have hfirst := ht.commanded.1
    obtain ⟨hbefore, hduring⟩ := (unbroken_append hfirst).mp hunbroken
    rw [ncpNegotiated_append hfirst fun e he => (hneutral e he).rst,
      hb.ncp hset hbefore]
    exact negotiates_of_negotiated
      (hduring.not_notice (hb.session hset) hneutral)

/-- A version is adopted from a version command that was answered, unless one
was in use before. -/
private theorem InStep.adopted {b : Bridge} {h t : List HostEvent}
    {ezsp frame : List Byte} {x : Exchange} {v : Byte} (hb : InStep b h)
    (ht : Relayed (ezspCommand ezsp) x t) (hframe : x.frame? = some frame)
    (hversion : sniffVersion b.ver ezsp (frame.take ashMaxFrame) = some v) :
    InStep { b with ver := v.toNat, negotiated := true }
      (h ++ t ++ [.note (.negotiated v)]) where
  legacy hclear := absurd hclear.symm Bool.false_ne_true
  session _ := by
    rw [session_concat]
    rfl
  ncp _ hunbroken := by
    have hnote : ∀ e ∈ [(.note (.negotiated v) : HostEvent)],
        isRst e = false := fun e he => List.mem_singleton.mp he ▸ rfl
    have hbefore := ((unbroken_append rfl).mp hunbroken).1
    rw [ncpNegotiated_append rfl hnote]
    change ncpNegotiated (h ++ t) = true
    cases hset : b.negotiated with
    | true => exact (hb.relayed ht).ncp hset hbefore
    | false =>
        rw [hb.legacy hset, sniffVersion_eq_some_iff] at hversion
        have hrst : ∀ e ∈ t, isRst e = false :=
          fun e he => (ht.bus e he).isNeutral.rst
        rw [ncpNegotiated_append ht.commanded.1 hrst]
        apply ht.negotiates (isVersionCommand_ezspCommand hversion.1)
        rw [hframe]
        exact Option.some_ne_none frame

/-- With the flag cleared nothing is promised. -/
private theorem inStep_of_clear {b : Bridge} {h : List HostEvent}
    (hclear : b.negotiated = false) (hver : b.ver = 4) : InStep b h where
  legacy _ := hver
  session hset := absurd (hclear.symm.trans hset) Bool.false_ne_true
  ncp hset := absurd (hclear.symm.trans hset) Bool.false_ne_true

private theorem inStep_upkeep : Upkeep negotiatedPolls InStep where
  halt _ := trivial
  call _ _ _ := by
    intro b heq
    cases heq
  relay _ _ := by
    intro b heq
    cases heq
  plain hb he := hb.append
    (fun _ hmem => List.mem_singleton.mp hmem ▸ he.isNeutral)
    (fun _ hmem => List.mem_singleton.mp hmem ▸ he.isQuiet) rfl rfl
  command hb ht := hb.relayed ht
  store hb _ := by
    constructor
    · intro b heq
      cases heq
    · exact hb.note ⟨rfl, fun _ => rfl⟩ rfl rfl
  ack _ hb := ⟨hb.legacy, hb.session, hb.ncp⟩
  adopt hb ht hframe hversion := by
    constructor
    · intro b heq
      cases heq
    · exact hb.adopted ht hframe hversion
  poll hb hcollect := by
    constructor
    · exact fun _ _ => hb.ncp hcollect.negotiated
    · exact hb.note ⟨rfl, fun _ => rfl⟩ rfl rfl
  handle _ _ := by
    intro b heq
    cases heq
  handled hb hf := hb.note (isNeutral_handleFrame hf) rfl rfl
  reset _ _ _ := inStep_of_clear rfl rfl
  receive _ hb _ := ⟨hb.legacy, hb.session, hb.ncp⟩
  drop hb := ⟨hb.legacy, hb.session, hb.ncp⟩
  accept _ _ _ := inStep_of_clear rfl rfl

/-! ## Polls -/

/-- In every run, as long as no command of a negotiated session is answered by
a reset notification, callbacks are polled from a negotiated NCP only. -/
theorem cmdBridge_polls_negotiated (p : Pins) (srv : Int) (passes : ℕ) (s : σ)
    (n : ℕ) (b : Bridge)
    (hpoll : (cmdBridge g passes (bridgeInit p srv) s).trace[n]? =
      some (.note (.relayCallback b)))
    (hunbroken : Unbroken Session.start
      ((cmdBridge g passes (bridgeInit p srv) s).trace.take n)) :
    ncpNegotiated
      ((cmdBridge g passes (bridgeInit p srv) s).trace.take n) = true := by
  have hstart : InStep (bridgeInit p srv) [] := inStep_of_clear rfl rfl
  have halong := (inStep_upkeep.cmdBridge g passes hstart s).1
  rw [split_at hpoll] at halong
  exact halong.at_event b rfl hunbroken

/-- The client connects, sends an RST and negotiates version 4.  The NCP has a
callback queued, and answers the first poll with a reset notification and its
repetition with `invalidCommand`. -/
def resetReported : Playback where
  miso := [0xFE, 0x04, 0x00, 0x80, 0x00, 0x04, 0xA7,
    0x00, 0x02, 0xA7,
    0xFE, 0x04, 0x01, 0x80, 0x58, 0x30, 0xA7]
  polls := [[⟨true, false, false⟩],
    [⟨false, false, false⟩, ⟨true, false, false⟩],
    [⟨false, false, false⟩, ⟨true, false, false⟩]]
  accepts := [9]
  reads := [.bytes (ashEncode [0xC0]),
    .bytes (ashEncode (0x00 :: ashMask [0x00, 0x00, 0x00, 0x04]))]

private def isPoll : HostEvent → Bool
  | .note (.relayCallback _) => true
  | _ => false

private theorem poll_of_isPoll {t : List HostEvent} {n : ℕ}
    (ht : t[n]?.any isPoll = true) :
    ∃ b, t[n]? = some (.note (.relayCallback b)) := by
  obtain ⟨e, he, hpoll⟩ := (Option.any_eq_true _ _).mp ht
  cases e with
  | call c r => exact absurd hpoll Bool.false_ne_true
  | note note =>
      cases note with
      | relayCallback b => exact ⟨b, he⟩
      | _ => exact absurd hpoll Bool.false_ne_true

/-- The first poll comes after the version exchange. -/
theorem cmdBridge_polls_negotiated_once :
    ∃ b, (cmdBridge ⟨⟨2, false⟩, true⟩ 3 (bridgeInit ⟨3, 4, 5, 7, 6⟩ 8)
        resetReported).trace[30]? = some (.note (.relayCallback b)) ∧
      ncpNegotiated ((cmdBridge ⟨⟨2, false⟩, true⟩ 3
        (bridgeInit ⟨3, 4, 5, 7, 6⟩ 8) resetReported).trace.take 30) =
          true := by
  have hany : ((cmdBridge ⟨⟨2, false⟩, true⟩ 3 (bridgeInit ⟨3, 4, 5, 7, 6⟩ 8)
      resetReported).trace[30]?).any isPoll = true := by
    decide +kernel
  obtain ⟨b, hb⟩ := poll_of_isPoll hany
  exact ⟨b, hb, cmdBridge_polls_negotiated ⟨⟨2, false⟩, true⟩
    ⟨3, 4, 5, 7, 6⟩ 8 3 resetReported 30 b hb (by decide +kernel)⟩

/-- That poll is answered by a reset notification, and the bridge polls on. -/
theorem cmdBridge_polls_after_reset :
    ¬∀ (g : Globals) (p : Pins) (srv : Int) (passes : ℕ) (s : Playback)
      (n : ℕ) (b : Bridge),
      (cmdBridge g passes (bridgeInit p srv) s).trace[n]? =
        some (.note (.relayCallback b)) →
      ncpNegotiated ((cmdBridge g passes (bridgeInit p srv) s).trace.take n) =
        true := by
  intro hall
  have hany : ((cmdBridge ⟨⟨2, false⟩, true⟩ 3 (bridgeInit ⟨3, 4, 5, 7, 6⟩ 8)
      resetReported).trace[49]?).any isPoll = true := by
    decide +kernel
  obtain ⟨b, hb⟩ := poll_of_isPoll hany
  have hnegotiated := hall ⟨⟨2, false⟩, true⟩ ⟨3, 4, 5, 7, 6⟩ 8 3
    resetReported 49 b hb
  have hclear : ncpNegotiated ((cmdBridge ⟨⟨2, false⟩, true⟩ 3
      (bridgeInit ⟨3, 4, 5, 7, 6⟩ 8) resetReported).trace.take 49) =
        false := by
    decide +kernel
  exact Bool.false_ne_true (hclear.symm.trans hnegotiated)

end EzspSpi
