import EzspSpi.Router.Conduct

/-!
# How the commands conduct themselves

The application, the daemon and the commands, each with the frame ids it may
send once a version is agreed on.
-/

namespace EzspSpi

open Program

variable {σ : Type} [Kernel σ] {α β : Type}

namespace Conduct

variable {C : Contract host} {Inv : Router → List HostEvent → Prop}
  {S : Byte → List Byte → Prop} {g : Globals} {p : Pins}
  (hI : Conduct σ g p C Inv S)

include hI

/-! ## The application -/

theorem zclSend (hid : Free S ezspSendUnicast) (r : Router)
    (dest cluster : BitVec 16) (payload : List Byte) :
    Abides C Inv r Prod.fst
      (EzspSpi.zclSend g p r dest cluster payload : Host σ _) := by
  rw [EzspSpi.zclSend]
  split
  · exact Abides.pure rfl
  · rename_i hfits
    have hparams : (unicastParams r dest cluster payload).length ≤ 135 := by
      simp only [unicastParams, List.length_append, List.length_cons,
        List.length_nil]
      omega
    have htag : r.Like { r with tag := r.tag + 1 } := ⟨rfl, rfl⟩
    exact hI.instead htag ((hI.ezspCmd (hid _) _ hparams 8).bind fun _ =>
      Abides.pure rfl)

theorem attrRecord (r : Router) (id : BitVec 16) :
    Abides C Inv r Prod.fst (EzspSpi.attrRecord r id : Host σ _) := by
  have hlocation : Abides C Inv r Prod.fst (zclLocation r : Host σ _) := by
    apply Abides.ite
    · exact Abides.pure rfl
    · exact (hI.call .hostname (fun _ => trivial) r).bind fun _ =>
        hI.pure ⟨rfl, rfl⟩
  apply Abides.ite
  · exact Abides.pure rfl
  apply Abides.ite
  · exact Abides.pure rfl
  apply Abides.ite
  · exact Abides.pure rfl
  apply Abides.ite
  · exact Abides.pure rfl
  apply Abides.ite
  · exact Abides.pure rfl
  apply Abides.ite
  · exact Abides.pure rfl
  apply Abides.ite
  · exact Abides.pure rfl
  apply Abides.ite
  · exact hlocation.bind fun _ => Abides.pure rfl
  · exact Abides.ite (Abides.pure rfl) (Abides.pure rfl)

theorem appendAttrs (r : Router) (resp : List Byte)
    (ids : List (BitVec 16)) :
    Abides C Inv r Prod.fst (EzspSpi.appendAttrs r resp ids : Host σ _) := by
  have hround (b : Router × List Byte) (id : BitVec 16) :
      Abides C Inv b.1 Prod.fst
        (EzspSpi.zclAppendAttr b.1 b.2 96 id : Host σ _) :=
    (hI.attrRecord b.1 id).bind fun _ => Abides.pure rfl
  exact Abides.foldlM hround ids (r, resp)

theorem zclHandleFrame (hid : Free S ezspSendUnicast) (r : Router)
    (sender cluster : BitVec 16) (zcl : List Byte) :
    Abides C Inv r id (EzspSpi.zclHandleFrame g p r sender cluster zcl :
      Host σ Router) := by
  apply Abides.ite
  · exact Abides.pure rfl
  apply Abides.ite
  · exact Abides.pure rfl
  apply Abides.ite
  · exact Abides.pure rfl
  apply (hI.appendAttrs r _ _).bind
  rintro ⟨r', resp⟩
  exact (hI.zclSend hid r' _ _ _).bind fun _ => Abides.pure rfl

theorem runCallback (hsend : Free S ezspSendUnicast) (r : Router)
    (frameId : Byte) (out : List Byte) :
    Abides C Inv r id (EzspSpi.runCallback g p r frameId out :
      Host σ Router) := by
  apply Abides.ite
  · apply Abides.ite
    · exact Abides.pure rfl
    · exact Abides.ite (Abides.pure rfl)
        (hI.zclHandleFrame hsend r _ _ _)
  · exact Abides.ite (hI.pure ⟨rfl, rfl⟩) (Abides.pure rfl)

theorem zclReport (hid : Free S ezspSendUnicast) (r : Router) :
    Abides C Inv r id (EzspSpi.zclReport g p r : Host σ Router) := by
  apply (hI.call .time (fun _ => trivial) r).bind
  intro now
  have hlast : r.Like { r with reportLast := now } := ⟨rfl, rfl⟩
  apply hI.instead hlast
  apply (hI.zclSend hid _ _ _ _).bind
  rintro ⟨r', sent⟩
  exact Abides.ite (hI.pure ⟨rfl, rfl⟩) (hI.pure ⟨rfl, rfl⟩)

/-! ## Tables and leaving -/

theorem dumpTable {frameId : Byte} (hid : Free S frameId) (entries index : ℕ)
    (r : Router) :
    Abides C Inv r id (EzspSpi.dumpTable g p frameId entries index r :
      Host σ Router) := by
  induction entries generalizing index r with
  | zero => exact Abides.pure rfl
  | succ entries ih =>
      have hparams : [BitVec.ofNat 8 index].length ≤ 135 := by
        rw [List.length_singleton]
        decide
      exact (hI.ezspCmd (hid _) r hparams 64).bind fun _ => ih _ _

variable {h : List HostEvent} {r : Router}

theorem dumpRows {frameId : Byte} (hid : Free S frameId)
    (row : Byte → List Byte → Option Line) (ids : List Byte)
    (hInv : Inv r h) :
    Holds C h (EzspSpi.dumpRows g p frameId row ids r : Host σ _)
      fun _ _ => True := by
  induction ids generalizing r h with
  | nil => exact Holds.pure trivial
  | cons id ids ih =>
      have hparams : [id].length ≤ 135 := by
        rw [List.length_singleton]
        decide
      apply (hI.ezspCmd (hid _) r hparams 8 h hInv).seq
      rintro ⟨r', reply⟩ h' hInv'
      exact (ih hInv').seq fun _ _ _ => Holds.pure trivial

theorem scanRounds (hid : Free S ezspCallback) (polls found : ℕ)
    (out : List Byte) (hInv : Inv r h) :
    Holds C h (EzspSpi.scanRounds g p polls found r out : Host σ _)
      fun _ _ => True := by
  induction polls generalizing found r h out with
  | zero => exact Holds.pure trivial
  | succ polls ih =>
      apply (hI.ezspPollCallback hid r 64 h hInv).seq
      rintro ⟨r', id, payload⟩ h' hInv'
      dsimp only
      split
      · exact (ih _ _ hInv').seq fun _ _ _ => Holds.pure trivial
      split
      · exact Holds.pure trivial
      · exact ih _ _ hInv'

theorem leavePolls (hid : Free S ezspCallback) (polls : ℕ) (out : List Byte)
    (hInv : Inv r h) :
    Holds C h (EzspSpi.leavePolls g p polls r out : Host σ ℕ)
      fun _ _ => True := by
  induction polls generalizing r h out with
  | zero => exact Holds.pure trivial
  | succ polls ih =>
      apply (hI.ezspPollCallback hid r 64 h hInv).seq
      rintro ⟨r', id, payload⟩ h' hInv'
      dsimp only
      split
      · exact Holds.pure trivial
      · exact ih _ hInv'

/-! ## The daemon -/

omit h r

/-- The frame ids of the loop of `cmd_run`. -/
def loopIds : List Byte := requestIds ++ [ezspCallback, ezspSendUnicast]

theorem runDrain (hS : ∀ id ∈ loopIds, Free S id) (polls : ℕ) (r : Router)
    (out : List Byte) :
    Abides C Inv r Prod.fst (EzspSpi.runDrain g p polls r out :
      Host σ _) := by
  induction polls generalizing r out with
  | zero => exact fun h _ => Holds.halt (hI.halt h)
  | succ polls ih =>
      apply (hI.ezspPollCallback (hS _ (by decide)) r 64).bind
      rintro ⟨r', id, payload⟩
      apply (hI.runCallback (hS _ (by decide)) r' id _).bind
      exact fun r'' => Abides.ite (Abides.pure rfl) (ih r'' _)

/-- The report of a pass, by what `zcl_report` does. -/
theorem runReport_of (c : RouterCfg) (st : Running)
    (hreport : c.reportSecs ≠ 0 → Abides C Inv st.router id
      (EzspSpi.zclReport g p st.router : Host σ Router))
    {h : List HostEvent} (hInv : Inv st.router h) :
    Holds C h (EzspSpi.runReport g c p st : Host σ Running) fun st' h' =>
      Inv st'.router h' ∧ st'.out = st.out := by
  have hinterval : Emits IsStill (EzspSpi.reportInterval c : Host σ _) :=
    Emits.ite Emits.pure
      ((Emits.call fun _ => trivial).bind fun _ => Emits.pure)
  rw [EzspSpi.runReport]
  split
  · exact Holds.pure ⟨hInv, rfl⟩
  rename_i hreports
  apply (hI.call .time (fun _ => trivial) st.router h hInv).seq
  intro now h hInv
  split
  · exact Holds.pure ⟨hInv, rfl⟩
  apply (hreport hreports h hInv).seq
  intro r h hInv
  apply (hI.call .time (fun _ => trivial) r h hInv).seq
  intro now h hInv
  apply (hI.emits hinterval r h hInv).seq
  exact fun _ _ hInv => Holds.pure ⟨hInv, rfl⟩

/-- A pass, by what its drain and its report do. -/
theorem runPass_of (hS : ∀ id ∈ requestIds, Free S id) (c : RouterCfg)
    (polls : ℕ) (st : Running) {Q : Running → List HostEvent → Prop}
    (hrest : ∀ {r : Router} {h : List HostEvent}, Inv r h →
      Holds C h (EzspSpi.runDrain g p polls r st.out >>= fun drained =>
        EzspSpi.runReport g c p
          { st with router := drained.1, out := drained.2 } : Host σ Running) Q)
    {h : List HostEvent} (hInv : Inv st.router h) :
    Holds C h (EzspSpi.runPass g c p polls st : Host σ Running) Q := by
  have hwatch : Emits IsStill (EzspSpi.runWatch p : Host σ Bool) :=
    Emits.ite ((Emits.call fun _ => trivial).bind fun _ => Emits.pure)
      Emits.pure
  have hwait (timeout : Int) (fds : List Int) : Emits IsStill (
      if fds ≠ [] then Program.call (I := host) (.pollEvents fds timeout)
      else Pure.pure fun _ => ⟨false, false, false⟩ : Host σ (ℕ → Revents)) :=
    Emits.ite (Emits.call fun _ => trivial) Emits.pure
  have hpoll (watch : Bool) :
      Emits IsStill (EzspSpi.runPoll c p st watch : Host σ _) := by
    rw [EzspSpi.runPoll]
    split
    · apply (Emits.call fun _ => trivial).bind
      intro now
      exact Emits.pure.bind fun timeout => hwait timeout _
    · exact Emits.pure.bind fun timeout => hwait timeout _
  have hedge (watch : Bool) (revents : ℕ → Revents) :
      Abides C Inv st.router (fun _ => st.router)
        (onlyIf (watch = true ∧
            (revents (if 0 ≤ st.listenFd then 1 else 0)).pollin = true)
          (Program.call (I := host) (.gpioReadEdge p.hint)) : Host σ Unit) :=
    Abides.ite (hI.call (.gpioReadEdge p.hint) (fun _ => trivial) _)
      (Abides.pure rfl)
  rw [EzspSpi.runPass]
  apply (hI.emits hwatch st.router h hInv).seq
  intro watch h hInv
  apply (hI.emits (hpoll watch) st.router h hInv).seq
  intro revents h hInv
  rw [EzspSpi.runServe]
  apply (hedge watch revents h hInv).seq
  intro _ h hInv
  split
  · apply (hI.controlAccept hS _ _ h hInv).seq
    exact fun r h hInv => hrest hInv
  · rw [pure_bind]
    exact hrest hInv

theorem runPass (hS : ∀ id ∈ loopIds, Free S id) (c : RouterCfg) (polls : ℕ)
    (st : Running) :
    Abides C Inv st.router Running.router
      (EzspSpi.runPass g c p polls st : Host σ Running) := by
  have hrequests : ∀ id ∈ requestIds, Free S id :=
    fun id hid => hS id (List.mem_append_left _ hid)
  apply hI.runPass_of hrequests c polls st
  intro r h hInv
  apply (hI.runDrain hS polls r st.out h hInv).seq
  intro drained h hInv
  apply (hI.runReport_of c _ ?_ hInv).mono
  · exact fun st' h hInv => hInv.1
  · exact fun _ => hI.zclReport (hS _ (by decide)) _

theorem runPasses (hS : ∀ id ∈ loopIds, Free S id) (c : RouterCfg)
    (polls passes : ℕ) (st : Running) :
    Abides C Inv st.router Running.router
      (EzspSpi.runPasses g c p polls passes st : Host σ Running) := by
  induction passes generalizing st with
  | zero => exact Abides.pure rfl
  | succ passes ih =>
      exact (hI.runPass hS c polls st).bind fun st' => ih st'

/-- The frame ids of `cmd_run` besides those of the configuration. -/
def runIds : List Byte :=
  loopIds ++ [ezspNetworkInit, ezspGetEui64, ezspNetworkState]

variable {h : List HostEvent} {r : Router}

theorem runNetwork (hS : ∀ id ∈ runIds, Free S id) (out : List Byte)
    (nextReport : Int) (hInv : Inv r h) :
    Holds C h (EzspSpi.runNetwork g p r out nextReport : Host σ _)
      fun st h' => ∀ st' ∈ st, Inv st'.router h' := by
  have hlisten (r : Router) (out : List Byte) {h : List HostEvent}
      (hInv : Inv r h) : Holds C h
        (EzspSpi.runListen r out nextReport : Host σ _) fun st h' =>
          ∀ st' ∈ st, Inv st'.router h' := by
    apply (hI.call .controlListen (fun _ => trivial) r h hInv).seq
    intro fd h' hInv'
    apply Holds.pure
    rintro _ ⟨⟩
    exact hInv'
  apply (hI.ezspCmd (hS _ (by decide) _) r (by decide) 64 h hInv).seq
  rintro ⟨r, reply⟩ h hInv
  dsimp only
  split
  · apply (hI.ezspCmd (hS _ (by decide) _) r (by decide) 8 h hInv).seq
    intro answer h hInv
    rw [pure_bind]
    exact hlisten answer.1 _ hInv
  · rw [pure_bind]
    exact hlisten r _ hInv

end Conduct

/-! ## The commands -/

/-- The frame ids of the configuration. -/
def configurationIds : List Byte :=
  [ezspSetConfigurationValue, ezspAddEndpointId]

open Conduct in
/-- The frame ids that a command sends once a version is agreed on. -/
def RadioCommand.frameIds : RadioCommand → List Byte
  | .flow (.run _ _ _) => configurationIds ++ runIds
  | .flow (.join _ _) =>
      scanIds ++ configurationIds ++ [ezspGetConfigurationValue,
        ezspSetInitialSecurityState, ezspJoinNetwork]
  | .flow (.leave _) =>
      configurationIds ++ [ezspNetworkInit, ezspLeaveNetwork, ezspCallback]
  | .flow .info =>
      configurationIds ++ [ezspNetworkInit, ezspGetEui64, ezspGetNodeId,
        ezspNetworkState, ezspGetNetworkParameters]
  | .flow .status => configurationIds ++ [ezspNetworkInit] ++ statusIds
  | .flow .neighbors =>
      configurationIds ++ [ezspNetworkInit, ezspGetParentChildParams,
        ezspNeighborCount, ezspGetNeighbor, ezspGetRouteTableEntry]
  | .flow .keys => configurationIds ++ [ezspNetworkInit, ezspGetKey]
  | .flow (.permit _) =>
      configurationIds ++ [ezspNetworkInit, ezspPermitJoining]
  | .flow (.power _) =>
      configurationIds ++ [ezspNetworkInit, ezspSetRadioPower]
  | .scan _ => scanIds
  | .config => [ezspGetConfigurationValue]
  | .policy => [ezspGetPolicy]
  | .bootloader => [ezspGetBootloaderVersion]
  | .verify _ => [ezspGetBootloaderVersion]

/-- Of these frame ids any may be sent, but of the settings only the one true
configuration, and the security state and the network as they are
configured. -/
structure Sends (ids : List Byte) (c : RouterCfg) (frameId : Byte)
    (params : List Byte) : Prop where
  listed : frameId ∈ ids
  setting : frameId = ezspSetConfigurationValue → params ∈ trueConfiguration
  security : frameId = ezspSetInitialSecurityState →
    params = securityParams c
  join : frameId = ezspJoinNetwork →
    ∃ r nwkUpdateId, params = joinParams c r nwkUpdateId

namespace Sends

variable {ids : List Byte} {c : RouterCfg}

/-- Most may be sent with any parameters. -/
theorem free {id : Byte} (hid : id ∈ ids ∧
    id ∉ [ezspSetConfigurationValue, ezspSetInitialSecurityState,
      ezspJoinNetwork]) : Free (Sends ids c) id := by
  intro params
  obtain ⟨hmem, hnot⟩ := hid
  simp only [List.mem_cons, List.not_mem_nil, or_false, not_or] at hnot
  exact ⟨hmem, fun h => absurd h hnot.1, fun h => absurd h hnot.2.1,
    fun h => absurd h hnot.2.2⟩

theorem all_free {ids' : List Byte} (hids : ∀ id ∈ ids', id ∈ ids ∧
    id ∉ [ezspSetConfigurationValue, ezspSetInitialSecurityState,
      ezspJoinNetwork]) : ∀ id ∈ ids', Free (Sends ids c) id :=
  fun id hid => free (hids id hid)

theorem applies (hids : ∀ id ∈ configurationIds, id ∈ ids) :
    Applies (Sends ids c) where
  settings params hparams := by
    refine ⟨hids _ (by decide), fun _ => hparams, fun h => ?_, fun h => ?_⟩
    · exact absurd h (by decide)
    · exact absurd h (by decide)
  endpoint := by
    refine ⟨hids _ (by decide), fun h => ?_, fun h => ?_, fun h => ?_⟩
    · exact absurd h (by decide)
    · exact absurd h (by decide)
    · exact absurd h (by decide)

theorem joins (hjoin : ezspJoinNetwork ∈ ids) (hpoll : ezspCallback ∈ ids) :
    Joins (Sends ids c) c where
  join r nwkUpdateId := by
    refine ⟨hjoin, fun h => ?_, fun h => ?_, fun _ => ⟨r, nwkUpdateId, rfl⟩⟩
    · exact absurd h (by decide)
    · exact absurd h (by decide)
  poll := free ⟨hpoll, by decide⟩

theorem securityState (hid : ezspSetInitialSecurityState ∈ ids) :
    Sends ids c ezspSetInitialSecurityState (securityParams c) := by
  refine ⟨hid, fun h => ?_, fun _ => rfl, fun h => ?_⟩
  · exact absurd h (by decide)
  · exact absurd h (by decide)

end Sends

/-- Off the bus the contract is kept until the NCP is brought up, and from then
on the assertion holds. -/
structure Opens (σ : Type) [Kernel σ] (C : Contract host)
    (Inv : Router → List HostEvent → Prop) (g : Globals) (c : RouterCfg)
    (p : Pins) (r : Router) : Prop where
  still : ∀ {h : List HostEvent} {e : HostEvent}, (∀ x ∈ h, IsStill x) →
    IsStill e → C.event h e
  up : ∀ {h : List HostEvent}, (∀ x ∈ h, IsStill x) →
    Holds C h (radioUp g c p r : Host σ _) fun out h' =>
      out.2 ≠ none → Inv out.1 h'

/-- An assertion that does not care for the version holds from the start. -/
theorem Conduct.opens {C : Contract host}
    {Inv : Router → List HostEvent → Prop} {S : Byte → List Byte → Prop}
    {g : Globals} {c : RouterCfg} {p : Pins} {r : Router}
    (hI : Conduct σ g p C Inv S) (hid : Free S ezspVersion)
    (hseq : ∀ {r r' : Router} {h : List HostEvent}, Inv r h →
      r'.seq = r.seq → Inv r' h)
    (hreset : ∀ r, Abides C Inv r (fun _ => r)
      (commandReset p : Host σ Unit))
    (hstart : ∀ h, (∀ e ∈ h, IsStill e) → Inv r h) : Opens σ C Inv g c p r where
  still hh he := (hI.still (hstart _ hh) he).1
  up := by
    intro h hh
    have hask (r : Router) (want : Byte) : Abides C Inv r Prod.fst
        (askVersion g p r want : Host σ _) := by
      have hparams : [want].length ≤ 135 := by
        rw [List.length_singleton]
        decide
      intro h hInv
      exact hI.ezspCmd (hid _) { r with ezspVersion := 4 } hparams 8 h
        (hseq hInv rfl)
    have hagree (r : Router) (reply : List Byte) : Abides C Inv r Prod.fst
        (Pure.pure (agreeVersion r reply) : Host σ _) :=
      fun h hInv => Holds.pure (hseq hInv rfl)
    have hfirst : Abides C Inv r (fun _ => r)
        (onlyIf (c.noReset = false) (commandReset p) : Host σ Unit) :=
      Abides.ite (hreset r) (Abides.pure rfl)
    have hup : Abides C Inv r Prod.fst (radioUp g c p r : Host σ _) := by
      apply hfirst.bind
      intro _
      apply (hask r _).bind
      rintro ⟨r', reply⟩
      apply Abides.ite
      · exact Abides.pure rfl
      apply Abides.ite
      · apply (hreset r').bind
        intro _
        apply (hask r' _).bind
        rintro ⟨r'', reply'⟩
        exact Abides.ite (Abides.pure rfl) (hagree r'' _)
      · exact hagree r' _
    exact (hup h (hstart h hh)).mono fun a h' hInv _ => hInv

namespace Opens

variable {C : Contract host} {Inv : Router → List HostEvent → Prop}
  {g : Globals} {c : RouterCfg} {p : Pins} {r : Router}
  (hopens : Opens σ C Inv g c p r)

include hopens

/-- The NCP is brought up and configured, or else the command ends. -/
theorem configured {S : Byte → List Byte → Prop} (hI : Conduct σ g p C Inv S)
    (happlies : Applies S) {h : List HostEvent}
    (hh : ∀ e ∈ h, IsStill e) {a : α} {f : Router → Host σ α}
    (hf : ∀ r h', Inv r h' → Holds C h' (f r) fun _ _ => True) :
    Holds C h (do
      let (r, ver) ← radioUp g c p r
      if ver = none then pure a
      else do
        let r ← ezspApplyConfig g p r
        f r : Host σ α) fun _ _ => True := by
  apply (hopens.up hh).seq
  rintro ⟨r, ver⟩ h hInv
  dsimp only
  split
  · exact Holds.pure trivial
  · exact (hI.ezspApplyConfig happlies r h (hInv ‹_›)).seq hf

/-- The daemon is asked first. -/
theorem asked (query : List Byte) {m : Host σ ℕ}
    (hm : ∀ h, (∀ e ∈ h, IsStill e) → Holds C h m fun _ _ => True) :
    Holds C [] (Program.call (I := host) (.controlQuery query) >>=
      fun answered : Bool => if answered then pure 0 else m)
      fun _ _ => True := by
  apply Holds.bind
  apply Holds.call
  · exact fun _ => hopens.still (List.forall_mem_nil _) trivial
  · intro answered
    split
    · exact Holds.pure trivial
    · exact hm _ fun e he => List.mem_singleton.mp he ▸ trivial

end Opens

section Commands

open Conduct

variable {C : Contract host} {Inv : Router → List HostEvent → Prop}
  {g : Globals} {c : RouterCfg} {p : Pins} {r : Router}

variable (hopens : Opens σ C Inv g c p r)

include hopens

theorem cmdInfo_conduct
    (hI : Conduct σ g p C Inv (Sends (RadioCommand.flow .info).frameIds c)) :
    Holds C [] (cmdInfo g c p r : Host σ ℕ) fun _ _ => True := by
  apply hopens.configured hI (Sends.applies (by decide)) (List.forall_mem_nil _)
  intro r h hInv
  apply (hI.ezspCmd (Sends.free (by decide) _) r (by decide) 64 h hInv).seq
  intro out h hInv
  have hparams : ([] : List Byte).length ≤ 135 := Nat.zero_le 135
  have hcmd {frameId : Byte}
      (hid : frameId ∈ (RadioCommand.flow .info).frameIds ∧ frameId ∉
        [ezspSetConfigurationValue, ezspSetInitialSecurityState,
          ezspJoinNetwork]) (r : Router) :
      Abides C Inv r Prod.fst (ezspCmd g p r frameId [] 64 : Host σ _) :=
    hI.ezspCmd (Sends.free hid []) r hparams 64
  apply (hcmd (by decide) out.1 h hInv).seq
  intro out h hInv
  apply (hcmd (by decide) out.1 h hInv).seq
  intro out h hInv
  apply (hcmd (by decide) out.1 h hInv).seq
  intro out h hInv
  apply (hcmd (by decide) out.1 h hInv).seq
  exact fun _ _ _ => Holds.pure trivial

theorem cmdStatus_conduct
    (hI : Conduct σ g p C Inv (Sends (RadioCommand.flow .status).frameIds c)) :
    Holds C [] (cmdStatus g c p r : Host σ ℕ) fun _ _ => True := by
  apply hopens.asked
  intro h hh
  apply hopens.configured hI (Sends.applies (by decide)) hh
  intro r h hInv
  apply (hI.ezspCmd (Sends.free (by decide) _) r (by decide) 64 h hInv).seq
  intro out h hInv
  apply (hI.controlStatus (Sends.all_free (by decide)) out.1 512 h hInv).seq
  exact fun _ _ _ => Holds.pure trivial

theorem cmdNeighbors_conduct
    (hI : Conduct σ g p C Inv
      (Sends (RadioCommand.flow .neighbors).frameIds c)) :
    Holds C [] (cmdNeighbors g c p r : Host σ ℕ) fun _ _ => True := by
  apply hopens.asked
  intro h hh
  apply hopens.configured hI (Sends.applies (by decide)) hh
  intro r h hInv
  apply (hI.ezspCmd (Sends.free (by decide) _) r (by decide) 64 h hInv).seq
  rintro ⟨r, reply⟩ h hInv
  dsimp only
  split
  · exact Holds.pure trivial
  apply (hI.ezspCmd (Sends.free (by decide) _) r (by decide) 64 h hInv).seq
  rintro ⟨r, children⟩ h hInv
  apply (hI.ezspCmd (Sends.free (by decide) _) r (by decide) 64 h hInv).seq
  rintro ⟨r, count⟩ h hInv
  apply (hI.dumpTable (Sends.free (by decide)) _ _ r h hInv).seq
  intro r h hInv
  apply (hI.dumpTable (Sends.free (by decide)) _ _ r h hInv).seq
  exact fun _ _ _ => Holds.pure trivial

theorem cmdKeys_conduct
    (hI : Conduct σ g p C Inv (Sends (RadioCommand.flow .keys).frameIds c)) :
    Holds C [] (cmdKeys g c p r : Host σ ℕ) fun _ _ => True := by
  apply hopens.configured hI (Sends.applies (by decide)) (List.forall_mem_nil _)
  intro r h hInv
  apply (hI.ezspCmd (Sends.free (by decide) _) r (by decide) 64 h hInv).seq
  intro out h hInv
  have hround (r : Router) (key : Byte) : Abides C Inv r id
      (ezspCmd g p r ezspGetKey [key] 64 >>= fun out => pure out.1 :
        Host σ Router) := by
    have hparams : [key].length ≤ 135 := by
      rw [List.length_singleton]
      decide
    exact (hI.ezspCmd (Sends.free (by decide) _) r hparams 64).bind fun _ =>
      Abides.pure rfl
  apply (Abides.foldlM hround wantedKeys out.1 h hInv).seq
  exact fun _ _ _ => Holds.pure trivial

theorem cmdPermit_conduct (arg : Option (List Byte))
    (hI : Conduct σ g p C Inv
      (Sends (RadioCommand.flow (.permit none)).frameIds c)) :
    Holds C [] (cmdPermit g c p arg r : Host σ ℕ) fun _ _ => True := by
  apply hopens.asked
  intro h hh
  apply hopens.configured hI (Sends.applies (by decide)) hh
  intro r h hInv
  apply (hI.ezspCmd (Sends.free (by decide) _) r (by decide) 64 h hInv).seq
  rintro ⟨r, reply⟩ h hInv
  dsimp only
  split
  · exact Holds.pure trivial
  apply (hI.ezspPermit (Sends.free (by decide)) r _ _ h hInv).seq
  exact fun _ _ _ => Holds.pure trivial

theorem cmdPower_conduct (arg : Option (List Byte))
    (hI : Conduct σ g p C Inv
      (Sends (RadioCommand.flow (.power none)).frameIds c)) :
    Holds C [] (cmdPower g c p arg r : Host σ ℕ) fun _ _ => True := by
  apply hopens.asked
  intro h hh
  apply hopens.configured hI (Sends.applies (by decide)) hh
  intro r h hInv
  apply (hI.ezspCmd (Sends.free (by decide) _) r (by decide) 64 h hInv).seq
  intro out h hInv
  apply (hI.ezspSetPower (Sends.free (by decide)) out.1 _ _ h hInv).seq
  exact fun _ _ _ => Holds.pure trivial

theorem cmdLeave_conduct (out : List Byte)
    (hI : Conduct σ g p C Inv
      (Sends (RadioCommand.flow (.leave [])).frameIds c)) :
    Holds C [] (cmdLeave g c p out r : Host σ ℕ) fun _ _ => True := by
  apply hopens.configured hI (Sends.applies (by decide)) (List.forall_mem_nil _)
  intro r h hInv
  apply (hI.ezspCmd (Sends.free (by decide) _) r (by decide) 64 h hInv).seq
  intro inited h hInv
  apply (hI.ezspCmd (Sends.free (by decide) _) inited.1 (by decide) 64 h
    hInv).seq
  rintro ⟨r, reply⟩ h hInv
  dsimp only
  split
  · exact Holds.pure trivial
  · exact hI.leavePolls (Sends.free (by decide)) 40 _ hInv

theorem cmdJoin_conduct (scanOut out : List Byte)
    (hI : Conduct σ g p C Inv
      (Sends (RadioCommand.flow (.join [] [])).frameIds c)) :
    Holds C [] (cmdJoin g c p scanOut out r : Host σ ℕ) fun _ _ => True := by
  rw [cmdJoin]
  split
  · exact Holds.halt (hI.halt [])
  split
  · exact Holds.halt (hI.halt [])
  apply (hopens.up (List.forall_mem_nil _)).seq
  rintro ⟨r, ver⟩ h hInv
  dsimp only
  split
  · exact Holds.pure trivial
  have hInv := hInv ‹_›
  apply (hI.joinPrecheck (Sends.all_free (by decide)) c r scanOut h hInv).seq
  rintro ⟨r, go⟩ h hInv
  cases go with
  | none => exact Holds.pure trivial
  | some nwkUpdateId =>
      exact hI.joinConfigured (Sends.applies (by decide))
        (Sends.joins (by decide) (by decide)) (Sends.free (by decide))
        (Sends.securityState (by decide)) nwkUpdateId r out hInv

/-- `cmd_run` up to its loop, by what happens from `networkInit` on. -/
theorem runStart_of {S : Byte → List Byte → Prop} (hI : Conduct σ g p C Inv S)
    (happlies : Applies S) (heui : Free S ezspGetEui64) (out : List Byte)
    {Q : Running → List HostEvent → Prop}
    (hnetwork : ∀ {r : Router} {h : List HostEvent} (nextReport : Int),
      Inv r h → Holds C h (runNetwork g p r out nextReport : Host σ _)
        fun st h' => ∀ st' ∈ st, Q st' h') :
    Holds C [] (runStart g c p r out : Host σ _) fun st h' =>
      ∀ st' ∈ st, Q st' h' := by
  apply (hopens.up (List.forall_mem_nil _)).seq
  rintro ⟨r, ver⟩ h hInv
  dsimp only
  split
  · exact Holds.pure fun _ hst => absurd hst (Option.not_mem_none _)
  apply (hI.ezspApplyConfig happlies r h (hInv ‹_›)).seq
  intro r h hInv
  apply (hI.ezspCmd (heui _) r (by decide) 16 h hInv).seq
  rintro ⟨r, eui⟩ h hInv
  apply (hI.call .time (fun _ => trivial) r h hInv).seq
  intro now h hInv
  dsimp only
  split
  · apply (hI.call .rand (fun _ => trivial) r h hInv).seq
    exact fun stagger h hInv => hnetwork _ hInv
  · rw [pure_bind]
    exact hnetwork _ hInv

theorem cmdRun_conduct (polls passes : ℕ) (out : List Byte)
    (hI : Conduct σ g p C Inv
      (Sends (RadioCommand.flow (.run 0 0 [])).frameIds c)) :
    Holds C [] (cmdRun g c p polls passes out r : Host σ ℕ)
      fun _ _ => True := by
  apply (runStart_of hopens hI (Sends.applies (by decide))
    (Sends.free (by decide)) out fun nextReport hInv =>
      hI.runNetwork (Sends.all_free (by decide)) out nextReport hInv).seq
  intro st h hInv
  cases st with
  | none => exact Holds.pure trivial
  | some st =>
      apply (hI.runPasses (Sends.all_free (by decide)) c polls passes st h
        (hInv st rfl)).seq
      exact fun _ _ _ => Holds.pure trivial

theorem cmdScan_conduct (out : List Byte)
    (hI : Conduct σ g p C Inv (Sends scanIds c)) :
    Holds C [] (cmdScan g c p out r : Host σ _) fun _ _ => True := by
  apply (hopens.up (List.forall_mem_nil _)).seq
  rintro ⟨r, ver⟩ h hInv
  dsimp only
  split
  · exact Holds.pure trivial
  have hInv := hInv ‹_›
  have hparams : (scanParams (scanMask c) 4).length ≤ 135 := by
    simp [scanParams]
  apply (hI.ezspCmd (Sends.free (by decide) _) r hparams 64 h hInv).seq
  rintro ⟨r, reply⟩ h hInv
  dsimp only
  split
  · exact Holds.pure trivial
  · apply (hI.scanRounds (Sends.free (by decide)) 240 0 _ hInv).seq
    exact fun _ _ _ => Holds.pure trivial

/-- The commands that ask for one value after the other. -/
theorem dumpRows_conduct {frameId : Byte}
    (hid : frameId ∈ [frameId] ∧ frameId ∉ [ezspSetConfigurationValue,
      ezspSetInitialSecurityState, ezspJoinNetwork])
    (hI : Conduct σ g p C Inv (Sends [frameId] c)) (row : Byte → List Byte →
      Option Line) (ids : List Byte) (lines : List Line → List Line) :
    Holds C [] (do
      let (r, ver) ← radioUp g c p r
      if ver = none then pure (1, [])
      else do
        let rows ← dumpRows g p frameId row ids r
        pure (0, lines rows) : Host σ (ℕ × List Line)) fun _ _ => True := by
  apply (hopens.up (List.forall_mem_nil _)).seq
  rintro ⟨r, ver⟩ h hInv
  dsimp only
  split
  · exact Holds.pure trivial
  have hInv := hInv ‹_›
  apply (hI.dumpRows (Sends.free hid) row ids hInv).seq
  exact fun _ _ _ => Holds.pure trivial

theorem cmdBootloader_conduct
    (hI : Conduct σ g p C Inv (Sends [ezspGetBootloaderVersion] c)) :
    Holds C [] (cmdBootloader g c p r : Host σ _) fun _ _ => True := by
  apply (hopens.up (List.forall_mem_nil _)).seq
  rintro ⟨r, ver⟩ h hInv
  dsimp only
  split
  · exact Holds.pure trivial
  apply (hI.ezspCmd (Sends.free (by decide) _) r (by decide) 16 h
    (hInv ‹_›)).seq
  intro out h hInv
  split
  · exact Holds.pure trivial
  · exact Holds.pure trivial

theorem cmdVerify_conduct (file : Option (List Byte))
    (hI : Conduct σ g p C Inv (Sends [ezspGetBootloaderVersion] c)) :
    Holds C [] (cmdVerify g c p file r : Host σ ℕ) fun _ _ => True := by
  cases file with
  | none => exact Holds.halt (hI.halt [])
  | some hdr =>
      rw [cmdVerify]
      split
      · exact Holds.halt (hI.halt [])
      split
      · exact Holds.pure trivial
      apply (hopens.up (List.forall_mem_nil _)).seq
      rintro ⟨r, ver⟩ h hInv
      dsimp only
      split
      · exact Holds.pure trivial
      apply (hI.ezspCmd (Sends.free (by decide) _) r (by decide) 16 h
        (hInv ‹_›)).seq
      intro out h hInv
      split
      · exact Holds.pure trivial
      split
      · exact Holds.pure trivial
      · exact Holds.pure trivial

/-- Whatever a command sends once a version is agreed on, it conducts itself. -/
theorem Conduct.program (k : RadioCommand)
    (hI : Conduct σ g p C Inv (Sends k.frameIds c)) :
    Holds C [] (k.program g c p r : Host σ ℕ) fun _ _ => True := by
  have hlines {m : Host σ (ℕ × List Line)}
      (hm : Holds C [] m fun _ _ => True) :
      Holds C [] (Prod.fst <$> m : Host σ ℕ) fun _ _ => True :=
    hm.seq fun _ _ _ => Holds.pure trivial
  cases k with
  | flow flow =>
      cases flow with
      | run polls passes out => exact cmdRun_conduct hopens polls passes out hI
      | join scanOut out => exact cmdJoin_conduct hopens scanOut out hI
      | leave out => exact cmdLeave_conduct hopens out hI
      | info => exact cmdInfo_conduct hopens hI
      | status => exact cmdStatus_conduct hopens hI
      | neighbors => exact cmdNeighbors_conduct hopens hI
      | keys => exact cmdKeys_conduct hopens hI
      | permit arg => exact cmdPermit_conduct hopens arg hI
      | power arg => exact cmdPower_conduct hopens arg hI
  | scan out => exact hlines (cmdScan_conduct hopens out hI)
  | config =>
      exact hlines (dumpRows_conduct hopens (by decide) hI configRow configIds
        fun rows => [] :: tableHead 34 "id" "name" "value" ::
          tableHead 34 "-----" "----" "-----" :: rows)
  | policy =>
      exact hlines (dumpRows_conduct hopens (by decide) hI policyRow policyIds
        fun rows => [] :: tableHead 30 "id" "policy" "decision" ::
          tableHead 30 "-----" "------" "--------" :: rows)
  | bootloader => exact hlines (cmdBootloader_conduct hopens hI)
  | verify file => exact cmdVerify_conduct hopens file hI

end Commands

end EzspSpi
