import EzspSpi.Router.ConductRun

/-!
# What is sent when

Every command on the bus is the version command that opens a session, or one
that its program may send, in the layout of the version agreed on since the
last commanded reset, or the repetition of one that a reset notification
answered.  All but repetitions carry the next sequence number.
-/

namespace EzspSpi

open Program

variable {σ : Type} [Kernel σ]

/-! ## The rule -/

/-- The number of the next command, with this one for the first. -/
def commandNumber (first : Byte) (h : List HostEvent) : Byte :=
  first + BitVec.ofNat 8 (calls h).length

/-- The version was asked for, in the layout of version 4, and answered. -/
def AgreedOn (v : Byte) (t : List HostEvent) : Prop :=
  ∃ x ∈ exchanges t, (∃ seq, x.command = ezspTx 4 seq ezspVersion [v]) ∧
    answeredVersion x = some v

/-- What may be sent after this history. -/
inductive MaySend (first : Byte) (S : Byte → List Byte → Prop)
    (h : List HostEvent) : List Byte → Prop
  | version {want : Byte} (hfirst : exchanges (sinceCommandedReset h) = []) :
      MaySend first S h
        (ezspTx 4 (commandNumber first h) ezspVersion [want])
  | command {v frameId : Byte} {params : List Byte} (hv : v.toNat ≤ 8)
      (hagreed : AgreedOn v (sinceCommandedReset h))
      (hsends : S frameId params) :
      MaySend first S h
        (ezspTx v.toNat (commandNumber first h) frameId params)
  | again {x : Exchange} (hlast : (exchanges h).getLast? = some x)
      (hnotice : x.IsResetNotice)
      (honce : ∀ y ∈ (exchanges h).dropLast.getLast?,
        y.command ≠ x.command) :
      MaySend first S h x.command

/-- The command that is put on the bus, also by an ioctl that fails. -/
def attemptOf : HostEvent → Option (List Byte)
  | .call (.spiTransfer tx false _) _ => some tx
  | _ => none

theorem attemptOf_of_isGpio {e : HostEvent} (he : IsGpio e) :
    attemptOf e = none := by
  cases e with
  | note n => rfl
  | call c got =>
      cases c with
      | spiTransfer tx keepRx keepCs => exact he.elim
      | _ => rfl

/-- Every command may be sent where it is sent. -/
def sessionRule (first : Byte) (S : Byte → List Byte → Prop) :
    Contract host where
  event h e := ∀ tx, attemptOf e = some tx → MaySend first S h tx
  halt _ := True

theorem MaySend.mono {first : Byte} {S S' : Byte → List Byte → Prop}
    (hS : ∀ frameId params, S frameId params → S' frameId params)
    {h : List HostEvent} {tx : List Byte} (hmay : MaySend first S h tx) :
    MaySend first S' h tx := by
  cases hmay with
  | version hfirst => exact .version hfirst
  | command hv hagreed hsends => exact .command hv hagreed (hS _ _ hsends)
  | again hlast hnotice honce => exact .again hlast hnotice honce

/-! ## One command -/

/-- Within `ezsp_xfer` only this command is sent, and nothing is reset. -/
private def oneCommand (h₀ : List HostEvent) (tx : List Byte) :
    Contract host where
  event h e := isCommandedReset e = false ∧ ∀ tx', attemptOf e = some tx' →
    tx' = tx ∧ ∀ t, h = h₀ ++ t → MayCommand tx t
  halt _ := True

private theorem oneCommand_bus (h₀ : List HostEvent) (tx : List Byte) :
    Bus (oneCommand h₀ tx) where
  gpio h e he := by
    cases e with
    | note n => exact he.elim
    | call c got =>
        refine ⟨rfl, fun tx' htx' => ?_⟩
        cases c with
        | spiTransfer tx keepRx keepCs => exact he.elim
        | _ => cases htx'
  idle h n keepCs rx := ⟨rfl, fun tx' htx' => by cases htx'⟩
  failed _ _ := trivial

/-- A command, for a contract that speaks of commands only. -/
theorem ezspXfer_sends {C : Contract host} (hhalt : ∀ h, C.halt h)
    (hquiet : ∀ h e, attemptOf e = none → C.event h e) (g : Globals)
    (p : Pins) {h : List HostEvent} (r : Router) (frameId : Byte)
    {params : List Byte} (hparams : params.length ≤ 135) (max : ℕ)
    (hcommand : ∀ t e, (∀ e ∈ t, isCommandedReset e = false) →
      MayCommand (ezspTx r.ezspVersion r.seq frameId params) t →
      attemptOf e = some (ezspTx r.ezspVersion r.seq frameId params) →
      C.event (h ++ t) e) :
    Holds C h (ezspXfer g p r frameId params max : Host σ _) fun out h' =>
      ∃ t x, h' = h ++ t ∧ (∀ e ∈ t, isCommandedReset e = false) ∧
        Commanded (ezspTx r.ezspVersion r.seq frameId params) x t ∧
        out = ({ r with seq := r.seq + 1 },
          x.frame?.bind (unwrapReply r.ezspVersion max)) := by
  have hone := ezspXfer_holds (σ := σ) g p (fun _ => trivial)
    (oneCommand_bus h (ezspTx r.ezspVersion r.seq frameId params)) r frameId
    hparams max (h := h) ?_
  · apply (hone.frame (D := C) (R := fun h' => ∃ t, h' = h ++ t ∧
      ∀ e ∈ t, isCommandedReset e = false) ?_ (fun h' _ => hhalt h') ?_).mono
    · rintro out _ ⟨⟨t, x, rfl, hcommanded, hout⟩, t', ht, hnot⟩
      obtain rfl := List.append_cancel_left ht
      exact ⟨t, x, rfl, hnot, hcommanded, hout⟩
    · rintro _ e ⟨hreset, hevent⟩ ⟨t, rfl, hnot⟩
      constructor
      · cases he : attemptOf e with
        | none => exact hquiet _ e he
        | some tx =>
            obtain ⟨rfl, hmay⟩ := hevent tx he
            exact hcommand t e hnot (hmay t rfl) he
      · refine ⟨t ++ [e], by rw [List.append_assoc], ?_⟩
        simpa [or_imp, forall_and, hreset] using hnot
    · exact ⟨[], (List.append_nil h).symm, List.forall_mem_nil _⟩
  · intro t hmay rx
    refine ⟨rfl, fun tx' htx' => ?_⟩
    obtain rfl := Option.some.inj htx'
    refine ⟨rfl, fun t' ht' => ?_⟩
    rwa [← List.append_cancel_left ht']

/-! ## Numbers -/

/-- The router has the number that the next command carries. -/
structure Numbered (first : Byte) (r : Router) (h : List HostEvent) : Prop where
  called : Called (calls h) r h
  seq : r.seq = commandNumber first h

namespace Numbered

variable {first : Byte} {r r' : Router} {h t : List HostEvent}

theorem start {h : List HostEvent} (hh : exchanges h = []) (r : Router) :
    Numbered r.seq r h := by
  have hcalls : calls h = [] := by
    rw [calls, hh]
    rfl
  refine ⟨⟨rfl, by simp [hh]⟩, ?_⟩
  rw [commandNumber, hcalls]
  exact (BitVec.add_zero r.seq).symm

theorem congr (hnumbered : Numbered first r h) (hseq : r'.seq = r.seq) :
    Numbered first r' h :=
  ⟨hnumbered.called.congr hseq, hseq.trans hnumbered.seq⟩

theorem quiet (hnumbered : Numbered first r h) (ht : ∀ e ∈ t, IsQuiet e) :
    Numbered first r (h ++ t) := by
  have hmore := hnumbered.called.quiet ht
  refine ⟨hmore.calls.symm ▸ hmore, ?_⟩
  rw [commandNumber, hmore.calls]
  exact hnumbered.seq

theorem commanded (hnumbered : Numbered first r h) {ver : ℕ} {frameId : Byte}
    {params : List Byte} {x : Exchange}
    (ht : Commanded (ezspTx ver r.seq frameId params) x t)
    (hseq : r'.seq = r.seq + 1) : Numbered first r' (h ++ t) := by
  have hmore := hnumbered.called.commanded ht hseq
  refine ⟨hmore.calls.symm ▸ hmore, ?_⟩
  rw [commandNumber, hmore.calls, List.length_append, List.length_singleton,
    hseq, hnumbered.seq, commandNumber, BitVec.ofNat_add, BitVec.add_assoc]
  rfl

/-- Within a command the next number is that of the command, unless a reset
notification has answered it. -/
theorem maySend (hnumbered : Numbered first r h) {ver : ℕ} {frameId : Byte}
    {params : List Byte} {S : Byte → List Byte → Prop}
    (ht : MayCommand (ezspTx ver r.seq frameId params) t)
    (hnew : exchanges t = [] → r.seq = commandNumber first (h ++ t) →
      MaySend first S (h ++ t) (ezspTx ver r.seq frameId params)) :
    MaySend first S (h ++ t) (ezspTx ver r.seq frameId params) := by
  obtain ⟨hfirst, hexchanges⟩ := ht
  have hall := (exchanges_append (t := h) hfirst).1
  rcases hexchanges with hnone | ⟨x, hone, hx, hnotice⟩
  · apply hnew hnone
    rw [hnumbered.seq, commandNumber, commandNumber, calls, calls, hall, hnone,
      List.append_nil]
  · rw [hone] at hall
    rw [← hx]
    apply MaySend.again _ hnotice
    · intro y hy hsame
      rw [hall, List.dropLast_concat] at hy
      have hnumber := hnumbered.called.number y hy
      have hown : x.command.getD 2 0 = r.seq := by
        rw [hx]
        rfl
      rw [hsame, hown] at hnumber
      simp at hnumber
    · rw [hall, List.getLast?_concat]

end Numbered

/-! ## Within a session -/

/-- A version has been agreed on, and the commands are numbered. -/
structure InSession (first : Byte) (r : Router) (h : List HostEvent) :
    Prop where
  numbered : Numbered first r h
  agreed : ∃ v : Byte, v.toNat ≤ 8 ∧ r.ezspVersion = v.toNat ∧
    AgreedOn v (sinceCommandedReset h)

theorem AgreedOn.append {v : Byte} {h t : List HostEvent}
    (hagreed : AgreedOn v (sinceCommandedReset h))
    (hnot : ∀ e ∈ t, isCommandedReset e = false)
    (hfirst : receivedFirst t = []) :
    AgreedOn v (sinceCommandedReset (h ++ t)) := by
  obtain ⟨x, hx, hasked, hanswer⟩ := hagreed
  refine ⟨x, ?_, hasked, hanswer⟩
  rw [sinceCommandedReset_append hnot, (exchanges_append hfirst).1]
  exact List.mem_append_left _ hx

theorem IsStill.isQuiet {e : HostEvent} (he : IsStill e) :
    IsQuiet e ∧ attemptOf e = none ∧ isCommandedReset e = false := by
  cases e with
  | note n =>
      refine ⟨isQuiet_note n, rfl, ?_⟩
      cases n with
      | reset => exact he.elim
      | _ => rfl
  | call c got =>
      cases c with
      | spiTransfer tx keepRx keepCs => exact he.elim
      | _ => exact ⟨⟨rfl, rfl⟩, rfl, rfl⟩

theorem conduct_inSession {g : Globals} {p : Pins} (first : Byte)
    (S : Byte → List Byte → Prop) :
    Conduct σ g p (sessionRule first S) (InSession first) S where
  halt _ := trivial
  still := by
    rintro r h e ⟨hnumbered, v, hv, hversion, hagreed⟩ he
    obtain ⟨hquiet, hnone, hnot⟩ := he.isQuiet
    have hevent : ∀ e' ∈ [e], IsQuiet e' :=
      fun e' he' => List.mem_singleton.mp he' ▸ hquiet
    have hreset : ∀ e' ∈ [e], isCommandedReset e' = false :=
      fun e' he' => List.mem_singleton.mp he' ▸ hnot
    refine ⟨fun tx htx => ?_, hnumbered.quiet hevent, v, hv, hversion, ?_⟩
    · rw [hnone] at htx
      cases htx
    · exact hagreed.append hreset (exchanges_of_quiet hevent).2
  alike := by
    rintro r r' h ⟨hnumbered, v, hv, hversion, hagreed⟩ hlike
    exact ⟨hnumbered.congr hlike.seq, v, hv,
      hlike.ezspVersion.trans hversion, hagreed⟩
  xfer := by
    rintro r frameId params max hid hparams h
      ⟨hnumbered, v, hv, hversion, hagreed⟩
    apply (ezspXfer_sends (fun _ => trivial) ?_ g p r frameId hparams max
      ?_).mono
    · rintro _ _ ⟨t, x, rfl, hnot, hcommanded, rfl⟩
      exact ⟨hnumbered.commanded hcommanded rfl, v, hv, hversion,
        hagreed.append hnot hcommanded.1⟩
    · intro h' e hnone tx htx
      rw [hnone] at htx
      cases htx
    · intro t e hnot hmay he tx htx
      obtain rfl := Option.some.inj (he.symm.trans htx)
      apply hnumbered.maySend hmay
      intro _ hseq
      rw [hversion, hseq]
      exact MaySend.command hv (hagreed.append hnot hmay.1) hid

/-! ## Opening one -/

section Opening

variable {first : Byte} {S : Byte → List Byte → Prop} (g : Globals) (p : Pins)
  {r : Router} {h : List HostEvent}

theorem sessionRule_of_none {h : List HostEvent} {e : HostEvent}
    (he : attemptOf e = none) : (sessionRule first S).event h e := by
  intro tx htx
  rw [he] at htx
  cases htx

/-- After a reset nothing has been sent yet. -/
theorem commandReset_unopened (hnumbered : Numbered first r h) :
    Holds (sessionRule first S) h (commandReset p : Host σ Unit)
      fun _ h' => Numbered first r h' ∧
        exchanges (sinceCommandedReset h') = [] := by
  have hnote : Numbered first r (h ++ [.note .reset]) :=
    hnumbered.quiet fun e he => List.mem_singleton.mp he ▸ isQuiet_note _
  have hsince : sinceCommandedReset (h ++ [.note .reset]) = [] := by
    apply List.rtakeWhile_concat_neg
    rw [isCommandedReset]
    decide
  rw [commandReset]
  apply Holds.bind
  apply Holds.note (sessionRule_of_none rfl)
  have hlines (h' : List HostEvent) (e : HostEvent) (he : IsGpio e) :
      (sessionRule first S).event h' e :=
    sessionRule_of_none (attemptOf_of_isGpio he)
  apply ((ncpReset_emits p).appends hlines fun _ => trivial).mono
  rintro _ _ ⟨t, ht, rfl⟩
  have hquiet : ∀ e ∈ t, IsQuiet e := fun e he => (ht e he).isQuiet
  have hnot : ∀ e ∈ t, isCommandedReset e = false := by
    intro e he
    cases e with
    | note n => exact (ht _ he).elim
    | call c got => rfl
  refine ⟨hnote.quiet hquiet, ?_⟩
  rw [sinceCommandedReset_append hnot, hsince, List.nil_append]
  exact (exchanges_of_quiet hquiet).1

/-- A session opens with the version command, whose answer may agree. -/
theorem askVersion_opens (hnumbered : Numbered first r h)
    (hnone : exchanges (sinceCommandedReset h) = []) (want : Byte) :
    Holds (sessionRule first S) h (askVersion g p r want : Host σ _)
      fun out h' => Numbered first out.1 h' ∧
        ∃ x : Exchange, out.2.getD [] = answerOf x ∧
          (answeredVersion x = some want →
            AgreedOn want (sinceCommandedReset h')) := by
  have hparams : [want].length ≤ 135 := by
    rw [List.length_singleton]
    decide
  have hasks : Numbered first { r with ezspVersion := 4 } h :=
    hnumbered.congr rfl
  rw [askVersion, ezspCmd]
  apply (ezspXfer_sends (fun _ => trivial) (fun h' e => sessionRule_of_none)
    g p { r with ezspVersion := 4 } ezspVersion hparams 8 ?_).seq
  · rintro _ _ ⟨t, x, rfl, hnot, hcommanded, rfl⟩
    refine Holds.pure ⟨hasks.commanded hcommanded rfl, x, rfl, ?_⟩
    intro hanswer
    refine ⟨x, ?_, ⟨r.seq, hcommanded.2.1⟩, hanswer⟩
    rw [sinceCommandedReset_append hnot]
    exact List.mem_of_getLast? (hcommanded.exchanges_append _).1
  · intro t e hnot hmay he tx htx
    obtain rfl := Option.some.inj (he.symm.trans htx)
    apply hasks.maySend hmay
    intro hexchanges hseq
    have hfirst : exchanges (sinceCommandedReset (h ++ t)) = [] := by
      rw [sinceCommandedReset_append hnot, (exchanges_append hmay.1).1, hnone,
        hexchanges]
      rfl
    rw [hseq]
    exact MaySend.version hfirst

theorem ezspInit_opens (c : RouterCfg) (hnumbered : Numbered first r h)
    (hnone : exchanges (sinceCommandedReset h) = []) :
    Holds (sessionRule first S) h (ezspInit g p c r : Host σ _)
      fun out h' => out.2 ≠ none → InSession first out.1 h' := by
  have hagree {r' : Router} {h' : List HostEvent} {x : Exchange} {v : Byte}
      {out : List Byte} (hnumbered' : Numbered first r' h')
      (hx : answeredVersion x = some v → AgreedOn v (sinceCommandedReset h'))
      (hanswer : answeredVersion x = some v) (hout : out.getD 0 0 = v) :
      (agreeVersion r' out).2 ≠ none →
        InSession first (agreeVersion r' out).1 h' := by
    intro hsome
    refine ⟨hnumbered'.congr rfl, v, ?_, ?_, hx hanswer⟩
    · rw [agreeVersion, hout] at hsome
      by_contra hnew
      exact hsome (if_pos (not_le.mp hnew))
    · rw [agreeVersion, hout]
  rw [ezspInit]
  dsimp only
  generalize c.ezspWant.setWidth 8 = want
  apply (askVersion_opens g p hnumbered hnone want).seq
  rintro ⟨r', reply⟩ h' ⟨hnumbered', x, hreply, hx⟩
  dsimp only at hreply ⊢
  rw [hreply]
  split
  · exact Holds.pure fun hsome => absurd rfl hsome
  rename_i hlong
  have hanswer := answeredVersion_of_long hlong
  split
  · apply (commandReset_unopened p hnumbered').seq
    rintro _ h₂ ⟨hnumbered₂, hnone₂⟩
    apply (askVersion_opens g p hnumbered₂ hnone₂ _).seq
    rintro ⟨r₃, reply₃⟩ h₃ ⟨hnumbered₃, y, hreply₃, hy⟩
    dsimp only at hreply₃ ⊢
    rw [hreply₃]
    split
    · exact Holds.pure fun hsome => absurd rfl hsome
    · rename_i hboth
      obtain ⟨hlong₃, hsame⟩ := not_or.mp hboth
      have hanswer₃ := answeredVersion_of_long hlong₃
      rw [not_not.mp hsame] at hanswer₃
      exact Holds.pure (hagree hnumbered₃ hy hanswer₃ (not_not.mp hsame))
  · rename_i hsame
    rw [not_not.mp hsame] at hanswer
    exact Holds.pure (hagree hnumbered' hx hanswer (not_not.mp hsame))

theorem opens_inSession (c : RouterCfg) (r : Router) :
    Opens σ (sessionRule r.seq S) (InSession r.seq) g c p r where
  still _ he := sessionRule_of_none he.isQuiet.2.1
  up := by
    intro h hh
    have hquiet : ∀ e ∈ h, IsQuiet e := fun e he => (hh e he).isQuiet.1
    have hnone := (exchanges_of_quiet hquiet).1
    have hnot : ∀ e ∈ h, isCommandedReset e = false :=
      fun e he => (hh e he).isQuiet.2.2
    have hsince : exchanges (sinceCommandedReset h) = [] := by
      have hall := sinceCommandedReset_append (h := []) hnot
      rw [List.nil_append] at hall
      rw [hall]
      exact hnone
    have hnumbered := Numbered.start hnone r
    have hreset : Holds (sessionRule r.seq S) h
        (onlyIf (c.noReset = false) (commandReset p) : Host σ Unit)
        fun _ h' => Numbered r.seq r h' ∧
          exchanges (sinceCommandedReset h') = [] := by
      rw [onlyIf]
      split
      · exact commandReset_unopened p hnumbered
      · exact Holds.pure ⟨hnumbered, hsince⟩
    apply hreset.seq
    rintro _ h' ⟨hnumbered', hnone'⟩
    exact ezspInit_opens g p c hnumbered' hnone'

end Opening

/-! ## Every command -/

/-- Whatever the surroundings answer, every command on the bus, with or without
success, is one of these.  A version command opens a session; what follows it
is in the layout of the version agreed on since the last commanded reset, and
is what the program may send, the network and the security state as they are
configured; both are numbered consecutively.  Only a command that a reset
notification answered is repeated, once. -/
theorem RadioCommand.sends_in_session (k : RadioCommand) (g : Globals)
    (c : RouterCfg) (p : Pins) (r : Router) (s : σ) :
    Along (sessionRule r.seq (Sends k.frameIds c)) []
      (k.program g c p r s).trace :=
  (Conduct.program (opens_inSession g p c r) k
    (conduct_inSession r.seq (Sends k.frameIds c)) s).1

end EzspSpi
