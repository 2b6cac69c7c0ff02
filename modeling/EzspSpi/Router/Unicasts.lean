import EzspSpi.Router.Sessions

/-!
# What the daemon says

Every unicast of `cmd_run` is the report, or it answers the message that the
poll just before has brought.
-/

namespace EzspSpi

open Program

variable {σ : Type} [Kernel σ]

/-! ## The rule -/

/-- One record for each of these attributes, in this order. -/
def RecordsOf (ids : List (BitVec 16))
    (records : List (BitVec 16 × AttrValue)) : Prop :=
  records.map Prod.fst = ids ∧
    ∀ record ∈ records, ∃ location, record.2 = basicValue location record.1

/-- The last call was a poll, and it brought a message. -/
def BroughtMessage (xs : List Exchange) : Prop :=
  ∃ x, xs.getLast? = some x ∧ x.Asks ezspCallback [] ∧
    x.reply?.map Prod.fst = some ezspIncomingMessageHandler

/-- What a unicast may say after these calls, with the buffer as the stack has
it before them. -/
inductive Spoken (c : RouterCfg) (out : List Byte) (xs : List Exchange) :
    List Byte → Prop
  | report (r : Router) (hreports : c.reportSecs ≠ 0) :
      Spoken c out xs (unicastParams r 0x0000 zclClusterBasic reportFrame)
  | answer (r : Router) {m : List Byte}
      {records : List (BitVec 16 × AttrValue)} (hbrought : BroughtMessage xs)
      (hm : m = runBuffer out xs) (htaken : TakenForRead m)
      (hrecords : RecordsOf (requestIds m) records) :
      Spoken c out xs (unicastParams r (le16 m 14) zclClusterBasic
        (responseBytes (requestSeq m) records))

/-- A unicast is one of these, or it is repeated after a reset notification. -/
def unicastRule (c : RouterCfg) (out : List Byte) : Contract host where
  event h e := ∀ tx, attemptOf e = some tx →
    commandId tx = ezspSendUnicast → Spoken c out (calls h) (commandParams tx) ∨
      ∃ x, (exchanges h).getLast? = some x ∧ x.IsResetNotice ∧ x.command = tx
  halt _ := True

/-- The calls so far leave this in the buffer. -/
def Buffered (out₀ out : List Byte) (r : Router) (h : List HostEvent) : Prop :=
  ∃ xs, Called xs r h ∧ runBuffer out₀ xs = out

section Rule

variable {c : RouterCfg} {out₀ out : List Byte} {r r' : Router}
  {h t : List HostEvent}

theorem unicastRule_of_none {e : HostEvent} (he : attemptOf e = none) :
    (unicastRule c out₀).event h e := by
  intro tx htx
  rw [he] at htx
  cases htx

theorem Buffered.quiet (hbuffered : Buffered out₀ out r h)
    (ht : ∀ e ∈ t, IsQuiet e) : Buffered out₀ out r (h ++ t) := by
  obtain ⟨xs, hcalled, hout⟩ := hbuffered
  exact ⟨xs, hcalled.quiet ht, hout⟩

theorem Buffered.congr (hbuffered : Buffered out₀ out r h)
    (hseq : r'.seq = r.seq) : Buffered out₀ out r' h := by
  obtain ⟨xs, hcalled, hout⟩ := hbuffered
  exact ⟨xs, hcalled.congr hseq, hout⟩

/-- A call, which may be a unicast if it is spoken now. -/
theorem ezspXfer_spoken (g : Globals) (p : Pins) {xs : List Exchange}
    (hcalled : Called xs r h) {frameId : Byte} (hid : frameId ∉ [0x01, 0xFF])
    {params : List Byte} (hparams : params.length ≤ 135) (max : ℕ)
    (hspoken : frameId = ezspSendUnicast → Spoken c out₀ xs params) :
    Holds (unicastRule c out₀) h
      (ezspXfer g p r frameId params max : Host σ _) fun a h' =>
        ∃ x : Exchange, x.Asks frameId params ∧ Called (xs ++ [x]) a.1 h' ∧
          a = ({ r with seq := r.seq + 1 }, x.reply?.map fun reply =>
            (reply.1, reply.2.take max)) := by
  obtain ⟨hframeId, hread⟩ := command_ezspTx hid r.ezspVersion r.seq params
  apply (ezspXfer_sends (fun _ => trivial) (fun _ _ => unicastRule_of_none)
    g p r frameId hparams max ?_).mono
  · rintro _ _ ⟨t, x, rfl, -, hcommanded, rfl⟩
    obtain ⟨hasks, hreply⟩ := Exchange.reads hid hcommanded.2.1
    exact ⟨x, hasks, hcalled.commanded hcommanded rfl, by rw [hreply]⟩
  · rintro t e - ⟨hfirst, hexchanges⟩ he tx htx hunicast
    obtain rfl := Option.some.inj (he.symm.trans htx)
    have hall := (exchanges_append (t := h) hfirst).1
    rcases hexchanges with hnone | ⟨x, hone, hx, hnotice⟩
    · rw [hnone, List.append_nil] at hall
      rw [hread, calls, hall]
      rw [← hcalled.calls] at hspoken
      exact Or.inl (hspoken (hframeId.symm.trans hunicast))
    · rw [hone] at hall
      exact Or.inr ⟨x, by rw [hall, List.getLast?_concat], hnotice, hx⟩

/-- Commands aside are no unicasts, and leave the buffer alone. -/
theorem conduct_unicasts (g : Globals) (p : Pins) (c : RouterCfg)
    (out₀ out : List Byte) :
    Conduct σ g p (unicastRule c out₀) (Buffered out₀ out)
      fun frameId _ => IsAside frameId where
  halt _ := trivial
  still hbuffered he := by
    obtain ⟨hquiet, hnone, -⟩ := he.isQuiet
    exact ⟨unicastRule_of_none hnone, hbuffered.quiet fun e' he' =>
      List.mem_singleton.mp he' ▸ hquiet⟩
  alike hbuffered hlike := hbuffered.congr hlike.seq
  xfer := by
    rintro r frameId params max hid hparams h ⟨xs, hcalled, hout⟩
    simp only [IsAside, List.mem_cons, not_or] at hid
    have hne : frameId ∉ [0x01, 0xFF] := by
      simp only [List.mem_cons, not_or]
      exact ⟨hid.2.2.2.1, hid.2.2.2.2.1, List.not_mem_nil⟩
    apply (ezspXfer_spoken g p hcalled hne hparams max fun h =>
      absurd h hid.1).mono
    rintro _ _ ⟨x, hasks, hmore, rfl⟩
    refine ⟨xs ++ [x], hmore, ?_⟩
    rw [← hasks.frameId] at hid
    rw [runBuffer_append, hout, runBuffer_of_other hid.2.2.1 hid.2.1]

end Rule

/-! ## The application -/

section Application

variable {c : RouterCfg} {out₀ out : List Byte} {r : Router}
  {h : List HostEvent} (g : Globals) (p : Pins)

theorem zclSend_spoken {xs : List Exchange} (hcalled : Called xs r h)
    (hout : runBuffer out₀ xs = out) {dest cluster : BitVec 16}
    {payload : List Byte}
    (hspoken : Spoken c out₀ xs (unicastParams r dest cluster payload)) :
    Holds (unicastRule c out₀) h
      (zclSend g p r dest cluster payload : Host σ _) fun a h' =>
        Buffered out₀ out a.1 h' := by
  rw [zclSend]
  split
  · exact Holds.pure ⟨xs, hcalled, hout⟩
  rename_i hshort
  have hparams : (unicastParams r dest cluster payload).length ≤ 135 := by
    simp only [unicastParams, List.length_append, List.length_cons,
      List.length_nil]
    omega
  have htagged : Called xs { r with tag := r.tag + 1 } h := hcalled.congr rfl
  have hcommand : Holds (unicastRule c out₀) h
      (ezspCmd g p { r with tag := r.tag + 1 } ezspSendUnicast
        (unicastParams r dest cluster payload) 8 : Host σ _) fun a h' =>
          Buffered out₀ out a.1 h' := by
    apply (ezspXfer_spoken g p htagged (by decide) hparams 8 fun _ =>
      hspoken).seq
    rintro _ _ ⟨x, hasks, hmore, rfl⟩
    refine Holds.pure ⟨xs ++ [x], hmore, ?_⟩
    rw [runBuffer_append, hout]
    apply runBuffer_of_other
    · rw [hasks.frameId]
      decide
    · rw [hasks.frameId]
      decide
  apply hcommand.seq
  exact fun a h' hbuffered => Holds.pure hbuffered

theorem zclReport_spoken (hreports : c.reportSecs ≠ 0) (r : Router) :
    Abides (unicastRule c out₀) (Buffered out₀ out) r id
      (zclReport g p r : Host σ Router) := by
  have hI := conduct_unicasts (σ := σ) g p c out₀ out
  apply (hI.call .time (fun _ => trivial) r).bind
  rintro now h ⟨xs, hcalled, hout⟩
  have hlast : Called xs { r with reportLast := now } h := hcalled.congr rfl
  apply (zclSend_spoken g p hlast hout (.report _ hreports)).seq
  rintro ⟨r', sent⟩ h' hbuffered
  dsimp only
  split
  · exact Holds.pure (hbuffered.congr rfl)
  · exact Holds.pure (hbuffered.congr rfl)

/-- A message is answered, if at all, to its sender. -/
theorem zclHandleIncoming_spoken {xs : List Exchange} (hcalled : Called xs r h)
    (hbrought : BroughtMessage xs) (hout : runBuffer out₀ xs = out) :
    Holds (unicastRule c out₀) h (zclHandleIncoming g p r out : Host σ Router)
      fun r' h' => Buffered out₀ out r' h' := by
  by_cases htaken : TakenForRead out
  · rw [zclHandleIncoming_of_taken g p r htaken, answerRead]
    apply (appendAttrs_holds (fun _ _ => unicastRule_of_none rfl)
      (requestIds out) r [0x18, requestSeq out, 0x01] h).seq
    rintro ⟨r', resp⟩ _ ⟨t, records, rfl, ht, hr', hids, hresp, hlisted, -⟩
    have hquiet : ∀ e ∈ t, IsQuiet e := fun e he => (ht e he).isQuiet
    dsimp only at hr' hresp ⊢
    have hseq : r'.seq = r.seq := by rw [hr']
    have hcalled' : Called xs r' (h ++ t) :=
      (hcalled.quiet hquiet).congr hseq
    rw [respondTo, show resp = responseBytes (requestSeq out) records from
      hresp]
    apply (zclSend_spoken g p hcalled' hout
      (.answer r' hbrought hout.symm htaken ⟨hids, hlisted⟩)).seq
    exact fun a h' hbuffered => Holds.pure hbuffered
  · rw [zclHandleIncoming_of_not_taken g p r htaken]
    exact Holds.pure ⟨xs, hcalled, hout⟩

/-! ## The daemon -/

theorem runDrain_spoken (polls : ℕ) (hbuffered : Buffered out₀ out r h) :
    Holds (unicastRule c out₀) h (runDrain g p polls r out : Host σ _)
      fun final h' => Buffered out₀ final.2 final.1 h' := by
  induction polls generalizing r out h with
  | zero => exact Holds.halt trivial
  | succ polls ih =>
      obtain ⟨xs, hcalled, hout⟩ := hbuffered
      have hparams : ([] : List Byte).length ≤ 135 := Nat.zero_le 135
      rw [runDrain, ezspPollCallback_eq, bind_assoc]
      apply (ezspXfer_spoken g p hcalled (by decide) hparams 64
        fun h => absurd h (by decide)).seq
      rintro _ h' ⟨x, hasks, hmore, rfl⟩
      rw [pure_bind]
      have hpayload := polled_payload x
      have hincoming (payload : List Byte) :
          polled (x.reply?.map fun reply => (reply.1, reply.2.take 64)) =
              (ezspIncomingMessageHandler, payload) ↔
            ∃ full, x.reply? = some (ezspIncomingMessageHandler, full) ∧
              payload = full.take 64 :=
        polled_reply_iff (by decide) payload
      generalize polled _ = reply at hpayload hincoming
      obtain ⟨id, payload⟩ := reply
      obtain rfl : payload = x.payload := hpayload
      have hbuffer :
          runBuffer out₀ (xs ++ [x]) = overwrite out 0 x.payload := by
        rw [runBuffer_append, hout]
        exact if_pos (Or.inr hasks.frameId)
      have hcallback : Holds (unicastRule c out₀) h'
          (runCallback g p { r with seq := r.seq + 1 } id
            (overwrite out 0 x.payload) : Host σ Router) fun r' h'' =>
            Buffered out₀ (overwrite out 0 x.payload) r' h'' := by
        rw [runCallback]
        split
        · rename_i hid
          obtain ⟨full, hreply, -⟩ := (hincoming x.payload).mp (by rw [hid])
          refine zclHandleIncoming_spoken g p hmore ⟨x, ?_, hasks, ?_⟩ hbuffer
          · exact List.getLast?_concat
          · rw [hreply]
            rfl
        split
        · exact Holds.pure ⟨xs ++ [x], hmore.congr rfl, hbuffer⟩
        · exact Holds.pure ⟨xs ++ [x], hmore, hbuffer⟩
      dsimp only
      apply hcallback.seq
      intro r' h'' hbuffered'
      split
      · exact Holds.pure hbuffered'
      · exact ih hbuffered'

theorem runPasses_spoken (polls passes : ℕ) {st : Running}
    (hbuffered : Buffered out₀ st.out st.router h) :
    Holds (unicastRule c out₀) h
      (runPasses g c p polls passes st : Host σ Running) fun _ _ => True := by
  have hrequests : ∀ id ∈ Conduct.requestIds, IsAside id := by decide
  induction passes generalizing st h with
  | zero => exact Holds.pure trivial
  | succ passes ih =>
      have hpass := (conduct_unicasts (σ := σ) g p c out₀ st.out).runPass_of
        (fun id hid _ => hrequests id hid) c polls st (Q := fun st' h' =>
          Buffered out₀ st'.out st'.router h') ?_ hbuffered
      · exact hpass.seq fun st' h' hbuffered' => ih hbuffered'
      intro r h hbuffered
      apply (runDrain_spoken g p polls hbuffered).seq
      rintro ⟨r', out'⟩ h' hbuffered'
      have hI := conduct_unicasts (σ := σ) g p c out₀ out'
      apply (hI.runReport_of c { st with router := r', out := out' }
        (fun hreports => zclReport_spoken g p hreports r') hbuffered').mono
      rintro st' h'' ⟨hbuffered'', hsame⟩
      rw [hsame]
      exact hbuffered''

theorem runNetwork_spoken (hbuffered : Buffered out₀ out r h)
    (nextReport : Int) :
    Holds (unicastRule c out₀) h (runNetwork g p r out nextReport : Host σ _)
      fun st h' => ∀ st' ∈ st, Buffered out₀ st'.out st'.router h' := by
  obtain ⟨xs, hcalled, hout⟩ := hbuffered
  have hlisten {r : Router} {out : List Byte} {h : List HostEvent}
      (hbuffered : Buffered out₀ out r h) : Holds (unicastRule c out₀) h
        (runListen r out nextReport : Host σ _) fun st h' =>
          ∀ st' ∈ st, Buffered out₀ st'.out st'.router h' := by
    have hI := conduct_unicasts (σ := σ) g p c out₀ out
    apply (hI.call .controlListen (fun _ => trivial) r h hbuffered).seq
    intro fd h' hbuffered'
    apply Holds.pure
    rintro _ ⟨⟩
    exact hbuffered'
  have hinit : Holds (unicastRule c out₀) h
      (ezspCmd g p r ezspNetworkInit [] 64 : Host σ _) fun a h' =>
        Buffered out₀ (overwrite out 0 (a.2.getD [])) a.1 h' := by
    have hparams : ([] : List Byte).length ≤ 135 := Nat.zero_le 135
    apply (ezspXfer_spoken g p hcalled (by decide) hparams 64 fun h =>
      absurd h (by decide)).seq
    rintro _ _ ⟨x, hasks, hmore, rfl⟩
    refine Holds.pure ⟨xs ++ [x], hmore, ?_⟩
    rw [runBuffer_append, hout, Option.map_map]
    exact if_pos (Or.inl hasks.frameId)
  apply hinit.seq
  rintro ⟨r', reply⟩ h' hbuffered
  dsimp only
  split
  · have hI := conduct_unicasts (σ := σ) g p c out₀
      (overwrite out 0 (reply.getD []))
    apply (hI.ezspCmd (by decide) r' (by decide) 8 h' hbuffered).seq
    intro answer h'' hbuffered'
    rw [pure_bind]
    exact hlisten hbuffered'
  · rw [pure_bind]
    exact hlisten hbuffered

theorem opens_unicasts (c : RouterCfg) (out : List Byte) (r : Router) :
    Opens σ (unicastRule c out) (Buffered out out) g c p r := by
  have haside : IsAside ezspVersion := by decide
  refine (conduct_unicasts g p c out out).opens (fun _ => haside)
    (fun hbuffered hseq => hbuffered.congr hseq) ?_ ?_
  · intro r h hbuffered
    have hnote : Buffered out out r (h ++ [.note .reset]) :=
      hbuffered.quiet fun e he => List.mem_singleton.mp he ▸ isQuiet_note _
    apply Holds.bind
    apply Holds.note (unicastRule_of_none rfl)
    apply ((ncpReset_emits p).appends (fun h' e he =>
      unicastRule_of_none (attemptOf_of_isGpio he)) fun _ => trivial).mono
    rintro _ _ ⟨t, ht, rfl⟩
    exact hnote.quiet fun e he => (ht e he).isQuiet
  · intro h hh
    refine ⟨[], ?_, rfl⟩
    rw [← List.nil_append h]
    exact (Called.start r).quiet fun e he => (hh e he).isQuiet.1

/-- Whatever the surroundings answer, the daemon does not say anything unasked
but for the report, if it is configured.  A unicast of any other kind goes to
the sender of the message that the poll just before has brought, with the
sequence number of the message and records for its attributes. -/
theorem cmdRun_speaks_when_spoken_to (c : RouterCfg) (polls passes : ℕ)
    (out : List Byte) (r : Router) (s : σ) :
    Along (unicastRule c out) []
      (cmdRun g c p polls passes out r s).trace := by
  have hI := conduct_unicasts (σ := σ) g p c out out
  have happlies : Applies fun frameId _ => IsAside frameId :=
    ⟨fun _ _ => by decide, by decide⟩
  have hrun : Holds (unicastRule c out) []
      (cmdRun g c p polls passes out r : Host σ ℕ) fun _ _ => True := by
    apply (runStart_of (opens_unicasts g p c out r) hI happlies
      (fun _ => by decide) out fun nextReport hbuffered =>
        runNetwork_spoken g p hbuffered nextReport).seq
    intro st h hstarted
    cases st with
    | none => exact Holds.pure trivial
    | some st =>
        apply (runPasses_spoken g p polls passes (hstarted st rfl)).seq
        exact fun _ _ _ => Holds.pure trivial
  exact (hrun s).1

end Application

end EzspSpi
