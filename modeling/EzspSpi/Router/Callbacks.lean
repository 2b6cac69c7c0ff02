import EzspSpi.Router.Attributes
import EzspSpi.Router.Parts

/-!
# What a callback leads to

The loop of `cmd_run` hands a message to `zcl_handle_incoming`, which may send
one unicast, and counts the deliveries that failed.  It goes on from there
unless the process dies or gets stuck in the middle of a transaction.
-/

namespace EzspSpi

open Program

variable {σ : Type} [Kernel σ] (g : Globals) (p : Pins)

/-! ## What is sent and counted -/

/-- A callback that is counted as a failed delivery. -/
def CountsFailure (id : Byte) (out : List Byte) : Prop :=
  id = ezspMessageSentHandler ∧ out.getD 15 0 ≠ emberSuccess

instance (id : Byte) (out : List Byte) : Decidable (CountsFailure id out) :=
  inferInstanceAs (Decidable (_ ∧ _))

/-- The router after a callback: what a unicast and a look at the host name
change, and the counter. -/
structure Handled (id : Byte) (out : List Byte) (r r' : Router) : Prop where
  ezspVersion : r'.ezspVersion = r.ezspVersion
  reportCount : r'.reportCount = r.reportCount
  reportFailed : r'.reportFailed =
    if CountsFailure id out then r.reportFailed + 1 else r.reportFailed

/-- The parameters of a unicast with a Read Attributes Response. -/
def IsReadResponse (params : List Byte) : Prop := params.getD 18 0 = 0x01

instance (params : List Byte) : Decidable (IsReadResponse params) :=
  inferInstanceAs (Decidable (_ = _))

/-- Nothing is sent, or one response. -/
def SendsAtMost (r r' : Router) (t : List HostEvent) : Prop :=
  ((∀ e ∈ t, IsQuiet e) ∧ r'.seq = r.seq) ∨
    ∃ params x, IsReadResponse params ∧ r'.seq = r.seq + 1 ∧
      Commanded (ezspTx r.ezspVersion r.seq ezspSendUnicast params) x t

theorem answerRead_holds (r : Router) (m : List Byte) (h : List HostEvent) :
    Holds anyRun h (answerRead g p r m : Host σ Router) fun r' h' =>
      ∃ t, h' = h ++ t ∧ r'.ezspVersion = r.ezspVersion ∧
        r'.reportCount = r.reportCount ∧ r'.reportFailed = r.reportFailed ∧
        SendsAtMost r r' t := by
  rw [answerRead]
  apply (appendAttrs_holds (fun _ _ => trivial) (requestIds m) r
    [0x18, requestSeq m, 0x01] h).seq
  rintro ⟨r₁, resp⟩ _ ⟨t, records, rfl, ht, hr₁, _, hresp, _⟩
  obtain ⟨kept, _, hkept⟩ := appendFitting_eq
    (fun record => recordBytes record.1 record.2) 96
    [0x18, requestSeq m, 0x01] records
  have hresponse (r : Router) (dest cluster : BitVec 16) :
      IsReadResponse (unicastParams r dest cluster resp) := by
    rw [show resp = _ from hresp.trans hkept]
    rfl
  have hquiet : ∀ e ∈ t, IsQuiet e := fun e he => (ht e he).isQuiet
  dsimp only at hr₁ ⊢
  rw [respondTo]
  by_cases hlong : resp.length > 64
  · rw [zclSend, if_pos hlong, pure_bind]
    apply Holds.pure
    rw [hr₁]
    exact ⟨t, rfl, rfl, rfl, rfl, Or.inl ⟨hquiet, rfl⟩⟩
  · apply (zclSend_holds g p r₁ (le16 m 14) zclClusterBasic (not_lt.mp hlong)
      _).seq
    rintro _ _ ⟨t', x, rfl, hcommanded, rfl⟩
    apply Holds.pure
    rw [hr₁] at hcommanded ⊢
    exact ⟨t ++ t', List.append_assoc h t t', rfl, rfl, rfl, Or.inr
      ⟨_, x, hresponse _ _ _, rfl, hcommanded.after_quiet hquiet⟩⟩

theorem runCallback_holds (r : Router) (id : Byte) (out : List Byte)
    (h : List HostEvent) :
    Holds anyRun h (runCallback g p r id out : Host σ Router) fun r' h' =>
      ∃ t, h' = h ++ t ∧ Handled id out r r' ∧ SendsAtMost r r' t := by
  have hsame : Holds anyRun h (pure r : Host σ Router) fun r' h' =>
      ∃ t, h' = h ++ t ∧ r'.ezspVersion = r.ezspVersion ∧
        r'.reportCount = r.reportCount ∧ r'.reportFailed = r.reportFailed ∧
        SendsAtMost r r' t :=
    Holds.pure ⟨[], (List.append_nil h).symm, rfl, rfl, rfl,
      Or.inl ⟨fun e he => absurd he List.not_mem_nil, rfl⟩⟩
  rw [runCallback]
  by_cases hid : id = ezspIncomingMessageHandler
  · have hnone : ¬CountsFailure id out := fun hcounts =>
      absurd (hid.symm.trans hcounts.1) (by decide)
    have hincoming : Holds anyRun h
        (zclHandleIncoming g p r out : Host σ Router) fun r' h' =>
        ∃ t, h' = h ++ t ∧ r'.ezspVersion = r.ezspVersion ∧
          r'.reportCount = r.reportCount ∧ r'.reportFailed = r.reportFailed ∧
          SendsAtMost r r' t := by
      by_cases htaken : TakenForRead out
      · rw [zclHandleIncoming_of_taken g p r htaken]
        exact answerRead_holds g p r out h
      · rw [zclHandleIncoming_of_not_taken g p r htaken]
        exact hsame
    rw [if_pos hid]
    apply hincoming.mono
    rintro r' _ ⟨t, rfl, hver, hcount, hfailed, hsends⟩
    exact ⟨t, rfl, ⟨hver, hcount, by rw [if_neg hnone, hfailed]⟩, hsends⟩
  · rw [if_neg hid]
    change Holds anyRun h (if CountsFailure id out then _ else _) _
    by_cases hcounts : CountsFailure id out
    · rw [if_pos hcounts]
      apply Holds.pure
      exact ⟨[], (List.append_nil h).symm,
        ⟨rfl, rfl, (if_pos hcounts).symm⟩,
        Or.inl ⟨fun e he => absurd he List.not_mem_nil, rfl⟩⟩
    · rw [if_neg hcounts]
      apply hsame.mono
      rintro r' _ ⟨t, rfl, hver, hcount, hfailed, hsends⟩
      exact ⟨t, rfl, ⟨hver, hcount, by rw [if_neg hcounts, hfailed]⟩, hsends⟩

/-- Other callbacks are only announced. -/
theorem runCallback_other {id : Byte} (hincoming : id ≠ ezspIncomingMessageHandler)
    (hsent : id ≠ ezspMessageSentHandler) (r : Router) (out : List Byte) :
    (runCallback g p r id out : Host σ Router) = pure r := by
  rw [runCallback, if_neg hincoming, if_neg fun h => hsent h.1]

/-! ## Whether it goes on -/

/-- A call of a transaction after which there is no going on: a failed ioctl, or
a wait for an edge without end. -/
def Disturbs : HostEvent → Prop
  | .call (.spiTransfer _ _ _) none => True
  | .call (.gpioSetValue _ _) false => True
  | .call (.gpioWaitEdges _ _) rounds => ∀ round ∈ rounds, ¬round.IsFinal
  | _ => False

private theorem disturbs_iff (e : HostEvent) :
    Disturbs e ↔ busFate e ≠ none := by
  cases e with
  | note n => exact iff_of_false id fun h => h rfl
  | call c r =>
      cases c with
      | spiTransfer tx keepRx keepCs => cases r <;> simp [Disturbs, busFate]
      | gpioSetValue fd value => cases r <;> simp [Disturbs, busFate]
      | gpioWaitEdges fd timeoutMs =>
          simp [Disturbs, busFate, Endless, EdgeWait.IsFinal,
            or_iff_not_imp_left]
      | _ => exact iff_of_false id fun h => h rfl

/-- Every transaction ends unless it is disturbed. -/
theorem txnParts_ends : TxnParts (fun (α : Type) (m : Host σ α) =>
    EndsUnless Disturbs m) fun _ => True := by
  have hparts : TxnParts (fun (α : Type) (m : Host σ α) =>
      HaltsFrom busFate nothingLeft m) fun _ => True :=
    txnParts_haltsFrom (fun _ _ _ => id) (fun _ _ _ _ => rfl) fun _ _ _ => rfl
  have hends {α : Type} {m : Host σ α} (hm : HaltsFrom busFate nothingLeft m) :
      EndsUnless Disturbs m := EndsUnless.of_haltsFrom hm disturbs_iff
  exact
    { toModular := EndsUnless.modular Disturbs
      gpioSet := fun fd value => hends (hparts.gpioSet fd value)
      gpioGet := fun fd => hends (hparts.gpioGet fd)
      gpioWaitFalling := fun fd ms => hends (hparts.gpioWaitFalling fd ms)
      gpioDrainEvents := fun fd => hends (hparts.gpioDrainEvents fd)
      receiveRaw := fun tx keepCs => hends (hparts.receiveRaw tx keepCs)
      commandRaw := fun tx keepCs htx =>
        hends (hparts.commandRaw tx keepCs htx) }

theorem commandParts_ends : CommandParts (fun (α : Type) (m : Host σ α) =>
    EndsUnless Disturbs m) (fun _ => True) g p where
  toModular := EndsUnless.modular Disturbs
  routine _ _ := trivial
  xfer r _ _ payloadMax _ hparams :=
    txnParts_ends.ezspXfer g p r (by omega) trivial payloadMax

theorem radioUp_ends (c : RouterCfg) (r : Router) :
    EndsUnless Disturbs (radioUp g c p r : Host σ _) :=
  txnParts_ends.radioUp g p (fun _ _ => trivial) (EndsUnless.note not_false) c r

theorem runCallback_ends (r : Router) (id : Byte) (out : List Byte) :
    EndsUnless Disturbs (runCallback g p r id out : Host σ Router) :=
  txnParts_ends.runCallback (EndsUnless.call fun _ => not_false)
    (fun _ _ _ => trivial) g p r id out

end EzspSpi
