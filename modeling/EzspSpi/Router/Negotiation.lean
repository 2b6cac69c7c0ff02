import EzspSpi.Router.Codec
import EzspSpi.Router.Parts

/-!
# Agreeing on a version

`ezsp_init` asks for a version in the layout of version 4.  If the NCP answers
with another one it is reset and asked for that one, and then either the two
agree or the negotiation has failed.
-/

namespace EzspSpi

open Program

variable {σ : Type} [Kernel σ] (g : Globals) (p : Pins)

/-! ## The rounds of a negotiation -/

/-- The version in an answer that `ezsp_init` accepts, which is one with at
least three bytes after the header. -/
def answeredVersion (x : Exchange) : Option Byte :=
  x.frame?.bind fun frame => if frame.length < 6 then none else frame[3]?

/-- One version command that asks for `want`, answered in `x`, with no reset of
the NCP. -/
def Asked (seq want : Byte) (x : Exchange) (t : List HostEvent) : Prop :=
  Commanded (ezspTx 4 seq ezspVersion [want]) x t ∧
    ∀ e ∈ t, e ≠ .note .reset

/-- `ncp_reset`: nRESET goes low and high again. -/
def IsReset (p : Pins) (t : List HostEvent) : Prop :=
  ∃ before between after, (∀ e ∈ before ++ between ++ after, IsGpio e) ∧
    t = .note .reset :: before ++ lineSet p.reset false :: between ++
      lineSet p.reset true :: after

/-- The trace of a negotiation that starts with `want`, the version asked for
last, and the exchange that answered. -/
inductive Negotiated (p : Pins) (seq want : Byte) :
    List HostEvent → Byte → Exchange → Prop where
  | once {t : List HostEvent} {x : Exchange} (hasked : Asked seq want x t)
      (hanswer : ∀ v, answeredVersion x = some v → v = want) :
      Negotiated p seq want t want x
  | again {t reset t' : List HostEvent} {x y : Exchange} {v : Byte}
      (hasked : Asked seq want x t) (hanswer : answeredVersion x = some v)
      (hv : v ≠ want) (hreset : IsReset p reset)
      (hasked' : Asked (seq + 1) v y t') :
      Negotiated p seq want (t ++ reset ++ t') v y

/-! ## One round -/

/-- What `ezsp_init` has of an answer. -/
def answerOf (x : Exchange) : List Byte :=
  ((x.frame?.bind (unwrapReply 4 8)).map Prod.snd).getD []

theorem answeredVersion_of_short {x : Exchange}
    (hshort : (answerOf x).length < 3) : answeredVersion x = none := by
  rw [answeredVersion]
  rw [answerOf] at hshort
  cases hframe : x.frame? with
  | none => rfl
  | some frame =>
      have hlayout : ezspLayout ((4 : ℕ) : Int) = (3, 2) := rfl
      rw [hframe, Option.bind_some, unwrapReply, hlayout] at hshort
      rw [Option.bind_some, if_pos]
      by_cases hheader : frame.length < 3
      · omega
      · rw [if_neg hheader] at hshort
        simp only [Option.map_some, Option.getD_some, List.length_take,
          List.length_drop] at hshort
        omega

theorem answeredVersion_of_long {x : Exchange}
    (hlong : ¬(answerOf x).length < 3) :
    answeredVersion x = some ((answerOf x).getD 0 0) := by
  rw [answerOf] at hlong ⊢
  rw [answeredVersion]
  cases hframe : x.frame? with
  | none =>
      rw [hframe] at hlong
      exact absurd (Nat.succ_pos 2) hlong
  | some frame =>
      have hlayout : ezspLayout ((4 : ℕ) : Int) = (3, 2) := rfl
      rw [hframe, Option.bind_some, unwrapReply, hlayout] at hlong
      rw [Option.bind_some, Option.bind_some, unwrapReply, hlayout]
      by_cases hheader : frame.length < 3
      · rw [if_pos hheader] at hlong
        exact absurd (Nat.succ_pos 2) hlong
      · rw [if_neg hheader] at hlong ⊢
        simp only [Option.map_some, Option.getD_some, List.length_take,
          List.length_drop] at hlong
        have hversion : 3 < frame.length := by omega
        have hpayload : ¬frame.length < 6 := by omega
        rw [if_neg hpayload, List.getElem?_eq_getElem hversion]
        simp [hversion]

private theorem call_ne_reset (c : Call) (r : host.Resp c) :
    (.call c r : HostEvent) ≠ .note .reset := by
  intro h
  cases h

private theorem askVersion_holds (r : Router) (want : Byte)
    (h : List HostEvent) :
    Holds anyRun h (askVersion g p r want : Host σ _) fun out h' =>
      ∃ t x, h' = h ++ t ∧ Asked r.seq want x t ∧
        out.1 = { r with ezspVersion := 4, seq := r.seq + 1 } ∧
        out.2.getD [] = answerOf x := by
  have hparams : [want].length ≤ 135 := by simp
  have hasked : Holds anyRun h (askVersion g p r want : Host σ _) fun out h' =>
      ∃ t x, h' = h ++ t ∧
        Commanded (ezspTx 4 r.seq ezspVersion [want]) x t ∧
        out.1 = { r with ezspVersion := 4, seq := r.seq + 1 } ∧
        out.2.getD [] = answerOf x := by
    apply (ezspCmd_holds g p (fun _ => trivial) anyRun_bus
      { r with ezspVersion := 4 } ezspVersion hparams 8
      fun _ _ _ => trivial).mono
    rintro _ _ ⟨t, x, rfl, hcommanded, rfl⟩
    exact ⟨t, x, rfl, hcommanded, rfl, rfl⟩
  have hparts : BusParts (fun (α : Type) (m : Host σ α) =>
      Emits (fun e : HostEvent => e ≠ .note .reset) m) fun _ => True :=
    emits_busParts (fun c _ r => call_ne_reset c r)
      (fun _ _ r => call_ne_reset _ r) fun _ _ _ r => call_ne_reset _ r
  have hemits : Emits (fun e : HostEvent => e ≠ .note .reset)
      (askVersion g p r want : Host σ _) :=
    hparts.txnParts.askVersion g p (fun _ _ => trivial) r want
  apply (hasked.emitting hemits).mono
  rintro out _ ⟨⟨t, x, rfl, hcommanded, hout⟩, t', hno, heq⟩
  obtain rfl := List.append_cancel_left heq
  exact ⟨t, x, rfl, ⟨hcommanded, hno⟩, hout⟩

private theorem commandReset_holds (h : List HostEvent) :
    Holds anyRun h (commandReset p : Host σ Unit) fun _ h' =>
      ∃ t, h' = h ++ t ∧ IsReset p t := by
  have hline {m : Host σ Unit} (hm : Emits IsGpio m) (h : List HostEvent) :
      Holds anyRun h m fun _ h' => ∃ t, (∀ e ∈ t, IsGpio e) ∧ h' = h ++ t :=
    hm.appends (fun _ _ _ => trivial) fun _ => trivial
  have hset (fd : Int) (level : Bool) (h : List HostEvent) :
      Holds anyRun h (gpioSet fd level : Host σ Unit) fun _ h' =>
        h' = h ++ [lineSet fd level] := gpioSet_holds anyRun_bus fd level
  have hwait : Emits IsGpio
      (discard (gpioWaitFalling p.hint 2000) : Host σ Unit) :=
    (gpioWaitFalling_emits _ _).bind fun _ => Emits.pure
  rw [commandReset, ncpReset]
  apply Holds.bind
  apply Holds.note trivial
  apply (hset _ _ _).seq
  rintro _ _ rfl
  apply (hset _ _ _).seq
  rintro _ _ rfl
  apply (hline (gpioDrainEvents_emits p.hint).onlyIf _).seq
  rintro _ _ ⟨between, hbetween, rfl⟩
  apply (hset _ _ _).seq
  rintro _ _ rfl
  apply (hline hwait.onlyIf _).mono
  rintro _ _ ⟨after, hafter, rfl⟩
  refine ⟨_, ?_, [lineSet p.wake true], between, after, ?_, rfl⟩
  · simp only [List.append_assoc, List.cons_append, List.nil_append]
  · intro e he
    simp only [List.mem_append, List.mem_singleton] at he
    rcases he with (rfl | he) | he
    · trivial
    · exact hbetween e he
    · exact hafter e he

/-! ## Both rounds -/

/-- The version that `ezsp_init` returns, and leaves behind, is the one asked
for last and answered, unless that is too new. -/
private structure Concludes (out : Router × Option ℕ) (asked : Byte)
    (x : Exchange) : Prop where
  agreed : ∀ v, out.2 = some v → v ≤ 8 ∧ out.1.ezspVersion = v ∧
    asked.toNat = v ∧ answeredVersion x = some asked
  failed : out.2 = none → answeredVersion x = some asked → 8 < asked.toNat

private theorem concludes_none {r : Router} {asked : Byte} {x : Exchange}
    (hx : answeredVersion x ≠ some asked) :
    Concludes (r, none) asked x where
  agreed _ h := by cases h
  failed _ h := absurd h hx

private theorem concludes_agree (r : Router) {out : List Byte} {asked : Byte}
    {x : Exchange} (hx : answeredVersion x = some asked)
    (hout : out.getD 0 0 = asked) :
    Concludes (agreeVersion r out) asked x := by
  rw [agreeVersion, hout]
  by_cases hnew : asked.toNat > 8
  · rw [if_pos hnew]
    constructor
    · intro v hv
      cases hv
    · exact fun _ _ => hnew
  · rw [if_neg hnew]
    constructor
    · intro v hv
      cases hv
      exact ⟨not_lt.mp hnew, rfl, rfl, hx⟩
    · intro hnone
      cases hnone

private theorem ezspInit_holds (c : RouterCfg) (r : Router) :
    Holds anyRun [] (ezspInit g p c r : Host σ _) fun out t =>
      ∃ asked x, Negotiated p r.seq (c.ezspWant.setWidth 8) t asked x ∧
        Concludes out asked x := by
  rw [ezspInit]
  dsimp only
  generalize c.ezspWant.setWidth 8 = want
  apply (askVersion_holds g p r want []).seq
  rintro ⟨r₁, reply⟩ t ⟨_, x, rfl, hasked, rfl, hreply⟩
  dsimp only at hreply ⊢
  rw [hreply]
  by_cases hshort : (answerOf x).length < 3
  · have hnone := answeredVersion_of_short hshort
    rw [if_pos hshort]
    apply Holds.pure
    refine ⟨want, x, .once hasked ?_, concludes_none ?_⟩
    · simp [hnone]
    · simp [hnone]
  have hanswer := answeredVersion_of_long hshort
  rw [if_neg hshort]
  by_cases hdiffers : (answerOf x).getD 0 0 ≠ want
  · rw [if_pos hdiffers]
    apply (commandReset_holds p t).seq
    rintro _ _ ⟨reset, rfl, hreset⟩
    apply (askVersion_holds g p _ _ _).seq
    rintro ⟨r₂, reply'⟩ _ ⟨t', y, rfl, hasked', rfl, hreply'⟩
    have hagain := Negotiated.again hasked hanswer hdiffers hreset hasked'
    dsimp only at hreply' ⊢
    rw [hreply']
    by_cases hfailed : (answerOf y).length < 3 ∨
        (answerOf y).getD 0 0 ≠ (answerOf x).getD 0 0
    · rw [if_pos hfailed]
      apply Holds.pure
      refine ⟨_, y, hagain, concludes_none ?_⟩
      rcases hfailed with hshort' | hother
      · simp [answeredVersion_of_short hshort']
      · by_cases hshort' : (answerOf y).length < 3
        · simp [answeredVersion_of_short hshort']
        · rw [answeredVersion_of_long hshort']
          exact fun h => hother (Option.some.inj h)
    · obtain ⟨hlong', hsame⟩ := not_or.mp hfailed
      rw [if_neg hfailed]
      apply Holds.pure
      refine ⟨_, y, hagain, concludes_agree _ ?_ (not_not.mp hsame)⟩
      rw [answeredVersion_of_long hlong', not_not.mp hsame]
  · have hsame := not_not.mp hdiffers
    rw [if_neg hdiffers]
    apply Holds.pure
    refine ⟨want, x, .once hasked ?_, concludes_agree _ ?_ hsame⟩
    · intro v hv
      exact (Option.some.inj (hanswer.symm.trans hv)).symm.trans hsame
    · rw [hanswer, hsame]

/-! ## Runs that do not return -/

/-- The calls that end the process or never return: a failed ioctl, and a wait
for an edge without a final answer. -/
def HaltingCall : Halt → HostEvent → Prop
  | .exit, e => ioctlFailed e = true
  | .stuck, .call (.gpioWaitEdges _ _) rounds =>
      ∀ round ∈ rounds, round = .interrupted ∨ round = .rising
  | _, _ => False

private theorem haltingCall_iff (why : Halt) (e : HostEvent) :
    HaltingCall why e ↔ busFate e = some why := by
  cases e with
  | note n => cases why <;> simp [HaltingCall, ioctlFailed, busFate]
  | call c r =>
      cases c with
      | spiTransfer tx keepRx keepCs =>
          cases r <;> cases why <;> simp [HaltingCall, ioctlFailed, busFate]
      | gpioSetValue fd value =>
          cases r <;> cases why <;> simp [HaltingCall, ioctlFailed, busFate]
      | gpioWaitEdges fd timeoutMs =>
          by_cases hr : Endless r
          · cases why with
            | stuck => exact iff_of_true hr (if_pos hr)
            | _ => simp [HaltingCall, ioctlFailed, busFate, hr]
          · cases why with
            | stuck => exact iff_of_false hr (by simp [busFate, hr])
            | _ => simp [HaltingCall, ioctlFailed, busFate, hr]
      | _ => cases why <;> simp [HaltingCall, ioctlFailed, busFate]

/-! ## Convergence -/

/-- A command is a version command in the layout of version 4. -/
def AsksVersion : HostEvent → Prop
  | .call (.spiTransfer tx false _) _ =>
      ∃ seq want, tx = ezspTx 4 seq ezspVersion [want]
  | _ => True

theorem asksVersion_busParts :
    BusParts (fun (α : Type) (m : Host σ α) => Emits AsksVersion m)
      fun tx => ∃ seq want, tx = ezspTx 4 seq ezspVersion [want] := by
  apply emits_busParts
  · intro c hline r
    cases c with
    | spiTransfer tx keepRx keepCs => exact hline.elim
    | _ => trivial
  · exact fun _ _ _ => trivial
  · exact fun _ _ htx _ => htx

/-- A negotiation converges or fails.  A run of `ezsp_init` that returns asks
once, or twice with a reset between exactly if the first answer differs from
the version asked for.  A version that it returns is at most 8, is the one left
behind, and was asked for last and answered; where it returns none, the last
answer was another one or too new.  Only a failed ioctl, or a wait without end,
keeps it from returning.  All commands have the layout of version 4. -/
theorem ezspInit_converges (c : RouterCfg) (r : Router) (s : σ) :
    (∀ r' ver, (ezspInit g p c r s).outcome = .done (r', ver) →
      ∃ asked x, Negotiated p r.seq (c.ezspWant.setWidth 8)
          (ezspInit g p c r s).trace asked x ∧
        (∀ v, ver = some v → v ≤ 8 ∧ r'.ezspVersion = v ∧ asked.toNat = v ∧
          answeredVersion x = some asked) ∧
        (ver = none → answeredVersion x = some asked → 8 < asked.toNat)) ∧
    (∀ why, (ezspInit g p c r s).outcome = .halt why ↔
      ∃ e ∈ (ezspInit g p c r s).trace, HaltingCall why e) ∧
    ∀ e ∈ (ezspInit g p c r s).trace, AsksVersion e := by
  refine ⟨?_, ?_, ?_⟩
  · intro r' ver hdone
    obtain ⟨asked, x, hnegotiated, hconcludes⟩ :=
      (ezspInit_holds g p c r s).2.1 _ hdone
    exact ⟨asked, x, hnegotiated, hconcludes.agreed, hconcludes.failed⟩
  · intro why
    have hparts : TxnParts (fun (α : Type) (m : Host σ α) =>
        HaltsFrom busFate nothingLeft m) fun _ => True :=
      txnParts_haltsFrom (fun _ _ _ => id) (fun _ _ _ _ => rfl)
        fun _ _ _ => rfl
    simp only [haltingCall_iff]
    exact (hparts.ezspInit g p (fun _ _ => trivial) (HaltsFrom.note rfl) c
      r).halts_iff s why
  · intro e he
    have hemits := asksVersion_busParts.txnParts.ezspInit (σ := σ) g p
      (fun seq want => ⟨seq, want, rfl⟩) (Emits.note trivial) c r
    exact hemits.of_mem he

end EzspSpi
