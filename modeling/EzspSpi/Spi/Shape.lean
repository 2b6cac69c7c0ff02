import EzspSpi.Spi.Transaction

/-!
# What one transaction does on the wires

Every completed run of `spi_txn_framed` has one of two shapes: the NCP stayed
silent through the wait states, or it answered after some of them and the rest
of the response followed.  The shapes fix every event, so the framing, the
chip select and the relayed bytes are all read off them.
-/

namespace EzspSpi

open Program

variable {σ : Type} [Kernel σ]

/-! ## Wire events -/

/-- A completed transfer and the bytes received with it. -/
def transferred (tx : List Byte) (keepRx keepCs : Bool)
    (rx : List.Vector Byte tx.length) : HostEvent :=
  .call (.spiTransfer tx keepRx keepCs) (some rx)

/-- One idle byte clocked, with the byte that came back. -/
def idleByte (keepCs : Bool) (b : Byte) : HostEvent :=
  transferred [spiIdle] true keepCs ⟨[b], rfl⟩

def lineSet (fd : Int) (level : Bool) : HostEvent :=
  .call (.gpioSetValue fd level) true

/-- The line changes of `cs_assert` and `cs_release`. -/
def csEvents (g : Globals) (p : Pins) (level : Bool) : List HostEvent :=
  (if 0 ≤ p.cs then [lineSet p.cs level] else []) ++
    (if 0 ≤ p.nsselInt ∧ g.csFollows = true then [lineSet p.nsselInt level]
      else [])

/-- The transfer of the command itself, which has no receive buffer. -/
def IsCommand (tx : List Byte) (t : List HostEvent) : Prop :=
  (tx = [] ∧ t = []) ∨ (tx ≠ [] ∧ ∃ rx, t = [transferred tx false true rx])

/-- An ioctl that failed. -/
def ioctlFailed : HostEvent → Bool
  | .call (.spiTransfer _ _ _) none => true
  | .call (.gpioSetValue _ _) false => true
  | _ => false

/-- Contracts that leave the bus to the transaction layer: it may drive lines
and clock idle bytes at any time, and end at a failed ioctl. -/
structure Bus (C : Contract host) : Prop where
  gpio : ∀ h e, IsGpio e → C.event h e
  idle : ∀ h n keepCs rx,
    C.event h (.call (.spiTransfer (List.replicate n spiIdle) true keepCs) rx)
  failed : ∀ h, (∃ e ∈ h, ioctlFailed e = true) → C.halt h

/-- The only way out of a transaction other than its end: a failed ioctl. -/
def haltsOnFailure : Contract host where
  event _ _ := True
  halt h := ∃ e ∈ h, ioctlFailed e = true

theorem haltsOnFailure_bus : Bus haltsOnFailure where
  gpio _ _ _ := trivial
  idle _ _ _ _ := trivial
  failed _ hfailed := hfailed

/-- Nothing is asked of a run but its postcondition. -/
def anyRun : Contract host where
  event _ _ := True
  halt _ := True

theorem anyRun_bus : Bus anyRun where
  gpio _ _ _ := trivial
  idle _ _ _ _ := trivial
  failed _ _ := trivial

/-! ## Shapes -/

/-- `responseHead` by response type, with what it reads. -/
inductive HeadRun (b : Byte) (rxlen : ℕ) :
    List Byte × ℕ → List HostEvent → Prop where
  | framed (len : Byte) (hb : b = spiCmdEzspFrame) (hlen : 1 < rxlen) :
      HeadRun b rxlen ([b, len], len.toNat + 1) [idleByte true len]
  | unframed (hb : b = spiCmdEzspFrame) (hlen : ¬1 < rxlen) :
      HeadRun b rxlen ([b], 1) []
  | error (hb : b ≠ spiCmdEzspFrame) (herr : b ≤ spiErrUnsupported) :
      HeadRun b rxlen ([b], 2) []
  | other (hb : b ≠ spiCmdEzspFrame) (herr : ¬b ≤ spiErrUnsupported) :
      HeadRun b rxlen ([b], 1) []

/-- `responseTail`, with the bytes it reads. -/
inductive TailRun (p : Pins) (remain : ℕ) :
    List Byte → List HostEvent → Prop where
  | rest (hremain : remain ≠ 0)
      (rx : List.Vector Byte (List.replicate remain spiIdle).length) :
      TailRun p remain rx.toList
        [transferred (List.replicate remain spiIdle) true (decide (0 ≤ p.cs)) rx]
  | kernelRelease (b : Byte) (hremain : remain = 0) (hcs : p.cs < 0) :
      TailRun p remain [] [idleByte false b]
  | nothing (hremain : remain = 0) (hcs : ¬p.cs < 0) : TailRun p remain [] []

/-- A completed transaction: its result and its events. -/
inductive TxnRun (g : Globals) (p : Pins) (tx : List Byte) (rxlen : ℕ) :
    ℕ × List Byte → List HostEvent → Prop where
  | silentHost (cmd : List HostEvent) (hcmd : IsCommand tx cmd)
      (hcs : 0 ≤ p.cs) :
      TxnRun g p tx rxlen (0, rxBuffer [] rxlen)
        (csEvents g p false ++ cmd ++
          List.replicate g.cfg.waitBytes (idleByte true spiIdle) ++
          csEvents g p true)
  | silentKernel (cmd : List HostEvent) (hcmd : IsCommand tx cmd)
      (hcs : ¬0 ≤ p.cs) (b : Byte) :
      TxnRun g p tx rxlen (0, rxBuffer [] rxlen)
        (csEvents g p false ++ cmd ++
          List.replicate g.cfg.waitBytes (idleByte true spiIdle) ++
          [idleByte false b])
  | answered (cmd : List HostEvent) (hcmd : IsCommand tx cmd)
      (k : ℕ) (hk : k < g.cfg.waitBytes) (b : Byte) (hb : b ≠ spiIdle)
      (head tail : List Byte) (remain : ℕ) (th tt : List HostEvent)
      (hhead : HeadRun b rxlen (head, remain) th)
      (htail : TailRun p (min (min remain (rxlen - head.length)) 260) tail tt) :
      TxnRun g p tx rxlen
        ((head ++ tail).length, rxBuffer (head ++ tail) rxlen)
        (csEvents g p false ++ cmd ++
          (List.replicate k (idleByte true spiIdle) ++ [idleByte true b]) ++
          th ++ tt ++ csEvents g p true)

/-! ## One lemma for each function -/

section Specifications

variable {C : Contract host} (hC : Bus C) {h : List HostEvent}

include hC

theorem gpioSet_holds (fd : Int) (level : Bool) :
    Holds C h (gpioSet fd level : Host σ Unit)
      fun _ h' => h' = h ++ [lineSet fd level] := by
  apply Holds.bind
  have hset (ok : Bool) : C.event h (.call (.gpioSetValue fd level) ok) :=
    hC.gpio h _ trivial
  apply Holds.call hset
  intro ok
  cases ok with
  | true => exact Holds.pure rfl
  | false => exact Holds.halt (hC.failed _ ⟨_, List.mem_concat_self, rfl⟩)

theorem spiRaw_holds (tx : List Byte) (keepRx keepCs : Bool)
    (htx : ∀ rx, C.event h (.call (.spiTransfer tx keepRx keepCs) rx)) :
    Holds C h (spiRaw tx keepRx keepCs : Host σ (List Byte))
      fun out h' => ∃ rx : List.Vector Byte tx.length, out = rx.toList ∧
        h' = h ++ [transferred tx keepRx keepCs rx] := by
  apply Holds.bind
  apply Holds.call htx
  intro rx
  cases rx with
  | some rx => exact Holds.pure ⟨rx, rfl, rfl⟩
  | none => exact Holds.halt (hC.failed _ ⟨_, List.mem_concat_self, rfl⟩)

theorem spiIdleByte_holds (keepCs : Bool) :
    Holds C h (spiIdleByte keepCs : Host σ Byte)
      fun b h' => h' = h ++ [idleByte keepCs b] := by
  apply (spiRaw_holds hC _ _ _ fun rx => hC.idle h 1 keepCs rx).seq
  rintro _ _ ⟨rx, rfl, rfl⟩
  obtain ⟨b, hb⟩ : ∃ b, rx.toList = [b] :=
    List.length_eq_one_iff.mp rx.toList_length
  have hrx : rx = ⟨[b], rfl⟩ := List.Vector.eq _ _ hb
  subst hrx
  exact Holds.pure rfl

private theorem releaseByte_holds :
    Holds C h (discard (spiIdleByte false) : Host σ Unit)
      fun _ h' => ∃ b, h' = h ++ [idleByte false b] := by
  apply (spiIdleByte_holds hC false).seq
  rintro b _ rfl
  exact Holds.pure ⟨b, rfl⟩

omit hC [Kernel σ] in
private theorem onlyIf_holds {c : Prop} [Decidable c]
    {m : Host σ Unit} {t : List HostEvent}
    (hm : Holds C h m fun _ h' => h' = h ++ t) :
    Holds C h (onlyIf c m) fun _ h' => h' = h ++ if c then t else [] := by
  rw [onlyIf]
  split
  · exact hm
  · exact Holds.pure (by simp)

theorem csDrive_holds (g : Globals) (p : Pins) (level : Bool) :
    Holds C h (csDrive g p level : Host σ Unit)
      fun _ h' => h' = h ++ csEvents g p level := by
  apply (onlyIf_holds (gpioSet_holds hC _ _)).seq
  rintro _ _ rfl
  apply (onlyIf_holds (gpioSet_holds hC _ _)).mono
  rintro _ _ rfl
  rw [csEvents, List.append_assoc]

theorem command_holds (tx : List Byte)
    (htx : ∀ rx, C.event h (.call (.spiTransfer tx false true) rx)) :
    Holds C h
      (onlyIf (tx ≠ []) (discard (spiRaw tx false true)) : Host σ Unit)
      fun _ h' => ∃ t, IsCommand tx t ∧ h' = h ++ t := by
  rw [onlyIf]
  split
  · rename_i hne
    apply (spiRaw_holds hC _ _ _ htx).seq
    rintro _ _ ⟨rx, rfl, rfl⟩
    exact Holds.pure ⟨_, Or.inr ⟨hne, rx, rfl⟩, rfl⟩
  · rename_i hempty
    exact Holds.pure ⟨[], Or.inl ⟨not_not.mp hempty, rfl⟩, by simp⟩

theorem waitStates_holds (rounds : ℕ) :
    ∀ h, Holds C h (waitStates rounds : Host σ Byte)
      fun b h' =>
        (b = spiIdle ∧
          h' = h ++ List.replicate rounds (idleByte true spiIdle)) ∨
        ∃ k < rounds, b ≠ spiIdle ∧
          h' = h ++ (List.replicate k (idleByte true spiIdle) ++
            [idleByte true b]) := by
  induction rounds with
  | zero =>
      intro h
      exact Holds.pure (Or.inl ⟨rfl, by simp⟩)
  | succ rounds ih =>
      intro h
      rw [waitStates]
      apply (spiIdleByte_holds hC true).seq
      rintro b _ rfl
      by_cases hb : b = spiIdle
      · rw [if_neg (not_not.mpr hb)]
        subst hb
        apply (ih _).mono
        rintro c _ (⟨rfl, rfl⟩ | ⟨k, hk, hc, rfl⟩)
        · exact Or.inl ⟨rfl, by simp [List.replicate_succ]⟩
        · have hmore : k + 1 < rounds + 1 := Nat.succ_lt_succ hk
          exact Or.inr ⟨k + 1, hmore, hc, by simp [List.replicate_succ]⟩
      · rw [if_pos hb]
        exact Holds.pure (Or.inr ⟨0, Nat.succ_pos _, hb, by simp⟩)

theorem responseHead_holds (b : Byte) (rxlen : ℕ) :
    Holds C h (responseHead b rxlen : Host σ (List Byte × ℕ))
      fun out h' => ∃ t, HeadRun b rxlen out t ∧ h' = h ++ t := by
  rw [responseHead]
  by_cases hb : b = spiCmdEzspFrame
  · rw [if_pos hb]
    by_cases hlen : 1 < rxlen
    · rw [if_pos hlen]
      apply (spiIdleByte_holds hC true).seq
      rintro len _ rfl
      exact Holds.pure ⟨_, HeadRun.framed len hb hlen, rfl⟩
    · rw [if_neg hlen]
      exact Holds.pure ⟨[], HeadRun.unframed hb hlen, by simp⟩
  · rw [if_neg hb]
    by_cases herr : b ≤ spiErrUnsupported
    · rw [if_pos herr]
      exact Holds.pure ⟨[], HeadRun.error hb herr, by simp⟩
    · rw [if_neg herr]
      exact Holds.pure ⟨[], HeadRun.other hb herr, by simp⟩

theorem responseTail_holds (p : Pins) (remain : ℕ) :
    Holds C h (responseTail p remain : Host σ (List Byte))
      fun out h' => ∃ t, TailRun p remain out t ∧ h' = h ++ t := by
  rw [responseTail]
  by_cases hremain : remain = 0
  · rw [if_neg (not_not.mpr hremain)]
    by_cases hcs : p.cs < 0
    · rw [if_pos hcs]
      apply (spiIdleByte_holds hC false).seq
      rintro b _ rfl
      exact Holds.pure ⟨_, TailRun.kernelRelease b hremain hcs, rfl⟩
    · rw [if_neg hcs]
      exact Holds.pure ⟨[], TailRun.nothing hremain hcs, by simp⟩
  · rw [if_pos hremain]
    apply (spiRaw_holds hC _ _ _ fun rx => hC.idle h remain _ rx).mono
    rintro _ _ ⟨rx, rfl, rfl⟩
    exact ⟨_, TailRun.rest hremain rx, rfl⟩

/-- Every run of `spi_txn_framed` has a shape, or ends at a failed ioctl.  Only
the command, which comes right after the chip select, is not an idle byte. -/
theorem spiTxnFramed_holds (g : Globals) (p : Pins) (tx : List Byte)
    (rxlen : ℕ)
    (htx : ∀ rx, C.event (h ++ csEvents g p false)
      (.call (.spiTransfer tx false true) rx)) :
    Holds C h (spiTxnFramed g p tx rxlen : Host σ (ℕ × List Byte))
      fun out h' => ∃ t, TxnRun g p tx rxlen out t ∧ h' = h ++ t := by
  rw [spiTxnFramed]
  apply (csDrive_holds hC g p false).seq
  rintro _ _ rfl
  apply (command_holds hC tx htx).seq
  rintro _ _ ⟨cmd, hcmd, rfl⟩
  apply (waitStates_holds hC _ _).seq
  rintro b _ (⟨rfl, rfl⟩ | ⟨k, hk, hb, rfl⟩)
  · rw [if_pos rfl]
    by_cases hcs : 0 ≤ p.cs
    · rw [if_pos hcs]
      apply (csDrive_holds hC g p true).seq
      rintro _ _ rfl
      exact Holds.pure ⟨_, TxnRun.silentHost cmd hcmd hcs, by simp⟩
    · rw [if_neg hcs]
      apply (releaseByte_holds hC).seq
      rintro _ _ ⟨b, rfl⟩
      exact Holds.pure ⟨_, TxnRun.silentKernel cmd hcmd hcs b, by simp⟩
  · rw [if_neg hb]
    apply (responseHead_holds hC b rxlen).seq
    rintro ⟨head, remain⟩ _ ⟨th, hhead, rfl⟩
    apply (responseTail_holds hC p _).seq
    rintro tail _ ⟨tt, htail, rfl⟩
    apply (csDrive_holds hC g p true).seq
    rintro _ _ rfl
    exact Holds.pure ⟨_, TxnRun.answered cmd hcmd k hk b hb head tail remain
      th tt hhead htail, by simp⟩

end Specifications

/-- A completed transaction has a shape, and one that halts has met a failed
ioctl. -/
theorem spiTxnFramed_runs (g : Globals) (p : Pins) (tx : List Byte)
    (rxlen : ℕ) (s : σ) :
    (∀ out, (spiTxnFramed g p tx rxlen s).outcome = .done out →
      TxnRun g p tx rxlen out (spiTxnFramed g p tx rxlen s).trace) ∧
    ∀ why, (spiTxnFramed g p tx rxlen s).outcome = .halt why →
      ∃ e ∈ (spiTxnFramed g p tx rxlen s).trace, ioctlFailed e = true := by
  have hspec : Holds haltsOnFailure []
      (spiTxnFramed g p tx rxlen : Host σ (ℕ × List Byte))
      fun out h' => ∃ t, TxnRun g p tx rxlen out t ∧ h' = [] ++ t :=
    spiTxnFramed_holds haltsOnFailure_bus g p tx rxlen fun _ => trivial
  obtain ⟨_, hdone, hhalt⟩ := hspec s
  constructor
  · intro out hout
    obtain ⟨t, hrun, htrace⟩ := hdone out hout
    rw [List.nil_append, List.nil_append] at htrace
    exact htrace ▸ hrun
  · exact hhalt

end EzspSpi
