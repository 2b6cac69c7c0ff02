import EzspSpi.Host.Playback
import EzspSpi.Spi.Shape

/-!
# Framing of SPI transactions

A transaction reads its response to the terminator and not a byte further: the
bytes clocked are the command and then idle bytes, one for each wait state and
each byte of the response.
-/

namespace EzspSpi

open Program

variable {σ : Type} [Kernel σ]

/-- The bytes of one event that are clocked out to the NCP. -/
def mosi : HostEvent → List Byte
  | .call (.spiTransfer tx _ _) _ => tx
  | _ => []

/-- The bytes of one event that are received into a buffer. -/
def miso : HostEvent → List Byte
  | .call (.spiTransfer _ true _) (some rx) => rx.toList
  | _ => []

/-- What a trace clocks out to the NCP. -/
def mosiBytes (t : List HostEvent) : List Byte := t.flatMap mosi

/-- What a trace receives from the NCP. -/
def misoBytes (t : List HostEvent) : List Byte := t.flatMap miso

@[simp]
theorem mosiBytes_append (t t' : List HostEvent) :
    mosiBytes (t ++ t') = mosiBytes t ++ mosiBytes t' :=
  List.flatMap_append

@[simp]
theorem misoBytes_append (t t' : List HostEvent) :
    misoBytes (t ++ t') = misoBytes t ++ misoBytes t' :=
  List.flatMap_append

@[simp]
theorem mosiBytes_csEvents (g : Globals) (p : Pins) (level : Bool) :
    mosiBytes (csEvents g p level) = [] := by
  rw [csEvents, mosiBytes_append]
  split <;> split <;> rfl

@[simp]
theorem misoBytes_csEvents (g : Globals) (p : Pins) (level : Bool) :
    misoBytes (csEvents g p level) = [] := by
  rw [csEvents, misoBytes_append]
  split <;> split <;> rfl

theorem IsCommand.mosiBytes_eq {tx : List Byte} {t : List HostEvent}
    (ht : IsCommand tx t) : mosiBytes t = tx := by
  rcases ht with ⟨rfl, rfl⟩ | ⟨_, rx, rfl⟩
  · rfl
  · simp [mosiBytes, mosi, transferred]

theorem IsCommand.misoBytes_eq {tx : List Byte} {t : List HostEvent}
    (ht : IsCommand tx t) : misoBytes t = [] := by
  rcases ht with ⟨_, rfl⟩ | ⟨_, rx, rfl⟩ <;> rfl

@[simp]
theorem mosiBytes_nil : mosiBytes [] = [] := rfl

@[simp]
theorem misoBytes_nil : misoBytes [] = [] := rfl

@[simp]
theorem mosiBytes_idleByte (keepCs : Bool) (b : Byte) (t : List HostEvent) :
    mosiBytes (idleByte keepCs b :: t) = spiIdle :: mosiBytes t := rfl

@[simp]
theorem misoBytes_idleByte (keepCs : Bool) (b : Byte) (t : List HostEvent) :
    misoBytes (idleByte keepCs b :: t) = b :: misoBytes t := rfl

private theorem flatMap_replicate_singleton {α β : Type} (f : α → List β)
    {a : α} {b : β} (hf : f a = [b]) (n : ℕ) :
    (List.replicate n a).flatMap f = List.replicate n b := by
  induction n with
  | zero => rfl
  | succ n ih => simp [List.replicate_succ, hf, ih]

@[simp]
theorem mosiBytes_waits (n : ℕ) :
    mosiBytes (List.replicate n (idleByte true spiIdle)) =
      List.replicate n spiIdle :=
  flatMap_replicate_singleton mosi rfl n

@[simp]
theorem misoBytes_waits (n : ℕ) :
    misoBytes (List.replicate n (idleByte true spiIdle)) =
      List.replicate n spiIdle :=
  flatMap_replicate_singleton miso rfl n

/-! ## Responses -/

/-- A well-formed response, up to and including its terminator. -/
inductive IsResponse : List Byte → Prop where
  | frame (len : Byte) (payload : List Byte)
      (hlen : payload.length = len.toNat) :
      IsResponse ([spiCmdEzspFrame, len] ++ payload ++ [spiFrameTerminator])
  | error (code data : Byte) (hcode : code ≤ spiErrUnsupported) :
      IsResponse [code, data, spiFrameTerminator]
  | other (b : Byte) (hframe : b ≠ spiCmdEzspFrame) (hidle : b ≠ spiIdle)
      (herr : ¬b ≤ spiErrUnsupported) : IsResponse [b, spiFrameTerminator]

/-- As many bytes as the response type of the first one calls for. -/
inductive Framed : List Byte → Prop where
  | frame (len : Byte) (rest : List Byte)
      (hlen : rest.length = len.toNat + 1) :
      Framed (spiCmdEzspFrame :: len :: rest)
  | error (code a b : Byte) (hcode : code ≤ spiErrUnsupported) :
      Framed [code, a, b]
  | other (b a : Byte) (hframe : b ≠ spiCmdEzspFrame) (hidle : b ≠ spiIdle)
      (herr : ¬b ≤ spiErrUnsupported) : Framed [b, a]

theorem IsResponse.framed {R : List Byte} (hR : IsResponse R) : Framed R := by
  cases hR with
  | frame len payload hlen =>
      exact Framed.frame len (payload ++ [spiFrameTerminator]) (by simp [hlen])
  | error code data hcode => exact Framed.error code data _ hcode
  | other b hframe hidle herr => exact Framed.other b _ hframe hidle herr

private theorem not_frame_le : ¬spiCmdEzspFrame ≤ spiErrUnsupported := by
  decide

private theorem not_idle_le : ¬spiIdle ≤ spiErrUnsupported := by
  decide

theorem Framed.head_ne_idle {R : List Byte} (hR : Framed R) :
    ∃ b rest, R = b :: rest ∧ b ≠ spiIdle := by
  cases hR with
  | frame len rest hlen => exact ⟨_, _, rfl, by decide⟩
  | error code a b hcode =>
      refine ⟨_, _, rfl, ?_⟩
      rintro rfl
      exact not_idle_le hcode
  | other b a hframe hidle herr => exact ⟨_, _, rfl, hidle⟩

/-- The framing is self-delimiting: a framed response is decided by any stream
it begins. -/
theorem Framed.unique {R R' rest rest' : List Byte} (hR : Framed R)
    (hR' : Framed R') (heq : R ++ rest = R' ++ rest') : R = R' := by
  cases hR with
  | frame len body hlen =>
      cases hR' with
      | frame len' body' hlen' =>
          simp only [List.cons_append, List.cons.injEq, true_and] at heq
          obtain ⟨rfl, hbody⟩ := heq
          rw [(List.append_inj hbody (by rw [hlen, hlen'])).1]
      | error code a b hcode =>
          simp only [List.cons_append, List.cons.injEq] at heq
          exact absurd (heq.1 ▸ hcode) not_frame_le
      | other b a hframe _ _ =>
          simp only [List.cons_append, List.cons.injEq] at heq
          exact absurd heq.1.symm hframe
  | error code a b hcode =>
      cases hR' with
      | frame len' body' hlen' =>
          simp only [List.cons_append, List.cons.injEq] at heq
          exact absurd (heq.1 ▸ hcode) not_frame_le
      | error code' a' b' _ =>
          simp only [List.cons_append, List.cons.injEq] at heq
          obtain ⟨rfl, rfl, rfl, _⟩ := heq
          rfl
      | other b' a' _ _ herr =>
          simp only [List.cons_append, List.cons.injEq] at heq
          exact absurd (heq.1 ▸ hcode) herr
  | other b a hframe hidle herr =>
      cases hR' with
      | frame len' body' _ =>
          simp only [List.cons_append, List.cons.injEq] at heq
          exact absurd heq.1 hframe
      | error code' a' b' hcode =>
          simp only [List.cons_append, List.cons.injEq] at heq
          exact absurd (heq.1 ▸ hcode) herr
      | other b' a' _ _ _ =>
          simp only [List.cons_append, List.cons.injEq] at heq
          obtain ⟨rfl, rfl, _⟩ := heq
          rfl

/-! ## What a transaction clocks -/

/-- Bytes a shape leaves to read, and how many it reads. -/
private theorem TailRun.length_eq {p : Pins} {remain : ℕ} {tail : List Byte}
    {t : List HostEvent} (ht : TailRun p remain tail t) :
    tail.length = remain := by
  cases ht with
  | rest hremain rx => simp
  | kernelRelease b hremain hcs => exact hremain.symm
  | nothing hremain hcs => exact hremain.symm

private theorem TailRun.misoBytes_eq {p : Pins} {remain : ℕ}
    {tail : List Byte} {t : List HostEvent} (ht : TailRun p remain tail t)
    (hremain : remain ≠ 0) : misoBytes t = tail := by
  cases ht with
  | rest _ rx => simp [misoBytes, miso, transferred]
  | kernelRelease b hzero hcs => exact absurd hzero hremain
  | nothing hzero hcs => exact absurd hzero hremain

private theorem TailRun.mosiBytes_eq {p : Pins} {remain : ℕ}
    {tail : List Byte} {t : List HostEvent} (ht : TailRun p remain tail t)
    (hremain : remain ≠ 0) : mosiBytes t = List.replicate remain spiIdle := by
  cases ht with
  | rest _ rx => simp [mosiBytes, mosi, transferred]
  | kernelRelease b hzero hcs => exact absurd hzero hremain
  | nothing hzero hcs => exact absurd hzero hremain

/-- With room for the longest response the clamps never bite: what follows the
first byte is the rest of a framed response. -/
private theorem HeadRun.reads {b : Byte} {rxlen remain : ℕ}
    {head tail : List Byte} {th tt : List HostEvent} {p : Pins}
    (hrxlen : 258 ≤ rxlen) (hb : b ≠ spiIdle)
    (hhead : HeadRun b rxlen (head, remain) th)
    (htail : TailRun p (min (min remain (rxlen - head.length)) 260) tail tt) :
    Framed (head ++ tail) ∧
      misoBytes ([idleByte true b] ++ th ++ tt) = head ++ tail ∧
      mosiBytes ([idleByte true b] ++ th ++ tt) =
        List.replicate (head ++ tail).length spiIdle := by
  have hlength := htail.length_eq
  cases hhead with
  | framed len hframe hroom =>
      have hlen := len.isLt
      have hremain : min (min (len.toNat + 1) (rxlen - 2)) 260 =
          len.toNat + 1 := by omega
      simp only [List.length_cons, List.length_nil, hremain] at htail hlength
      have hmiso := htail.misoBytes_eq (Nat.succ_ne_zero _)
      have hmosi := htail.mosiBytes_eq (Nat.succ_ne_zero _)
      subst hframe
      refine ⟨Framed.frame len tail hlength, ?_, ?_⟩
      · simp [hmiso]
      · simp [hmosi, hlength, List.replicate_succ]
  | unframed hframe hroom => exact absurd (by omega) hroom
  | error hframe herr =>
      have hremain : min (min 2 (rxlen - 1)) 260 = 2 := by omega
      simp only [List.length_cons, List.length_nil, hremain] at htail hlength
      have hmiso := htail.misoBytes_eq (by omega)
      have hmosi := htail.mosiBytes_eq (by omega)
      obtain ⟨a, c, rfl⟩ := List.length_eq_two.mp hlength
      refine ⟨Framed.error b a c herr, ?_, ?_⟩
      · simp [hmiso]
      · simp [hmosi, List.replicate_succ]
  | other hframe herr =>
      have hremain : min (min 1 (rxlen - 1)) 260 = 1 := by omega
      simp only [List.length_cons, List.length_nil, hremain] at htail hlength
      have hmiso := htail.misoBytes_eq (by omega)
      have hmosi := htail.mosiBytes_eq (by omega)
      obtain ⟨a, rfl⟩ := List.length_eq_one_iff.mp hlength
      refine ⟨Framed.other b a hframe hb herr, ?_, ?_⟩
      · simp [hmiso]
      · simp [hmosi, List.replicate_succ]

/-- With a large enough receive buffer a transaction either hears nothing but
idle bytes through its wait states, or reads exactly one framed response. -/
theorem TxnRun.clocked {g : Globals} {p : Pins} {tx : List Byte} {rxlen : ℕ}
    {out : ℕ × List Byte} {t : List HostEvent} (hrxlen : 258 ≤ rxlen)
    (ht : TxnRun g p tx rxlen out t) :
    (out = (0, rxBuffer [] rxlen) ∧
      ∃ rest, misoBytes t = List.replicate g.cfg.waitBytes spiIdle ++ rest ∧
        mosiBytes t =
          tx ++ List.replicate (g.cfg.waitBytes + rest.length) spiIdle ∧
        rest.length ≤ 1) ∨
    ∃ k R, k < g.cfg.waitBytes ∧ Framed R ∧
      out = (R.length, rxBuffer R rxlen) ∧
      misoBytes t = List.replicate k spiIdle ++ R ∧
      mosiBytes t = tx ++ List.replicate (k + R.length) spiIdle := by
  cases ht with
  | silentHost cmd hcmd hcs =>
      refine Or.inl ⟨rfl, [], ?_, ?_, Nat.zero_le _⟩
      · simp [hcmd.misoBytes_eq]
      · simp [hcmd.mosiBytes_eq]
  | silentKernel cmd hcmd hcs b =>
      refine Or.inl ⟨rfl, [b], ?_, ?_, le_rfl⟩
      · simp [hcmd.misoBytes_eq]
      · simp [hcmd.mosiBytes_eq, List.replicate_add]
  | answered cmd hcmd k hk b hb head tail remain th tt hhead htail =>
      obtain ⟨hframed, hmiso, hmosi⟩ := hhead.reads hrxlen hb htail
      simp only [misoBytes_append] at hmiso
      simp only [mosiBytes_append] at hmosi
      refine Or.inr ⟨k, head ++ tail, hk, hframed, rfl, ?_, ?_⟩
      · simp only [misoBytes_append, misoBytes_csEvents, misoBytes_waits,
          hcmd.misoBytes_eq, ← hmiso]
        simp
      · simp only [mosiBytes_append, mosiBytes_csEvents, mosiBytes_waits,
          hcmd.mosiBytes_eq, List.replicate_add, ← hmosi]
        simp

/-! ## Transactions end on the terminator -/

private theorem replicate_idle_unique {k k' : ℕ} {b b' : Byte}
    {rest rest' : List Byte} (hb : b ≠ spiIdle) (hb' : b' ≠ spiIdle)
    (heq : List.replicate k spiIdle ++ b :: rest =
      List.replicate k' spiIdle ++ b' :: rest') :
    k = k' ∧ b :: rest = b' :: rest' := by
  induction k generalizing k' with
  | zero =>
      cases k' with
      | zero => exact ⟨rfl, by simpa using heq⟩
      | succ k' =>
          simp only [List.replicate_zero, List.nil_append,
            List.replicate_succ, List.cons_append, List.cons.injEq] at heq
          exact absurd heq.1 hb
  | succ k ih =>
      cases k' with
      | zero =>
          simp only [List.replicate_zero, List.nil_append,
            List.replicate_succ, List.cons_append, List.cons.injEq] at heq
          exact absurd heq.1.symm hb'
      | succ k' =>
          simp only [List.replicate_succ, List.cons_append, List.cons.injEq,
            true_and] at heq
          obtain ⟨rfl, htail⟩ := ih heq
          exact ⟨rfl, htail⟩

/-- Whatever the command and however many wait states short of the limit the
NCP takes: if no ioctl fails and the NCP clocks back idle bytes and then a
well-formed response, the transaction returns that response, has clocked the
command and one idle byte for each wait state and response byte, and nothing
after the terminator.  The stream `rest` is what the NCP would send next. -/
theorem spiTxnFramed_ends_on_terminator (g : Globals) (p : Pins)
    (tx R rest : List Byte) (k rxlen : ℕ) (s : σ)
    (hk : k < g.cfg.waitBytes) (hR : IsResponse R) (hrxlen : 258 ≤ rxlen)
    (hioctl : ∀ e ∈ (spiTxnFramed g p tx rxlen s).trace, ioctlFailed e = false)
    (hmiso : misoBytes (spiTxnFramed g p tx rxlen s).trace <+:
      List.replicate k spiIdle ++ R ++ rest) :
    (spiTxnFramed g p tx rxlen s).outcome =
        .done (R.length, R ++ List.replicate (rxlen - R.length) 0) ∧
      mosiBytes (spiTxnFramed g p tx rxlen s).trace =
        tx ++ List.replicate (k + R.length) spiIdle ∧
      misoBytes (spiTxnFramed g p tx rxlen s).trace =
        List.replicate k spiIdle ++ R := by
  obtain ⟨hdone, hhalt⟩ := spiTxnFramed_runs g p tx rxlen s
  obtain ⟨b', R', rfl, hb'⟩ := hR.framed.head_ne_idle
  cases houtcome : (spiTxnFramed g p tx rxlen s).outcome with
  | halt why =>
      obtain ⟨e, he, hfailed⟩ := hhalt why houtcome
      exact absurd hfailed (by simp [hioctl e he])
  | done out =>
      have hrun := hdone out houtcome
      obtain ⟨later, hlater⟩ := hmiso
      rcases hrun.clocked hrxlen with
        ⟨rfl, extra, hbytes, _⟩ | ⟨k', S, hk', hS, rfl, hbytes, hclocked⟩
      · -- the wait states outlast the stream's idle bytes
        obtain ⟨d, hd⟩ := Nat.exists_eq_add_of_lt hk
        rw [hbytes, hd, show k + d + 1 = k + (1 + d) by omega,
          List.replicate_add, List.replicate_add] at hlater
        simp only [List.append_assoc, List.append_cancel_left_eq,
          List.cons_append, List.replicate_one, List.cons.injEq] at hlater
        exact absurd hlater.1.symm hb'
      · obtain ⟨c, S', rfl, hc⟩ := hS.head_ne_idle
        rw [hbytes, List.append_assoc, List.append_assoc, List.cons_append,
          List.cons_append] at hlater
        obtain ⟨rfl, hstream⟩ := replicate_idle_unique hc hb' hlater
        have heq : c :: S' = b' :: R' := hS.unique hR.framed hstream
        rw [heq] at hbytes hclocked ⊢
        exact ⟨rfl, hclocked, hbytes⟩

/-- The SPI protocol version query, answered after one wait state, with the
chip select left to the kernel. -/
theorem spiTxnFramed_ends_on_terminator_version :
    (spiTxnFramed ⟨⟨512, true⟩, true⟩ ⟨3, 4, 5, -1, 6⟩ [0x0A, 0xA7] 260
        (⟨[0xFF, 0x82, 0xA7, 0x55], [], [], []⟩ : Playback)).outcome =
        .done (2, [0x82, 0xA7] ++ List.replicate 258 0) ∧
      mosiBytes (spiTxnFramed ⟨⟨512, true⟩, true⟩ ⟨3, 4, 5, -1, 6⟩
        [0x0A, 0xA7] 260
        (⟨[0xFF, 0x82, 0xA7, 0x55], [], [], []⟩ : Playback)).trace =
        [0x0A, 0xA7] ++ List.replicate 3 spiIdle ∧
      misoBytes (spiTxnFramed ⟨⟨512, true⟩, true⟩ ⟨3, 4, 5, -1, 6⟩
        [0x0A, 0xA7] 260
        (⟨[0xFF, 0x82, 0xA7, 0x55], [], [], []⟩ : Playback)).trace =
        List.replicate 1 spiIdle ++ [0x82, 0xA7] :=
  spiTxnFramed_ends_on_terminator ⟨⟨512, true⟩, true⟩ ⟨3, 4, 5, -1, 6⟩
    [0x0A, 0xA7] [0x82, 0xA7] [0x55] 1 260 _ (by decide)
    (IsResponse.other 0x82 (by decide) (by decide) (by decide)) (by decide)
    (by decide) (by decide)

end EzspSpi
