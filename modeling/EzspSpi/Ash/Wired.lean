import EzspSpi.Core.Total
import EzspSpi.Ash.Relay
import EzspSpi.Host.Playback

/-!
# A bus that works

Surroundings in which the SPI device and the lines do what they are told and
the NCP clocks out whole frames.  What the NCP is besides is left open: its
state is looked at through a view, and of that only the bytes that are clocked
out next are known here.  A command that such an NCP answers brings back its
answer.
-/

namespace EzspSpi

open Program

/-- States of an NCP, with the bytes that are clocked out next. -/
class Clocking (V : Type) where
  pending : V → List Byte
  /-- The state with these bytes to be clocked out. -/
  clocking : V → List Byte → V
  pending_clocking : ∀ v bytes, pending (clocking v bytes) = bytes
  clocking_clocking : ∀ v bytes bytes',
    clocking (clocking v bytes) bytes' = clocking v bytes'

attribute [simp] Clocking.pending_clocking Clocking.clocking_clocking

open Clocking

variable {σ V : Type} [Kernel σ] (g : Globals)

/-- What is clocked out in answer to a command: wait states and one EZSP
frame. -/
def ezspResponse (waits : ℕ) (frame : List Byte) : List Byte :=
  List.replicate waits spiIdle ++
    spiCmdEzspFrame :: BitVec.ofNat 8 frame.length ::
      (frame ++ [spiFrameTerminator])

abbrev Kernel.answer (c : Call) (s : σ) : c.Resp × σ :=
  Surroundings.answer (I := host) c s

/-- An edge, the timeout or an error, after which a wait is over. -/
def EdgeWait.IsFinal (round : EdgeWait) : Prop :=
  round ≠ .interrupted ∧ round ≠ .rising

/-- A command sent in the state `s` is going to be answered with this frame,
within the wait states the host allows. -/
def Answering [Clocking V] (ncp : σ → V) (s : σ) (tx frame : List Byte)
    (after : V) : Prop :=
  (Kernel.answer (.spiTransfer tx false true) s).1 ≠ none ∧
    ∃ waits < g.cfg.waitBytes,
      ncp (Kernel.answer (.spiTransfer tx false true) s).2 =
        clocking after (ezspResponse waits frame)

/-- The lines of `p` can be driven and read, and idle bytes clock out what is
pending. -/
structure Wired [Clocking V] (p : Pins) (ncp : σ → V) : Prop where
  read : ∀ s, ncp (Kernel.answer (.gpioGetValue p.hint) s).2 = ncp s
  wake : ∀ s high, (Kernel.answer (.gpioSetValue p.wake high) s).1 = true ∧
    ncp (Kernel.answer (.gpioSetValue p.wake high) s).2 = ncp s
  /-- The chip selects that are held. -/
  select : ∀ s fd high, 0 ≤ fd → fd = p.cs ∨ fd = p.nsselInt →
    (Kernel.answer (.gpioSetValue fd high) s).1 = true ∧
      ncp (Kernel.answer (.gpioSetValue fd high) s).2 = ncp s
  drain : ∀ s, ncp (Kernel.answer (.gpioDrainEdges p.hint) s).2 = ncp s
  wait : ∀ s ms,
    (∃ round ∈ (Kernel.answer (.gpioWaitEdges p.hint ms) s).1,
      round.IsFinal) ∧
      ncp (Kernel.answer (.gpioWaitEdges p.hint ms) s).2 = ncp s
  clock : ∀ s n keepCs, n ≤ (pending (ncp s)).length →
    ((Kernel.answer (.spiTransfer (List.replicate n spiIdle) true keepCs)
      s).1.map fun rx => rx.toList) = some ((pending (ncp s)).take n) ∧
    ncp (Kernel.answer (.spiTransfer (List.replicate n spiIdle) true keepCs)
      s).2 = clocking (ncp s) ((pending (ncp s)).drop n)

/-- What an event writes to a client, with the client's descriptor. -/
def written : HostEvent → List (Int × List Byte)
  | .call (.write fd buf) _ => [(fd, buf)]
  | _ => []

/-- The NCP, and what is written to clients. -/
def busView (ncp : σ → V) : View host σ V (Int × List Byte) := ⟨ncp, written⟩

omit [Kernel σ] in
theorem note_quietly {ncp : σ → V} {v : V} (n : Note) :
    Quietly (busView ncp) v (note (I := host) n : Host σ Unit)
      fun _ v' => v' = v := Achieves.note ⟨rfl, rfl⟩

/-! ## The lines -/

private theorem gpioSet_quietly {ncp : σ → V} {v : V}
    {fd : Int} {high : Bool}
    (hset : ∀ s, (Kernel.answer (.gpioSetValue fd high) s).1 = true ∧
      ncp (Kernel.answer (.gpioSetValue fd high) s).2 = ncp s) :
    Quietly (busView ncp) v (gpioSet fd high : Host σ Unit)
      fun _ v' => v' = v := by
  have hcall : Quietly (busView ncp) v
      (call (I := host) (.gpioSetValue fd high) : Host σ Bool)
      fun ok v' => ok = true ∧ v' = v := by
    apply Quietly.call fun _ => rfl
    rintro s rfl
    exact hset s
  rw [gpioSet]
  apply hcall.seq
  rintro _ _ ⟨rfl, rfl⟩
  rw [if_pos rfl]
  exact Quietly.pure rfl

omit [Kernel σ] in
private theorem gpioWaitRounds_of_final {rounds : List EdgeWait}
    (hfinal : ∃ round ∈ rounds, round.IsFinal) :
    ∃ elapsed, (gpioWaitRounds rounds : Host σ (Option ℕ)) =
      pure elapsed := by
  induction rounds with
  | nil =>
      obtain ⟨round, hround, _⟩ := hfinal
      exact absurd hround List.not_mem_nil
  | cons round rounds ih =>
      have hlater (hround : ¬round.IsFinal) :
          ∃ round ∈ rounds, round.IsFinal := by
        obtain ⟨last, hlast, hend⟩ := hfinal
        rcases List.mem_cons.mp hlast with rfl | hlast
        · exact absurd hend hround
        · exact ⟨last, hlast, hend⟩
      cases round with
      | interrupted => exact ih (hlater fun h => h.1 rfl)
      | rising => exact ih (hlater fun h => h.2 rfl)
      | failed => exact ⟨_, rfl⟩
      | timeout => exact ⟨_, rfl⟩
      | shortRead => exact ⟨_, rfl⟩
      | falling elapsedMs => exact ⟨_, rfl⟩

/-- The length byte of a frame. -/
private theorem toNat_length {frame : List Byte} (hframe : frame.length ≤ 255) :
    (BitVec.ofNat 8 frame.length).toNat = frame.length := by
  rw [BitVec.toNat_ofNat]
  omega

/-- What is copied out of the receive buffer is the frame, cut to
`outmax`. -/
private theorem take_rxBuffer_ezspResponse {frame : List Byte}
    (hframe : frame.length ≤ 255) (outmax : ℕ) :
    ((rxBuffer (ezspResponse 0 frame) 260).drop 2).take
        (min ((rxBuffer (ezspResponse 0 frame) 260).getD 1 0).toNat outmax) =
      frame.take outmax := by
  have hheader : (rxBuffer (ezspResponse 0 frame) 260).getD 1 0 =
      BitVec.ofNat 8 frame.length := rfl
  calc ((rxBuffer (ezspResponse 0 frame) 260).drop 2).take
        (min ((rxBuffer (ezspResponse 0 frame) 260).getD 1 0).toNat outmax)
      = (frame ++ [spiFrameTerminator] ++
          List.replicate (260 - (ezspResponse 0 frame).length) 0).take
            (min frame.length outmax) := by
        rw [hheader, toNat_length hframe]
        rfl
    _ = ((frame ++ ([spiFrameTerminator] ++
          List.replicate (260 - (ezspResponse 0 frame).length) 0)).take
            frame.length).take outmax := by
        rw [List.append_assoc, List.take_take, min_comm]
    _ = frame.take outmax := by rw [List.take_left]

section Transactions

variable [Clocking V] {g} {p : Pins} {ncp : σ → V} (hncp : Wired p ncp)
  {v : V}

namespace Wired

include hncp

theorem csDrive_quietly (level : Bool) :
    Quietly (busView ncp) v (csDrive g p level : Host σ Unit)
      fun _ v' => v' = v := by
  rw [csDrive]
  apply Quietly.seq (Quietly.onlyIf fun hcs => gpioSet_quietly fun s =>
    hncp.select s p.cs level hcs (Or.inl rfl))
  rintro _ _ rfl
  exact Quietly.onlyIf fun hint => gpioSet_quietly fun s =>
    hncp.select s p.nsselInt level hint.1 (Or.inr rfl)

theorem gpioGet_quietly :
    Quietly (busView ncp) v (gpioGet p.hint : Host σ (Option Bool))
      fun _ v' => v' = v := by
  rw [gpioGet]
  apply Quietly.call fun _ => rfl
  rintro s rfl
  exact hncp.read s

theorem gpioWaitFalling_quietly (ms : ℕ) :
    Quietly (busView ncp) v (gpioWaitFalling p.hint ms :
      Host σ (Option ℕ)) fun _ v' => v' = v := by
  have hcall : Quietly (busView ncp) v
      (call (I := host) (.gpioWaitEdges p.hint ms) : Host σ (List EdgeWait))
      fun rounds v' => (∃ round ∈ rounds, round.IsFinal) ∧ v' = v := by
    apply Quietly.call fun _ => rfl
    rintro s rfl
    exact hncp.wait s ms
  rw [gpioWaitFalling]
  apply hcall.seq
  rintro rounds _ ⟨hfinal, rfl⟩
  obtain ⟨elapsed, hrounds⟩ := gpioWaitRounds_of_final (σ := σ) hfinal
  rw [hrounds]
  exact Quietly.pure rfl

theorem ncpWake_quietly :
    Quietly (busView ncp) v (ncpWake p : Host σ Unit)
      fun _ v' => v' = v := by
  have hdrain : Quietly (busView ncp) v
      (gpioDrainEvents p.hint : Host σ Unit) fun _ v' => v' = v := by
    apply Quietly.call fun _ => rfl
    rintro s rfl
    exact hncp.drain s
  rw [ncpWake]
  split
  · apply (gpioSet_quietly fun s => hncp.wake s false).seq
    rintro _ _ rfl
    exact gpioSet_quietly fun s => hncp.wake s true
  · apply hncp.gpioGet_quietly.seq
    rintro level _ rfl
    split
    · exact Quietly.pure rfl
    · apply hdrain.seq
      rintro _ _ rfl
      apply (gpioSet_quietly fun s => hncp.wake s false).seq
      rintro _ _ rfl
      apply (hncp.gpioWaitFalling_quietly 100).seq
      rintro _ _ rfl
      exact gpioSet_quietly fun s => hncp.wake s true

/-! ## Transactions -/

/-- As many idle bytes as are pending, or fewer, clock them out. -/
theorem spiRaw_quietly {n : ℕ} (hn : n ≤ (pending v).length) (keepCs : Bool) :
    Quietly (busView ncp) v
      (spiRaw (List.replicate n spiIdle) true keepCs : Host σ (List Byte))
      fun rx v' => rx = (pending v).take n ∧
        v' = clocking v ((pending v).drop n) := by
  have hcall : Quietly (busView ncp) v
      (call (I := host) (.spiTransfer (List.replicate n spiIdle) true keepCs) :
        Host σ _)
      fun rx v' => (rx.map fun got => got.toList) = some ((pending v).take n) ∧
        v' = clocking v ((pending v).drop n) := by
    apply Quietly.call fun _ => rfl
    rintro s rfl
    exact hncp.clock s n keepCs hn
  rw [spiRaw]
  apply hcall.seq
  rintro rx _ ⟨hrx, rfl⟩
  obtain ⟨got, rfl, hgot⟩ := Option.map_eq_some_iff.mp hrx
  exact Quietly.pure ⟨hgot, rfl⟩

theorem spiIdleByte_quietly {b : Byte} {rest : List Byte}
    (hpending : pending v = b :: rest) :
    Quietly (busView ncp) v (spiIdleByte true : Host σ Byte)
      fun c v' => c = b ∧ v' = clocking v rest := by
  have hone : 1 ≤ (pending v).length := by
    rw [hpending]
    exact Nat.succ_le_succ (Nat.zero_le _)
  rw [spiIdleByte]
  apply (hncp.spiRaw_quietly hone true).seq
  rintro _ _ ⟨rfl, rfl⟩
  apply Quietly.pure
  rw [hpending]
  exact ⟨rfl, rfl⟩

/-- The wait states end with the first byte that is not idle. -/
theorem waitStates_quietly {b : Byte} {rest : List Byte} (hb : b ≠ spiIdle) :
    ∀ (rounds waits : ℕ) (v : V), waits < rounds →
      pending v = List.replicate waits spiIdle ++ b :: rest →
      Quietly (busView ncp) v (waitStates rounds : Host σ Byte)
        fun c v' => c = b ∧ v' = clocking v rest := by
  intro rounds
  induction rounds with
  | zero => exact fun waits v hwaits => absurd hwaits (Nat.not_lt_zero waits)
  | succ rounds ih =>
      intro waits v hwaits hpending
      rw [waitStates]
      cases waits with
      | zero =>
          apply (hncp.spiIdleByte_quietly hpending).seq
          rintro _ _ ⟨rfl, rfl⟩
          rw [if_pos hb]
          exact Quietly.pure ⟨rfl, rfl⟩
      | succ waits =>
          rw [List.replicate_succ, List.cons_append] at hpending
          apply (hncp.spiIdleByte_quietly hpending).seq
          rintro _ _ ⟨rfl, rfl⟩
          rw [if_neg (not_not.mpr rfl)]
          apply (ih waits _ (Nat.lt_of_succ_lt_succ hwaits)
            (pending_clocking _ _)).mono
          rintro _ _ ⟨rfl, rfl⟩
          exact ⟨rfl, clocking_clocking _ _ _⟩

/-- After the first byte of an EZSP frame its length is read. -/
theorem responseHead_quietly {len : Byte} {rest : List Byte} {rxlen : ℕ}
    (hrxlen : 1 < rxlen) (hpending : pending v = len :: rest) :
    Quietly (busView ncp) v
      (responseHead spiCmdEzspFrame rxlen : Host σ (List Byte × ℕ))
      fun out v' => out = ([spiCmdEzspFrame, len], len.toNat + 1) ∧
        v' = clocking v rest := by
  rw [responseHead, if_pos rfl, if_pos hrxlen]
  apply (hncp.spiIdleByte_quietly hpending).seq
  rintro _ _ ⟨rfl, rfl⟩
  exact Quietly.pure ⟨rfl, rfl⟩

/-- The rest of a response is read to its end, whichever way the chip select
is driven. -/
theorem responseTail_quietly {remain : ℕ} (hpos : remain ≠ 0)
    (hremain : (pending v).length = remain) :
    Quietly (busView ncp) v (responseTail p remain : Host σ (List Byte))
      fun tail v' => tail = pending v ∧ v' = clocking v [] := by
  rw [responseTail, if_pos hpos]
  apply (hncp.spiRaw_quietly hremain.ge _).mono
  rintro _ _ ⟨rfl, rfl⟩
  rw [← hremain, List.take_length, List.drop_length]
  exact ⟨rfl, rfl⟩

/-- A command that the NCP answers with an EZSP frame is a transaction that
receives the frame. -/
theorem spiTxnFramed_quietly {tx frame : List Byte} {after : V}
    (htx : tx ≠ []) (hframe : frame.length ≤ 255)
    (hanswer : ∀ s, ncp s = v → Answering g ncp s tx frame after) :
    Quietly (busView ncp) v (spiTxnFramed g p tx 260 : Host σ _)
      fun out v' => out = ((ezspResponse 0 frame).length,
          rxBuffer (ezspResponse 0 frame) 260) ∧
        v' = clocking after [] := by
  have hsent : Quietly (busView ncp) v
      (onlyIf (tx ≠ []) (discard (spiRaw tx false true)) : Host σ Unit)
      fun _ v' => ∃ waits < g.cfg.waitBytes,
        v' = clocking after (ezspResponse waits frame) := by
    have hcall : Quietly (busView ncp) v
        (call (I := host) (.spiTransfer tx false true) : Host σ _)
        fun rx v' => rx ≠ none ∧ ∃ waits < g.cfg.waitBytes,
          v' = clocking after (ezspResponse waits frame) := by
      apply Quietly.call fun _ => rfl
      exact hanswer
    rw [onlyIf, if_pos htx, spiRaw]
    apply Quietly.discard (P := fun _ v' => ∃ waits < g.cfg.waitBytes,
      v' = clocking after (ezspResponse waits frame))
    · apply hcall.seq
      rintro rx v' ⟨hrx, hafter⟩
      obtain ⟨got, rfl⟩ := Option.ne_none_iff_exists'.mp hrx
      exact Quietly.pure hafter
    · exact fun _ _ hafter => hafter
  have hremain : min (min (frame.length + 1) (260 - 2)) 260 =
      frame.length + 1 := by omega
  rw [spiTxnFramed, csAssert, csRelease]
  apply (hncp.csDrive_quietly false).seq
  rintro _ _ rfl
  apply hsent.seq
  rintro _ _ ⟨waits, hwaits, rfl⟩
  apply (hncp.waitStates_quietly (b := spiCmdEzspFrame) (by decide) _ waits _
    hwaits (pending_clocking _ _)).seq
  rintro _ _ ⟨rfl, rfl⟩
  rw [clocking_clocking]
  have hnotIdle : ¬spiCmdEzspFrame = spiIdle := by decide
  rw [if_neg hnotIdle]
  apply (hncp.responseHead_quietly (by decide : 1 < 260)
    (pending_clocking _ _)).seq
  rintro _ _ ⟨rfl, rfl⟩
  rw [clocking_clocking]
  dsimp only [List.length_cons, List.length_nil]
  rw [toNat_length hframe, hremain]
  have hlength : (pending (clocking after (frame ++ [spiFrameTerminator]))).length =
      frame.length + 1 := by
    rw [pending_clocking, List.length_append]
    rfl
  apply (hncp.responseTail_quietly (Nat.succ_ne_zero _) hlength).seq
  rintro _ _ ⟨rfl, rfl⟩
  rw [pending_clocking, clocking_clocking]
  apply (hncp.csDrive_quietly true).seq
  rintro _ _ rfl
  exact Quietly.pure ⟨rfl, rfl⟩

/-- `do_cmd` takes such an answer for an EZSP frame at once. -/
theorem doCmd_quietly {tx frame : List Byte} {after : V}
    (htx : tx ≠ []) (hframe : frame.length ≤ 255)
    (hanswer : ∀ s, ncp s = v → Answering g ncp s tx frame after)
    (retryOnReset : Bool) :
    Quietly (busView ncp) v (doCmd g p tx 260 retryOnReset : Host σ _)
      fun out v' => out = (.ezsp, rxBuffer (ezspResponse 0 frame) 260) ∧
        v' = clocking after [] := by
  have hclass : (classify (rxBuffer (ezspResponse 0 frame) 260)
      (ezspResponse 0 frame).length).1 = .ezsp :=
    (classify_head (by decide) _ _ (Nat.succ_pos _)).1.mpr rfl
  have honce : Quietly (busView ncp) v (doCmdOnce g p tx 260 : Host σ _)
      fun out v' => out = (.ezsp, rxBuffer (ezspResponse 0 frame) 260) ∧
        v' = clocking after [] := by
    rw [doCmdOnce]
    apply Quietly.seq (Quietly.onlyIf fun _ => hncp.ncpWake_quietly)
    rintro _ _ rfl
    apply (hncp.spiTxnFramed_quietly htx hframe hanswer).seq
    rintro _ _ ⟨rfl, rfl⟩
    dsimp only
    rw [hclass]
    exact Quietly.pure ⟨rfl, rfl⟩
  rw [doCmd]
  apply honce.seq
  rintro _ _ ⟨rfl, rfl⟩
  have hnotReset : ¬(RspClass.ezsp = .reset ∧ retryOnReset = true) :=
    fun h => absurd h.1 (by decide)
  dsimp only
  rw [if_neg hnotReset]
  exact Quietly.pure ⟨rfl, rfl⟩

/-- A relayed frame brings back the frame that answers it, cut to
`outmax`. -/
theorem ezspRelay_quietly {ezsp frame : List Byte} {after : V}
    (hpos : ezsp ≠ []) (hlen : ezsp.length ≤ ashMaxFrame)
    (hframe : frame.length ≤ 255)
    (hanswer : ∀ s, ncp s = v →
      Answering g ncp s (ezspCommand ezsp) frame after) (outmax : ℕ) :
    Quietly (busView ncp) v
      (ezspRelay g p ezsp outmax : Host σ (Option (List Byte)))
      fun reply v' => reply = some (frame.take outmax) ∧
        v' = clocking after [] := by
  have hguard : ¬(ezsp.length = 0 ∨ ezsp.length > 255 ∨
      ezsp.length + 3 > ashMaxFrame + 8) := by
    have hnonempty : 0 < ezsp.length := List.length_pos_iff.mpr hpos
    simp only [ashMaxFrame] at hlen ⊢
    omega
  rw [ezspRelay, if_neg hguard]
  apply (hncp.doCmd_quietly (List.cons_ne_nil _ _) hframe hanswer true).seq
  rintro _ _ ⟨rfl, rfl⟩
  dsimp only
  rw [if_neg (not_not.mpr rfl), take_rxBuffer_ezspResponse hframe]
  exact Quietly.pure ⟨rfl, rfl⟩

end Wired

end Transactions

/-! ## An NCP to run against -/

/-- An NCP that answers its commands one after the other, on a bus that
works. -/
structure Responder where
  /-- The frame with which a command is answered after so many others. -/
  respond : ℕ → List Byte → List Byte
  commands : ℕ
  pending : List Byte

instance : Clocking Responder where
  pending v := v.pending
  clocking v bytes := { v with pending := bytes }
  pending_clocking _ _ := rfl
  clocking_clocking _ _ _ := rfl

instance : Kernel Responder where
  answer
    | .spiTransfer tx true _, s =>
        (some ⟨(s.pending ++ List.replicate tx.length spiIdle).take tx.length,
          by simp⟩, { s with pending := s.pending.drop tx.length })
    | .spiTransfer tx false _, s =>
        (some (List.Vector.replicate tx.length spiIdle),
          { s with
            commands := s.commands + 1
            pending := ezspResponse 0 (s.respond s.commands tx) })
    | c, s => (quietAnswer c, s)

/-- All of its calls are answered at once. -/
theorem responder_wired (p : Pins) : Wired p (id : Responder → Responder) where
  read _ := rfl
  wake _ _ := ⟨rfl, rfl⟩
  select _ _ _ _ _ := ⟨rfl, rfl⟩
  drain _ := rfl
  wait _ _ := ⟨⟨.timeout, List.mem_singleton_self _, nofun, nofun⟩, rfl⟩
  clock s n keepCs hn := by
    have hpending : n ≤ s.pending.length := hn
    refine ⟨congrArg some ?_, ?_⟩
    · change (s.pending ++ _).take (List.replicate n spiIdle).length = _
      rw [List.length_replicate, List.take_append_of_le_length hpending]
      rfl
    · change { s with pending := _ } = _
      rw [List.length_replicate]
      rfl

theorem responder_answers {g : Globals} (hwaits : 0 < g.cfg.waitBytes)
    (s : Responder) (tx : List Byte) :
    Answering g (id : Responder → Responder) s tx (s.respond s.commands tx)
      { s with commands := s.commands + 1 } :=
  ⟨nofun, 0, hwaits, rfl⟩

end EzspSpi
