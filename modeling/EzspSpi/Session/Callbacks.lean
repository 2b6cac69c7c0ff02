import EzspSpi.Ash.Attached
import EzspSpi.Ash.Version

/-!
# Callbacks, forwarded in order

`bridge_drain_callbacks` on an NCP with callbacks queued: it forwards the first
32 of them, each whole and once, in DATA frames with consecutive numbers, and
leaves the others queued.  Run after a client's command it comes after the
reply to that command.
-/

namespace EzspSpi

open Program

variable {σ : Type} [Kernel σ] (g : Globals)

/-- A frame that the bridge takes for a callback in the layout of a version,
and that fits into a DATA frame. -/
structure IsCallback (ver : Int) (frame : List Byte) : Prop where
  framed : (ezspLayout ver).2 < frame.length
  fits : frame.length ≤ 139
  queued : frame.getD (ezspLayout ver).2 0 ≠ ezspNoCallbacks

/-- The writes that hand these EZSP frames to the client, in DATA frames
numbered from `b.frm` on. -/
def dataWrites (b : Bridge) (frames : List (List Byte)) :
    List (Int × List Byte) :=
  frames.mapIdx fun i frame => (b.cli,
    ashEncode (ashDataFrame { b with frm := nextNumber^[i] b.frm } frame))

/-- What is sent on of a reply: all of it, or nothing if it does not fit. -/
def forwarded (resp : List Byte) : List (List Byte) :=
  if resp.length ≤ 139 then [resp] else []

/-- The bridge once a DATA frame is acknowledged and the reply to its command
was looked at for a version. -/
def Bridge.replied (b : Bridge) (f resp : List Byte) : Bridge :=
  { b with
    ack := nextNumber (frameNumber f)
    ver := (adopted b (ashMask f.tail) (some resp)).1
    negotiated := (adopted b (ashMask f.tail) (some resp)).2 }

theorem dataWrites_cons (b : Bridge) (frame : List Byte)
    (frames : List (List Byte)) :
    dataWrites b (frame :: frames) =
      (b.cli, ashEncode (ashDataFrame b frame)) ::
        dataWrites { b with frm := nextNumber b.frm } frames := by
  rw [dataWrites, List.mapIdx_cons]
  rfl

/-! ## Sending -/

omit [Kernel σ] in
theorem writeRounds_of_delivers {left : ℕ} {rounds : List WriteResult}
    (hrounds : Delivers left rounds) :
    (writeRounds left rounds : Host σ Bool) = pure true := by
  induction rounds generalizing left with
  | nil =>
      cases left with
      | zero => rfl
      | succ left => exact hrounds.elim
  | cons round rounds ih =>
      cases left with
      | zero => rfl
      | succ left =>
          cases round with
          | wrote n =>
              rw [writeRounds, if_pos hrounds.1]
              exact ih hrounds.2
          | interrupted => exact ih hrounds
          | failed => exact hrounds.elim
          | sigpipe => exact hrounds.elim

section Attached

variable {g} {p : Pins} {ncp : σ → CallbackNcp} (hncp : Attached g p ncp)
  {v : CallbackNcp} {b : Bridge} (hcli : 0 ≤ b.cli)

include hncp

section Sending

include hcli

theorem ashSend_achieves {frame : List Byte}
    (hlen : frame.length ≤ ashMaxFrame) :
    Achieves (writesView ncp) v (ashSend b frame : Host σ Bool)
      fun _ o v' => o = [(b.cli, ashEncode frame)] ∧ v' = v := by
  have hcall : Achieves (writesView ncp) v
      (call (I := host) (.write b.cli (ashEncode frame)) :
        Host σ (List WriteResult))
      fun rounds o v' => Delivers (ashEncode frame).length rounds ∧
        o = [(b.cli, ashEncode frame)] ∧ v' = v := by
    apply Achieves.call
    rintro s rfl
    obtain ⟨hrounds, hworld⟩ := hncp.write s b.cli (ashEncode frame) hcli
    exact ⟨hrounds, rfl, hworld⟩
  have hsent : ¬(b.cli < 0 ∨ frame.length + 2 > ashMaxFrame + 2) := by omega
  rw [ashSend, if_neg hsent, writeAll]
  apply hcall.seq
  rintro rounds _ _ ⟨hrounds, rfl, rfl⟩
  rw [writeRounds_of_delivers hrounds]
  exact Achieves.pure ⟨rfl, rfl⟩

/-- A frame that fits is written under the next number. -/
theorem ashSendData_achieves {ezsp : List Byte} (hlen : ezsp.length ≤ 139) :
    Achieves (writesView ncp) v (ashSendData b ezsp : Host σ Bridge)
      fun b' o v' => b' = recordSent b (ashDataFrame b ezsp) ∧
        o = [(b.cli, ashEncode (ashDataFrame b ezsp))] ∧ v' = v := by
  have hfits : ¬ezsp.length + 1 > ashMaxFrame := by
    simp only [ashMaxFrame]
    omega
  have hbody : (ashDataFrame b ezsp).length ≤ ashMaxFrame := by
    rw [ashDataFrame, List.length_cons, length_ashMask]
    omega
  rw [ashSendData, if_neg hfits]
  apply (note_quietly _).seq
  rintro _ _ rfl
  apply (ashSend_achieves hncp
    (b := recordSent b (ashDataFrame b ezsp)) hcli hbody).seq
  rintro _ _ _ ⟨rfl, rfl⟩
  exact Achieves.pure ⟨rfl, rfl, rfl⟩

end Sending

/-! ## The drain -/

/-- A poll takes the first callback off the queue and has it whole. -/
theorem ezspRelayCallback_quietly {frame : List Byte}
    {rest : List (List Byte)} (hp : b.p = p) (hver : v.ver = b.ver)
    (hqueue : v.queue = frame :: rest) (hframe : IsCallback b.ver frame) :
    Quietly (writesView ncp) v
      (ezspRelayCallback g b ashMaxFrame : Host σ (Bridge × List Byte))
      fun out v' => out = ({ b with cbseq := b.cbseq + 1 }, frame) ∧
        v' = { v with queue := rest, pending := [] } := by
  obtain ⟨hframed, hfits, hqueued⟩ := hframe
  have hanswer : ∀ s, ncp s = v →
      AnswersWith g ncp s (ezspCommand (callbackPoll b.ver b.cbseq)) frame
        { v with queue := rest } := by
    rintro s rfl
    rw [← hver]
    exact hncp.poll s b.cbseq frame rest hqueue
  have hwhole : frame.take ashMaxFrame = frame :=
    List.take_of_length_le (hfits.trans (Nat.le_succ 139))
  rw [ezspRelayCallback, hp]
  generalize ezspLayout b.ver = layout at hframed hqueued
  obtain ⟨hdr, idOff⟩ := layout
  apply (note_quietly _).seq
  rintro _ _ rfl
  apply (hncp.ezspRelay_quietly (callbackPoll_ne_nil _ _)
    (length_callbackPoll _ _) (hfits.trans (by decide)) hanswer _).seq
  rintro _ _ ⟨rfl, rfl⟩
  dsimp only at hframed hqueued ⊢
  rw [hwhole, if_neg hframed.not_ge, if_neg hqueued]
  exact Quietly.pure ⟨rfl, rfl⟩

/-- The rounds of the drain forward one callback each, as long as there is
one. -/
theorem drainRounds_achieves :
    ∀ (rounds : ℕ) (b : Bridge) (v : CallbackNcp), 0 ≤ b.cli → b.p = p →
      v.ver = b.ver → (∀ frame ∈ v.queue, IsCallback b.ver frame) →
      Achieves (writesView ncp) v (drainRounds g rounds b : Host σ Bridge)
        fun _ o v' => o = dataWrites b (v.queue.take rounds) ∧
          v'.queue = v.queue.drop rounds := by
  intro rounds
  induction rounds with
  | zero => exact fun b v _ _ _ _ => Achieves.pure ⟨rfl, rfl⟩
  | succ rounds ih =>
      intro b v hcli hp hver hcallbacks
      rw [drainRounds, hp]
      apply hncp.gpioGet_quietly.seq
      rintro level v' ⟨rfl, rfl⟩
      cases hqueue : v'.queue with
      | nil =>
          have hhigh : some (decide (([] : List (List Byte)) = [])) ≠
            some false := by decide
          rw [if_pos hhigh]
          exact Achieves.pure ⟨rfl, hqueue⟩
      | cons frame rest =>
          have hlow : ¬some (decide (frame :: rest = [])) ≠ some false := by
            simp
          have hframe : IsCallback b.ver frame :=
            hcallbacks frame (hqueue ▸ List.mem_cons_self)
          have hnonempty : frame ≠ [] :=
            List.ne_nil_of_length_pos (Nat.zero_lt_of_lt hframe.framed)
          rw [if_neg hlow]
          apply (ezspRelayCallback_quietly hncp hp hver hqueue hframe).seq
          rintro _ _ ⟨rfl, rfl⟩
          dsimp only
          rw [if_neg hnonempty]
          apply (ashSendData_achieves hncp
            (b := { b with cbseq := b.cbseq + 1 }) hcli hframe.fits).seq
          rintro _ _ _ ⟨rfl, rfl, rfl⟩
          refine Achieves.mono (ih _ _ hcli hp hver ?_) ?_
          · exact fun c hc => hcallbacks c
              (hqueue ▸ List.mem_cons_of_mem frame hc)
          · rintro _ _ v'' ⟨rfl, hrest⟩
            rw [List.take_succ_cons, List.drop_succ_cons, dataWrites_cons]
            exact ⟨rfl, hrest⟩

theorem bridgeDrainCallbacks_achieves (hcli : 0 ≤ b.cli)
    (hready : b.ready = true) (hnegotiated : b.negotiated = true)
    (hhint : 0 ≤ b.p.hint) (hp : b.p = p) (hver : v.ver = b.ver)
    (hcallbacks : ∀ frame ∈ v.queue, IsCallback b.ver frame) :
    Achieves (writesView ncp) v (bridgeDrainCallbacks g b : Host σ Bridge)
      fun _ o v' => o = dataWrites b (v.queue.take 32) ∧
        v'.queue = v.queue.drop 32 := by
  have hguard : ¬(b.cli < 0 ∨ b.ready = false ∨ b.negotiated = false ∨
      b.p.hint < 0) := by
    rw [hready, hnegotiated]
    simp only [Bool.true_eq_false, false_or]
    omega
  rw [bridgeDrainCallbacks, if_neg hguard]
  exact drainRounds_achieves hncp 32 b v hcli hp hver hcallbacks

/-! ## After a command -/

omit hncp [Kernel σ] in
/-- The version is adopted from a reply cut to 140 bytes as from the whole. -/
theorem adoptVersion_quietly (f resp : List Byte) :
    Quietly (writesView ncp) v
      (adoptVersion { b with ack := nextNumber (frameNumber f) }
        (ashMask f.tail) (resp.take ashMaxFrame) : Host σ Bridge)
      fun b' v' => b' = b.replied f resp ∧ v' = v := by
  have hcut : adopted b (ashMask f.tail) (some (resp.take ashMaxFrame)) =
      adopted b (ashMask f.tail) (some resp) :=
    adopted_take b (ashMask f.tail) (some resp)
  rw [Bridge.replied, ← hcut, adoptVersion, adopted, Option.bind_some]
  dsimp only
  cases sniffVersion b.ver (ashMask f.tail) (resp.take ashMaxFrame) with
  | none => exact Quietly.pure ⟨rfl, rfl⟩
  | some neg =>
      apply (note_quietly _).seq
      rintro _ _ rfl
      exact Quietly.pure ⟨rfl, rfl⟩

/-- A reply is sent on if it fits, and the callbacks follow it. -/
private theorem reply_achieves {resp : List Byte} (hcli : 0 ≤ b.cli)
    (hready : b.ready = true) (hnegotiated : b.negotiated = true)
    (hhint : 0 ≤ b.p.hint) (hp : b.p = p) (hver : v.ver = b.ver)
    (hcallbacks : ∀ frame ∈ v.queue, IsCallback b.ver frame) :
    Achieves (writesView ncp) v
      (ashSendData b (resp.take ashMaxFrame) >>= bridgeDrainCallbacks g :
        Host σ Bridge)
      fun _ o v' => o = dataWrites b (forwarded resp ++ v.queue.take 32) ∧
        v'.queue = v.queue.drop 32 := by
  rw [forwarded]
  by_cases hfits : resp.length ≤ 139
  · rw [if_pos hfits, List.take_of_length_le (hfits.trans (Nat.le_succ 139)),
      List.cons_append, List.nil_append, dataWrites_cons]
    apply (ashSendData_achieves hncp hcli hfits).seq
    rintro _ _ _ ⟨rfl, rfl, rfl⟩
    refine Achieves.mono (bridgeDrainCallbacks_achieves hncp hcli hready
      hnegotiated hhint hp hver hcallbacks) ?_
    rintro _ _ v' ⟨rfl, hrest⟩
    exact ⟨rfl, hrest⟩
  · have hlong : (resp.take ashMaxFrame).length + 1 > ashMaxFrame := by
      rw [List.length_take]
      simp only [ashMaxFrame]
      omega
    rw [if_neg hfits, ashSendData, if_pos hlong, pure_bind]
    exact bridgeDrainCallbacks_achieves hncp hcli hready hnegotiated hhint hp
      hver hcallbacks

/-- A DATA frame in a negotiated session is acknowledged, its command relayed,
the reply sent on, and then the callbacks. -/
theorem bridgeHandleData_achieves {f resp : List Byte} {after : CallbackNcp}
    (hcli : 0 ≤ b.cli) (hready : b.ready = true) (hhint : 0 ≤ b.p.hint)
    (hp : b.p = p) (hpos : 1 ≤ f.length - 1)
    (hlen : f.length - 1 ≤ ashMaxFrame) (hreply : resp ≠ [])
    (hresp : resp.length ≤ 255)
    (hanswer : ∀ s, ncp s = v →
      AnswersWith g ncp s (ezspCommand (ashMask f.tail)) resp after)
    (hnegotiated : (b.replied f resp).negotiated = true)
    (hver : after.ver = (b.replied f resp).ver)
    (hcallbacks : ∀ frame ∈ after.queue,
      IsCallback (b.replied f resp).ver frame) :
    Achieves (writesView ncp) v (bridgeHandleData g b f : Host σ Bridge)
      fun _ o v' => o = (b.cli, ashEncode
          [0x80 ||| (nextNumber (frameNumber f) &&& 0x07)]) ::
            dataWrites (b.replied f resp)
              (forwarded resp ++ after.queue.take 32) ∧
        v'.queue = after.queue.drop 32 := by
  have hplen : ¬(f.length - 1 = 0 ∨ f.length - 1 > ashMaxFrame) := by omega
  have hlength : (ashMask f.tail).length = f.length - 1 := by
    rw [length_ashMask, List.length_tail]
  have hezsp : ashMask f.tail ≠ [] :=
    List.ne_nil_of_length_pos (hlength ▸ hpos)
  have hshort : ([0x80 ||| (nextNumber (frameNumber f) &&& 0x07)] :
      List Byte).length ≤ ashMaxFrame := Nat.succ_le_succ (Nat.zero_le 139)
  have hack : Achieves (writesView ncp) v
      (ashSendAck { b with ack := nextNumber (frameNumber f) } : Host σ Unit)
      fun _ o v' => o = [(b.cli, ashEncode
        [0x80 ||| (nextNumber (frameNumber f) &&& 0x07)])] ∧ v' = v := by
    apply Achieves.seq (ashSend_achieves hncp
      (b := { b with ack := nextNumber (frameNumber f) }) hcli hshort)
    rintro _ _ _ ⟨rfl, rfl⟩
    exact Achieves.pure ⟨rfl, rfl⟩
  have hcut : resp.take ashMaxFrame ≠ [] := by
    rw [ne_eq, List.take_eq_nil_iff]
    exact not_or_intro (by decide) hreply
  subst hp
  rw [bridgeHandleData]
  dsimp only
  rw [if_neg hplen]
  apply hack.seq
  rintro _ _ _ ⟨rfl, rfl⟩
  apply (note_quietly _).seq
  rintro _ _ rfl
  apply (hncp.ezspRelay_quietly hezsp (hlength ▸ hlen) hresp hanswer _).seq
  rintro _ _ ⟨rfl, rfl⟩
  dsimp only
  rw [if_neg hcut]
  apply Quietly.seq (adoptVersion_quietly f resp)
  rintro _ _ ⟨rfl, rfl⟩
  refine Achieves.mono (reply_achieves hncp (b := b.replied f resp)
    (v := { after with pending := [] }) hcli hready hnegotiated
    hhint rfl hver hcallbacks) ?_
  rintro _ _ v' ⟨rfl, hrest⟩
  exact ⟨rfl, hrest⟩

end Attached

/-! ## What the drain never forwards -/

/-- In any surroundings a callback poll returns no bytes or something that is
no `noCallbacks`. -/
private theorem ezspRelayCallback_yields (b : Bridge) (outmax : ℕ) :
    Yields (fun out => out.1.ver = b.ver ∧
        (out.2 ≠ [] → (ezspLayout b.ver).2 < out.2.length ∧
          out.2.getD (ezspLayout b.ver).2 0 ≠ ezspNoCallbacks))
      (ezspRelayCallback g b outmax : Host σ (Bridge × List Byte)) := by
  rw [ezspRelayCallback]
  generalize ezspLayout b.ver = layout
  obtain ⟨hdr, idOff⟩ := layout
  apply Yields.after
  intro _
  apply Yields.after
  intro reply
  cases reply with
  | none => exact Yields.pure ⟨rfl, fun h => absurd rfl h⟩
  | some out =>
      apply Yields.ite
      · exact fun _ => Yields.pure ⟨rfl, fun h => absurd rfl h⟩
      · intro hlong
        apply Yields.ite
        · exact fun _ => Yields.pure ⟨rfl, fun h => absurd rfl h⟩
        · exact fun hqueued =>
            Yields.pure ⟨rfl, fun _ => ⟨not_le.mp hlong, hqueued⟩⟩

/-- What is written is a DATA frame around a callback. -/
private def ForwardsCallback (ver : Int) : HostEvent → Prop
  | .call (.write _ buf) _ =>
      ∃ body, buf = ashEncode body ∧ IsCallback ver (ashMask body.tail)
  | _ => True

private def forwarding (ver : Int) : Contract host where
  event _ e := ForwardsCallback ver e
  halt _ := True

private theorem forwarding_bus (ver : Int) : Bus (forwarding ver) where
  gpio h e he := by
    cases e with
    | note n => exact he.elim
    | call c r =>
        cases c with
        | write fd buf => exact he.elim
        | _ => trivial
  idle _ _ _ _ := trivial
  failed _ _ := trivial

private theorem bridgeDrainCallbacks_holds (b : Bridge) :
    Holds (forwarding b.ver) [] (bridgeDrainCallbacks g b : Host σ Bridge)
      fun _ _ => True := by
  have hrounds : Holds (forwarding b.ver) []
      (drainRounds g 32 b : Host σ Bridge) fun b' _ => b'.ver = b.ver := by
    apply drainRounds_holds g _ _ 32 b [] rfl
    · exact fun b' h level hver => ⟨trivial, hver⟩
    · intro b' h hver
      apply ((ezspRelayCallback_holds (fun _ => trivial) (forwarding_bus b.ver)
        g b' ashMaxFrame trivial fun _ _ _ => trivial).yielding
          (ezspRelayCallback_yields g b' ashMaxFrame)).mono
      rintro ⟨b'', frame⟩ h' ⟨_, hver', hcallback⟩
      dsimp only at hver' hcallback ⊢
      rw [hver] at hver' hcallback
      refine ⟨fun _ => hver', fun hnonempty => ?_⟩
      obtain ⟨hframed, hqueued⟩ := hcallback hnonempty
      apply (ashSendData_holds (fun _ => trivial) (fun _ => trivial)
        fun hfits _ => ?_).mono
      · rintro b₃ h'' (⟨_, rfl, _⟩ | ⟨_, rfl, _⟩)
        · exact hver'
        · exact hver'
      · refine ⟨ashDataFrame b'' frame, rfl, ?_⟩
        rw [ashDataFrame, List.tail_cons, ashMask_ashMask]
        exact ⟨hframed, Nat.le_of_succ_le_succ hfits, hqueued⟩
  rw [bridgeDrainCallbacks]
  split
  · exact Holds.pure trivial
  · exact hrounds.mono fun _ _ _ => trivial

/-! ## In order, once each -/

/-- With a client connected and reset, and nHOST_INT low exactly while the NCP
has callbacks queued: in a session negotiated at the NCP's version the drain
ends and has forwarded the first 32 callbacks, or all of them if there are
fewer, each whole and once and in order, in DATA frames with consecutive
numbers; the others are left queued.  Handling a DATA frame whose command is
answered ends with the acknowledgement, the reply to that command and then the
callbacks written, in this order.  In any surroundings whatever, what the drain
writes is a DATA frame around a callback, so no `noCallbacks`. -/
theorem bridgeDrainCallbacks_forwards (b : Bridge) (ncp : σ → CallbackNcp)
    (hncp : Attached g b.p ncp) (hcli : 0 ≤ b.cli) (hready : b.ready = true)
    (hhint : 0 ≤ b.p.hint) (s : σ) :
    (b.negotiated = true → (ncp s).ver = b.ver →
      (∀ frame ∈ (ncp s).queue, IsCallback b.ver frame) →
      (∃ b', (bridgeDrainCallbacks g b s).outcome = .done b') ∧
      (bridgeDrainCallbacks g b s).trace.flatMap written =
        dataWrites b ((ncp s).queue.take 32) ∧
      (ncp (bridgeDrainCallbacks g b s).world).queue =
        (ncp s).queue.drop 32) ∧
    (∀ (f resp : List Byte) (after : CallbackNcp), frameKind f = .data →
      1 ≤ f.length - 1 → f.length - 1 ≤ ashMaxFrame → resp ≠ [] →
      resp.length ≤ 255 →
      (∀ s', ncp s' = ncp s →
        AnswersWith g ncp s' (ezspCommand (ashMask f.tail)) resp after) →
      (b.replied f resp).negotiated = true →
      after.ver = (b.replied f resp).ver →
      (∀ frame ∈ after.queue, IsCallback (b.replied f resp).ver frame) →
      (∃ b', (bridgeHandleFrame g b f s).outcome = .done b') ∧
      (bridgeHandleFrame g b f s).trace.flatMap written =
        (b.cli, ashEncode [0x80 ||| (nextNumber (frameNumber f) &&& 0x07)]) ::
          dataWrites (b.replied f resp)
            (forwarded resp ++ after.queue.take 32) ∧
      (ncp (bridgeHandleFrame g b f s).world).queue = after.queue.drop 32) ∧
    ∀ (τ : Type) [Kernel τ] (b' : Bridge) (t : τ) (fd : Int)
      (buf : List Byte) (r : List WriteResult),
      .call (.write fd buf) r ∈ (bridgeDrainCallbacks g b' t).trace →
      ∃ body, buf = ashEncode body ∧ IsCallback b'.ver (ashMask body.tail) := by
  refine ⟨?_, ?_, ?_⟩
  · intro hnegotiated hver hcallbacks
    obtain ⟨b', hdone, hwrites, hrest⟩ := bridgeDrainCallbacks_achieves hncp
      hcli hready hnegotiated hhint rfl hver hcallbacks s rfl
    exact ⟨⟨b', hdone⟩, hwrites, hrest⟩
  · intro f resp after hf hpos hlen hreply hresp hanswer hnegotiated hver
      hcallbacks
    have hhandle : Achieves (writesView ncp) (ncp s)
        (bridgeHandleFrame g b f : Host σ Bridge)
        fun _ o v' => o = (b.cli, ashEncode
            [0x80 ||| (nextNumber (frameNumber f) &&& 0x07)]) ::
              dataWrites (b.replied f resp)
                (forwarded resp ++ after.queue.take 32) ∧
          v'.queue = after.queue.drop 32 := by
      have hup : ¬b.ready = false := by simp [hready]
      rw [bridgeHandleFrame_eq, hf]
      apply (note_quietly _).seq
      rintro _ _ rfl
      dsimp only
      rw [if_neg hup]
      exact bridgeHandleData_achieves hncp hcli hready hhint rfl hpos hlen
        hreply hresp hanswer hnegotiated hver hcallbacks
    obtain ⟨b', hdone, hwrites, hrest⟩ := hhandle s rfl
    exact ⟨⟨b', hdone⟩, hwrites, hrest⟩
  · intro τ _ b' t fd buf r hwrite
    obtain ⟨t₁, t₂, htrace⟩ := List.append_of_mem hwrite
    have halong := (bridgeDrainCallbacks_holds g b' t).1
    rw [htrace] at halong
    exact halong.at_event

/-- What such an NCP of version 4 does on a command: a poll takes the first
callback, and any other command is answered with the header of its
response. -/
def CallbackNcp.respond (s : CallbackNcp) (tx : List Byte) : CallbackNcp :=
  let seq := tx.getD 2 0
  if tx = ezspCommand (callbackPoll s.ver seq) then
    let frame := s.queue.headD [seq, 0x80, ezspNoCallbacks]
    { s with queue := s.queue.tail, pending := ezspResponse 1 frame }
  else { s with pending := ezspResponse 0 [seq, 0x80, tx.getD 4 0] }

/-- The NCP alone as surroundings. -/
instance : Kernel CallbackNcp where
  answer
    | .spiTransfer tx true _, s =>
        (some ⟨(s.pending ++ List.replicate tx.length spiIdle).take tx.length,
          by simp⟩, { s with pending := s.pending.drop tx.length })
    | .spiTransfer tx false _, s =>
        (some ⟨List.replicate tx.length spiIdle, List.length_replicate⟩,
          s.respond tx)
    | .gpioGetValue _, s => (some (decide (s.queue = [])), s)
    | c, s => (quietAnswer c, s)

private theorem respond_poll {s : CallbackNcp} {frame : List Byte}
    {rest : List (List Byte)} (hqueue : s.queue = frame :: rest) (seq : Byte) :
    s.respond (ezspCommand (callbackPoll s.ver seq)) =
      { s with queue := rest, pending := ezspResponse 1 frame } := by
  have hseq : (ezspCommand (callbackPoll s.ver seq)).getD 2 0 = seq := by
    rw [callbackPoll]
    split_ifs <;> rfl
  rw [CallbackNcp.respond, hseq]
  dsimp only
  rw [if_pos rfl, hqueue]
  rfl

private theorem callbackNcp_attached (p : Pins) :
    Attached ⟨⟨2, true⟩, true⟩ p (id : CallbackNcp → CallbackNcp) where
  line _ := rfl
  read _ := rfl
  wake _ _ := ⟨rfl, rfl⟩
  select _ _ _ _ _ := ⟨rfl, rfl⟩
  drain _ := rfl
  wait _ _ :=
    ⟨⟨.timeout, List.mem_singleton.mpr rfl, by decide, by decide⟩, rfl⟩
  write _ _ buf _ := by
    refine ⟨?_, rfl⟩
    cases buf with
    | nil => trivial
    | cons c buf =>
        refine ⟨Nat.succ_pos buf.length, ?_⟩
        rw [List.length_cons, Nat.sub_self]
        trivial
  clock s n keepCs hn := by
    have hpending : n ≤ s.pending.length := hn
    refine ⟨congrArg some ?_, ?_⟩
    · change (s.pending ++ _).take (List.replicate n spiIdle).length = _
      rw [List.length_replicate, List.take_append_of_le_length hpending]
      rfl
    · change { s with pending := _ } = _
      rw [List.length_replicate]
      rfl
  poll s seq frame rest hqueue :=
    ⟨Option.some_ne_none _, 1, by decide, respond_poll hqueue seq⟩

/-- An NCP of version 4 with two callbacks queued. -/
def twoQueued : CallbackNcp :=
  ⟨4, [[0x00, 0x90, 0x45, 0x01], [0x01, 0x90, 0x19, 0x7E]], []⟩

/-- A client of a session negotiated at version 4, with seven DATA frames
behind it, and its `nop` command. -/
def nopBridge : Bridge :=
  { bridgeInit ⟨3, 4, 5, -1, 6⟩ 8 with
    cli := 9, ready := true, negotiated := true, frm := 7 }

def nopFrame : List Byte := 0x25 :: ashMask [0x05, 0x00, 0x05]

/-- The two callbacks are forwarded as DATA frames 7 and 0; after a command
its response is number 7, and they are 0 and 1. -/
theorem bridgeDrainCallbacks_forwards_twoQueued :
    ((∃ b', (bridgeDrainCallbacks ⟨⟨2, true⟩, true⟩ nopBridge
        twoQueued).outcome = .done b') ∧
      (bridgeDrainCallbacks ⟨⟨2, true⟩, true⟩ nopBridge
          twoQueued).trace.flatMap written =
        [(9, ashEncode (0x70 :: ashMask [0x00, 0x90, 0x45, 0x01])),
          (9, ashEncode (0x00 :: ashMask [0x01, 0x90, 0x19, 0x7E]))] ∧
      (bridgeDrainCallbacks ⟨⟨2, true⟩, true⟩ nopBridge
        twoQueued).world.queue = []) ∧
    ((∃ b', (bridgeHandleFrame ⟨⟨2, true⟩, true⟩ nopBridge nopFrame
        twoQueued).outcome = .done b') ∧
      (bridgeHandleFrame ⟨⟨2, true⟩, true⟩ nopBridge nopFrame
          twoQueued).trace.flatMap written =
        [(9, ashEncode [0x83]),
          (9, ashEncode (0x73 :: ashMask [0x05, 0x80, 0x05])),
          (9, ashEncode (0x03 :: ashMask [0x00, 0x90, 0x45, 0x01])),
          (9, ashEncode (0x13 :: ashMask [0x01, 0x90, 0x19, 0x7E]))] ∧
      (bridgeHandleFrame ⟨⟨2, true⟩, true⟩ nopBridge nopFrame
        twoQueued).world.queue = []) := by
  have hcallbacks : ∀ frame ∈ twoQueued.queue, IsCallback 4 frame := by
    intro frame hframe
    rcases List.mem_pair.mp hframe with rfl | rfl
    · exact ⟨by decide, by decide, by decide⟩
    · exact ⟨by decide, by decide, by decide⟩
  have hnop : ∀ s : CallbackNcp, s = twoQueued →
      AnswersWith ⟨⟨2, true⟩, true⟩ id s (ezspCommand (ashMask nopFrame.tail))
        [0x05, 0x80, 0x05] twoQueued := by
    rintro _ rfl
    exact ⟨Option.some_ne_none _, 0, by decide, by decide⟩
  obtain ⟨hdrain, hhandle, _⟩ := bridgeDrainCallbacks_forwards
    ⟨⟨2, true⟩, true⟩ nopBridge id (callbackNcp_attached _) (by decide) rfl
    (by decide) twoQueued
  obtain ⟨hdone, hwrites, hrest⟩ := hdrain rfl rfl hcallbacks
  obtain ⟨hdone', hwrites', hrest'⟩ := hhandle nopFrame [0x05, 0x80, 0x05]
    twoQueued (by decide) (by decide) (by decide) (by decide) (by decide) hnop
    (by decide) (by decide) hcallbacks
  have htake : twoQueued.queue.take 32 = twoQueued.queue :=
    List.take_of_length_le (by decide)
  have hdrop : twoQueued.queue.drop 32 = [] :=
    List.drop_of_length_le (by decide)
  rw [id_eq, htake, twoQueued, dataWrites_cons, dataWrites_cons] at hwrites
  rw [id_eq, id_eq, hdrop] at hrest
  rw [htake, forwarded, if_pos (by decide), List.singleton_append, twoQueued,
    dataWrites_cons, dataWrites_cons, dataWrites_cons] at hwrites'
  rw [id_eq, hdrop] at hrest'
  exact ⟨⟨hdone, hwrites, hrest⟩, hdone', hwrites', hrest'⟩

end EzspSpi
