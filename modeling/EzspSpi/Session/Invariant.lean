import EzspSpi.Ash.Relay
import EzspSpi.Ash.Retransmit
import EzspSpi.Session.Observer

/-!
# The bridge models the session

Between two events from the client the bridge state is a function of the
session, as far as the session determines it, and every event of every run
keeps a contract that says what must have happened before it.
-/

namespace EzspSpi

open Program RingLog

variable {σ : Type} [Kernel σ] (g : Globals)

/-! ## The invariant and the contract -/

/-- A DATA frame with the EZSP frame of one of these responses in it. -/
structure Carried (X : List Exchange) (body : List Byte) : Prop where
  data : frameKind body = .data
  length : body.length ≤ ashMaxFrame
  nonempty : body ≠ []
  verbatim : ∃ x ∈ X, x.frame? = some (ashMask body.tail)

/-- The bridge state after a history. -/
structure Models (b : Bridge) (h : List HostEvent) : Prop where
  client : 0 ≤ b.cli → (session h).client = some b.cli.toNat
  ready : b.ready = (session h).reset
  answered : b.ready = true → (session h).answered = true
  negotiated : b.negotiated = true → (session h).negotiated = true
  fresh : b.ready = false → (session h).log = []
  frm : b.frm.toNat = (session h).log.length % 8
  ring : Mirrors [] b.sent (session h).log
  numbered : ∀ i body, (session h).log[i]? = some body →
    (frameNumber body).toNat = i % 8
  carried : ∀ body ∈ (session h).log, Carried (exchanges h) body
  turn : (session h).inOrder = true → b.ack.toNat = (session h).delivered % 8

/-- A frame may be written: it goes to the current client, which has sent an
RST, it is the RSTACK or comes after it, and a DATA frame is a response. -/
structure Sendable (h : List HostEvent) (fd : Int) (frame : List Byte) :
    Prop where
  client : 0 ≤ fd ∧ (session h).client = some fd.toNat
  reset : (session h).reset = true
  answered : frame = rstackFrame ∨ (session h).answered = true
  verbatim : frameKind frame = .data → Carried (exchanges h) frame

/-- A frame may be stored: it is the answer to the last command, and carries
the number of the frames before it, as these do. -/
structure Storable (h : List HostEvent) (body : List Byte) : Prop where
  latest : ∃ x, (exchanges h).getLast? = some x ∧
    x.frame? = some (ashMask body.tail)
  length : body.length ≤ ashMaxFrame
  number : (frameNumber body).toNat = (session h).log.length % 8
  numbered : ∀ i old, (session h).log[i]? = some old →
    (frameNumber old).toNat = i % 8

/-- What must have happened before an event. -/
def Owes (h : List HostEvent) : HostEvent → Prop
  | .call (.spiTransfer _ _ _) _ => (session h).answered = true
  | .call (.write fd buf) _ =>
      ∃ frame, buf = ashEncode frame ∧ Sendable h fd frame
  | .note (.handleFrame b _) => Models b h ∧ 0 ≤ b.cli
  | .note (.relay b f) =>
      (session h).inOrder = true → frameNumber f = b.ack
  | .note (.relayCallback _) => (session h).negotiated = true
  | .note (.store body) => Storable h body
  | _ => True

def bridgeContract : Contract host where
  event := Owes
  halt _ := True

theorem bridgeContract_halt (h : List HostEvent) :
    bridgeContract.halt h := trivial

/-- A DATA frame was relayed although its number was not the next one. -/
def Strayed (h : List HostEvent) : Prop :=
  ∃ b f, .note (.relay b f) ∈ h ∧ frameNumber f ≠ b.ack

/-- If the client's frames were not in order, one of them was relayed out of
turn. -/
def Accounted (h : List HostEvent) : Prop :=
  (session h).inOrder = false → Strayed h

/-- The bridge between two of its procedures. -/
structure Steady (b : Bridge) (h : List HostEvent) : Prop where
  models : Models b h
  accounted : Accounted h

/-- The same with a client connected. -/
structure Live (b : Bridge) (h : List HostEvent) : Prop extends
    Steady b h where
  connected : 0 ≤ b.cli

/-! ## Events that leave the session alone -/

theorem Strayed.append {h : List HostEvent} (hstray : Strayed h)
    (t : List HostEvent) : Strayed (h ++ t) := by
  obtain ⟨b, f, hmem, hne⟩ := hstray
  exact ⟨b, f, List.mem_append_left t hmem, hne⟩

theorem Carried.mono {X X' : List Exchange} {body : List Byte}
    (hX : ∀ x ∈ X, x ∈ X') (hbody : Carried X body) : Carried X' body := by
  obtain ⟨x, hx, hframe⟩ := hbody.verbatim
  exact ⟨hbody.data, hbody.length, hbody.nonempty, x, hX x hx, hframe⟩

/-- The bridge does not look at acknowledgements, so neither does its
invariant. -/
def UpToAcks (S S' : Session) : Prop := ∃ acked, S' = { S with acked := acked }

theorem upToAcks_of_eq {S S' : Session} (h : S' = S) : UpToAcks S S' :=
  ⟨S.acked, h⟩

theorem upToAcks_acknowledge (S : Session) (n : Byte) :
    UpToAcks S (S.acknowledge n) := by
  rw [Session.acknowledge]
  split
  · exact ⟨_, rfl⟩
  · exact ⟨S.acked, rfl⟩

theorem Models.mono {b : Bridge} {h h' : List HostEvent} (hb : Models b h)
    (hsession : UpToAcks (session h) (session h'))
    (hX : ∀ x ∈ exchanges h, x ∈ exchanges h') : Models b h' := by
  obtain ⟨acked, hacked⟩ := hsession
  constructor <;> rw [hacked]
  · exact hb.client
  · exact hb.ready
  · exact hb.answered
  · exact hb.negotiated
  · exact hb.fresh
  · exact hb.frm
  · exact hb.ring
  · exact hb.numbered
  · exact fun body hbody => (hb.carried body hbody).mono hX
  · exact hb.turn

theorem Accounted.mono {h t : List HostEvent} (hh : Accounted h)
    (horder : (session (h ++ t)).inOrder = (session h).inOrder) :
    Accounted (h ++ t) := by
  intro hout
  rw [horder] at hout
  exact (hh hout).append t

theorem Steady.append {b : Bridge} {h t : List HostEvent} (hb : Steady b h)
    (hsession : UpToAcks (session h) (session (h ++ t)))
    (hX : ∀ x ∈ exchanges h, x ∈ exchanges (h ++ t)) : Steady b (h ++ t) := by
  have horder : (session (h ++ t)).inOrder = (session h).inOrder := by
    obtain ⟨acked, hacked⟩ := hsession
    rw [hacked]
  exact ⟨hb.models.mono hsession hX, hb.accounted.mono horder⟩

/-- An event that neither tells an observer anything nor touches the bus. -/
theorem Steady.concat {b : Bridge} {h : List HostEvent} {e : HostEvent}
    (hb : Steady b h) (hsilent : IsSilent e) (hquiet : IsQuiet e) :
    Steady b (h ++ [e]) := by
  have hsession : session (h ++ [e]) = session h := by
    rw [session_concat, hsilent]
  apply hb.append (upToAcks_of_eq hsession)
  rw [exchanges_concat_quiet hquiet]
  exact fun x hx => hx

/-- The fields the invariant is about.  A client may be gone. -/
theorem Models.congr {b b' : Bridge} {h : List HostEvent} (hb : Models b h)
    (hcli : 0 ≤ b'.cli → b'.cli = b.cli) (hready : b'.ready = b.ready)
    (hnegotiated : b'.negotiated = b.negotiated) (hfrm : b'.frm = b.frm)
    (hack : b'.ack = b.ack) (hsent : b'.sent = b.sent) : Models b' h where
  client hconnected := by
    have hsame := hcli hconnected
    rw [hsame] at hconnected ⊢
    exact hb.client hconnected
  ready := hready ▸ hb.ready
  answered := hready ▸ hb.answered
  negotiated := hnegotiated ▸ hb.negotiated
  fresh := hready ▸ hb.fresh
  frm := hfrm ▸ hb.frm
  ring := hsent ▸ hb.ring
  numbered := hb.numbered
  carried := hb.carried
  turn := hack ▸ hb.turn

/-- A session without DATA frames so far, and a bridge with its counters at
zero and its slots empty. -/
theorem models_fresh {b : Bridge} {h : List HostEvent}
    (hlog : (session h).log = []) (hdelivered : (session h).delivered = 0)
    (hclient : 0 ≤ b.cli → (session h).client = some b.cli.toNat)
    (hready : b.ready = (session h).reset)
    (hanswered : b.ready = true → (session h).answered = true)
    (hnegotiated : b.negotiated = false) (hfrm : b.frm = 0) (hack : b.ack = 0)
    (hsent : b.sent = fun _ => []) : Models b h where
  client := hclient
  ready := hready
  answered := hanswered
  negotiated hset := by
    rw [hnegotiated] at hset
    exact absurd hset Bool.false_ne_true
  fresh _ := hlog
  frm := by
    rw [hlog, hfrm]
    rfl
  ring := by
    rw [hlog, hsent]
    exact mirrors_nil
  numbered i body hi := by
    rw [hlog] at hi
    cases hi
  carried body hbody := by
    rw [hlog] at hbody
    exact absurd hbody List.not_mem_nil
  turn _ := by
    rw [hdelivered, hack]
    rfl

/-- Once the RSTACK is out, writing tells an observer nothing new. -/
theorem session_append_writes {h t : List HostEvent}
    (hanswered : (session h).answered = true) (ht : ∀ e ∈ t, IsWrite e) :
    session (h ++ t) = session h := by
  induction t using List.reverseRecOn with
  | nil => rw [List.append_nil]
  | append_singleton t e ih =>
      have hrest : ∀ e' ∈ t, IsWrite e' :=
        fun e' he' => ht e' (List.mem_append_left [e] he')
      obtain ⟨fd, buf, r, rfl⟩ := ht e List.mem_concat_self
      rw [← List.append_assoc, session_concat, ih hrest, Session.step]
      split
      · rw [← hanswered]
      · rfl

/-- The events of relaying, with callback polls or without. -/
def Relays (callbacks : Prop) : HostEvent → Prop
  | .call (.spiTransfer _ _ _) _ => True
  | .note (.relayCallback _) => callbacks
  | e => IsGpio e

def relaying (callbacks : Prop) : Contract host where
  event _ := Relays callbacks
  halt _ := True

theorem relaying_bus (callbacks : Prop) : Bus (relaying callbacks) where
  gpio _ e he := by
    cases e with
    | note n => exact he.elim
    | call c r => cases c <;> first | exact he | trivial
  idle _ _ _ _ := trivial
  failed _ _ := trivial

private theorem Relays.isSilent {callbacks : Prop} {e : HostEvent}
    (he : Relays callbacks e) : IsSilent e := by
  cases e with
  | note n => cases n <;> first | exact fun _ => rfl | exact he.elim
  | call c r => cases c <;> first | exact fun _ => rfl | exact he.elim

private theorem Relays.owes {callbacks : Prop} {h : List HostEvent}
    {e : HostEvent} (he : Relays callbacks e)
    (hanswered : (session h).answered = true)
    (hnegotiated : callbacks → (session h).negotiated = true) : Owes h e := by
  cases e with
  | note n =>
      cases n with
      | relayCallback b => exact hnegotiated he
      | _ => exact he.elim
  | call c r =>
      cases c with
      | spiTransfer tx keepRx keepCs => exact hanswered
      | write fd buf => exact he.elim
      | _ => trivial

omit [Kernel σ] in
/-- Relaying keeps the contract of the bridge once the RSTACK is out, and
leaves the session alone. -/
theorem relaying_owed {α : Type} {callbacks : Prop} {h : List HostEvent}
    {m : Host σ α} {Q : α → List HostEvent → Prop}
    (hm : Holds (relaying callbacks) h m Q)
    (hanswered : (session h).answered = true)
    (hnegotiated : callbacks → (session h).negotiated = true) :
    Holds bridgeContract h m
      fun a h' => Q a h' ∧ session h' = session h := by
  have hstep : ∀ h' e, Relays callbacks e → session h' = session h →
      Owes h' e ∧ session (h' ++ [e]) = session h := by
    intro h' e he hsession
    constructor
    · apply he.owes
      · rw [hsession]
        exact hanswered
      · rw [hsession]
        exact hnegotiated
    · rw [session_concat, he.isSilent, hsession]
  exact hm.frame hstep (fun _ _ => trivial) rfl

end EzspSpi
