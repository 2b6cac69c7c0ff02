import EzspSpi.Ash.Data
import EzspSpi.Host.Playback
import EzspSpi.Session.Observer
import Mathlib.Data.List.GetD

/-!
# Sniffing the version

The bridge adopts the version of any reply that looks like the answer to a
version command.  It does not look at the whole frame id, at the id of the
reply or at the version the client asked for, and goes wrong exactly where one
of these would have told it so.
-/

namespace EzspSpi

open Program

variable {σ : Type} [Kernel σ] (g : Globals)

/-- The frame id in the layout of a version: 16 bits from version 8 on. -/
def frameId (ver : Int) (ezsp : List Byte) : Option ℕ :=
  if ver ≥ 8 then do
    let low ← ezsp[3]?
    let high ← ezsp[4]?
    some (low.toNat + 256 * high.toNat)
  else ezsp[(ezspLayout ver).2]?.map BitVec.toNat

/-- The first parameter: the version in a version command and its reply. -/
def firstParameter (ver : Int) (ezsp : List Byte) : Option Byte :=
  ezsp[(ezspLayout ver).1]?

/-- A version exchange: the client asks for a version and the NCP agrees. -/
def VersionExchange (ver : Int) (ezsp resp : List Byte) : Prop :=
  frameId ver ezsp = some 0 ∧ frameId ver resp = some 0 ∧
    firstParameter ver ezsp = firstParameter ver resp ∧
    ∃ v, firstParameter ver resp = some v ∧ 4 ≤ v ∧ v ≤ 13

/-- A reply that looks like news of a version but is not: the byte at `id_off`
of the request is zero and the reply has a version between 4 and 13 in the
right place, other than the one in use or the first one; but from version 8 on
the high byte of the request's id is not zero, or the reply is to something
else, or it names another version than the client did. -/
structure Mistakable (b : Bridge) (ezsp resp : List Byte) (v : Byte) :
    Prop where
  request : ezsp[(ezspLayout b.ver).2]? = some ezspVersion
  reply : firstParameter b.ver resp = some v ∧ 4 ≤ v ∧ v ≤ 13
  news : (v.toNat : Int) ≠ b.ver ∨ b.negotiated = false
  mismatch : (b.ver ≥ 8 ∧ ezsp[4]? ≠ some 0) ∨ frameId b.ver resp ≠ some 0 ∨
    firstParameter b.ver ezsp ≠ some v

/-- The NCP's reply in a trace: the EZSP frame of the first response that has
one. -/
def firstReply (t : List HostEvent) : Option (List Byte) :=
  (exchanges t).findSome? Exchange.frame?

/-! ## What the bridge adopts -/

/-- Where the reply announces a version, for the bridge. -/
theorem sniffVersion_eq_some_iff {ver : Int} {ezsp resp : List Byte}
    {v : Byte} :
    sniffVersion ver ezsp resp = some v ↔
      ezsp[(ezspLayout ver).2]? = some ezspVersion ∧
        firstParameter ver resp = some v ∧ 4 ≤ v ∧ v ≤ 13 := by
  rw [sniffVersion, firstParameter]
  generalize ezspLayout ver = layout
  obtain ⟨hdr, idOff⟩ := layout
  dsimp only
  constructor
  · intro hsniff
    split_ifs at hsniff with hlook hrange
    obtain ⟨hlong, hversion, hreply⟩ := hlook
    rw [List.getD_eq_getElem _ _ hlong] at hversion
    rw [List.getD_eq_getElem _ _ hreply] at hsniff hrange
    rw [Option.some.injEq] at hsniff
    rw [List.getElem?_eq_getElem hlong, List.getElem?_eq_getElem hreply,
      hversion, hsniff]
    exact ⟨rfl, rfl, hsniff ▸ hrange⟩
  · rintro ⟨hrequest, hreply, hrange⟩
    obtain ⟨hlong, hversion⟩ := List.getElem?_eq_some_iff.mp hrequest
    obtain ⟨hlong', hv⟩ := List.getElem?_eq_some_iff.mp hreply
    rw [List.getD_eq_getElem _ _ hlong, List.getD_eq_getElem _ _ hlong', hv,
      if_pos ⟨hlong, hversion, hlong'⟩, if_pos hrange]

private theorem ezspLayout_lt (ver : Int) :
    (ezspLayout ver).1 < ashMaxFrame := by
  rw [ezspLayout]
  split_ifs <;> decide

/-- Cutting a reply to 140 bytes leaves its version in place. -/
theorem sniffVersion_take (ver : Int) (ezsp resp : List Byte) :
    sniffVersion ver ezsp (resp.take ashMaxFrame) =
      sniffVersion ver ezsp resp := by
  apply Option.ext
  intro v
  rw [sniffVersion_eq_some_iff, sniffVersion_eq_some_iff, firstParameter,
    firstParameter, List.getElem?_take_of_lt (ezspLayout_lt ver)]

theorem adopted_take (b : Bridge) (ezsp : List Byte)
    (reply : Option (List Byte)) :
    adopted b ezsp (reply.map fun frame => frame.take ashMaxFrame) =
      adopted b ezsp reply := by
  cases reply with
  | none => rfl
  | some resp =>
      rw [adopted, adopted, Option.map_some, Option.bind_some,
        Option.bind_some, sniffVersion_take]

private def unbound : Contract host where
  event _ _ := True
  halt _ := True

private theorem unbound_bus : Bus unbound where
  gpio _ _ _ := trivial
  idle _ _ _ _ := trivial
  failed _ _ := trivial

private theorem unbound_halt (h : List HostEvent) : unbound.halt h := trivial

private theorem firstReply_append {h t : List HostEvent} {reply : List Byte}
    (hh : firstReply h = some reply) (ht : receivedFirst t = []) :
    firstReply (h ++ t) = some reply := by
  rw [firstReply, (exchanges_append ht).1, List.findSome?_append]
  rw [firstReply] at hh
  rw [hh]
  rfl

/-- The reply to a command is that of its last exchange. -/
private theorem firstReply_of_commanded {tx : List Byte} {x : Exchange}
    {h t : List HostEvent} (hh : ∀ e ∈ h, IsQuiet e) (ht : Commanded tx x t) :
    firstReply (h ++ t) = x.frame? := by
  obtain ⟨hfirst, _, hexchanges⟩ := ht
  rw [firstReply, (exchanges_append hfirst).1, (exchanges_of_quiet hh).1,
    List.nil_append]
  rcases hexchanges with hone | ⟨notice, htwo, _, hnotice⟩
  · rw [hone, List.findSome?_singleton]
  · rw [htwo, List.findSome?_cons, frame?_of_notice hnotice,
      List.findSome?_singleton]

/-- Once there is a reply it stays the first one. -/
private theorem firstReply_lasting {x : Exchange} (hx : x.frame? ≠ none) :
    Lasting unbound fun h => firstReply h = x.frame? where
  append hh ht := by
    obtain ⟨reply, hreply⟩ := Option.ne_none_iff_exists'.mp hx
    rw [hreply] at hh ⊢
    exact firstReply_append hh ht
  note _ _ _ := trivial
  write _ _ _ _ _ := trivial
  poll _ _ _ _ _ := trivial

private theorem firstReply_of_quiet {h : List HostEvent}
    (hh : ∀ e ∈ h, IsQuiet e) : firstReply h = none := by
  rw [firstReply, (exchanges_of_quiet hh).1]
  rfl

private theorem bridgeHandleData_version {b : Bridge} {f : List Byte}
    {h : List HostEvent} (hh : ∀ e ∈ h, IsQuiet e) :
    Holds unbound h (bridgeHandleData g b f : Host σ Bridge)
      fun b' h' => (b'.ver, b'.negotiated) =
        adopted b (ashMask f.tail) (firstReply h') := by
  by_cases hplen : f.length - 1 = 0 ∨ f.length - 1 > ashMaxFrame
  · rw [bridgeHandleData]
    dsimp only
    rw [if_pos hplen]
    apply Holds.pure
    rw [firstReply_of_quiet hh]
    rfl
  · have hanswer (t t' : List HostEvent) (x : Exchange)
        (ht : ∀ e ∈ t, IsQuiet e)
        (ht' : Commanded (ezspCommand (ashMask f.tail)) x t') :
        firstReply (h ++ t ++ t') = x.frame? := by
      apply firstReply_of_commanded _ ht'
      intro e he
      exact (List.mem_append.mp he).elim (hh e) (ht e)
    apply (bridgeHandleData_holds unbound_bus unbound_halt g (by omega)
      (by omega) (fun _ _ => trivial) (fun _ _ => trivial)
      (fun _ _ _ _ _ => trivial) hanswer
      fun x => firstReply_lasting).mono
    rintro b' h' ⟨x, hfirst, hversion⟩
    rw [hversion, hfirst, adopted_take]

/-- Handling a DATA frame adopts what the sniffing finds in the reply, and
changes the version in no other way. -/
theorem bridgeHandleFrame_adopts {b b' : Bridge} {f : List Byte} {s : σ}
    (hf : frameKind f = .data)
    (hdone : (bridgeHandleFrame g b f s).outcome = .done b') :
    (b'.ver, b'.negotiated) = adopted b (ashMask f.tail)
      (firstReply (bridgeHandleFrame g b f s).trace) := by
  have hquiet : ∀ e ∈ [Event.note (I := host) (.handleFrame b f)],
      IsQuiet e :=
    fun e he => List.mem_singleton.mp he ▸ isQuiet_note _
  have hframe : Holds unbound [] (bridgeHandleFrame g b f : Host σ Bridge)
      fun b' h' => (b'.ver, b'.negotiated) =
        adopted b (ashMask f.tail) (firstReply h') := by
    rw [bridgeHandleFrame_eq, hf]
    apply Holds.bind
    apply Holds.note trivial
    dsimp only
    by_cases hready : b.ready = false
    · rw [if_pos hready]
      apply Holds.pure
      rw [List.nil_append, firstReply_of_quiet hquiet]
      rfl
    · rw [if_neg hready]
      exact bridgeHandleData_version g hquiet
  exact (hframe s).2.1 b' hdone

/-! ## When that is right -/

/-- The byte the bridge looks at decides the id up to version 7, and half of
it from version 8 on. -/
private theorem frameId_eq_zero_iff (ver : Int) (ezsp : List Byte) :
    frameId ver ezsp = some 0 ↔
      ezsp[(ezspLayout ver).2]? = some ezspVersion ∧
        (ver ≥ 8 → ezsp[4]? = some 0) := by
  rw [frameId]
  by_cases hver : ver ≥ 8
  · have hlayout : (ezspLayout ver).2 = 3 := by rw [ezspLayout, if_pos hver]
    rw [if_pos hver, hlayout]
    cases ezsp[3]? with
    | none => simp
    | some low =>
        cases ezsp[4]? with
        | none => simp [hver]
        | some high => simp [hver, ezspVersion, BitVec.toNat_eq]
  · rw [if_neg hver, Option.map_eq_some_iff]
    constructor
    · rintro ⟨id, hid, hzero⟩
      have hversion : id = ezspVersion := BitVec.eq_of_toNat_eq hzero
      exact ⟨hversion ▸ hid, fun h => absurd h hver⟩
    · rintro ⟨hid, _⟩
      exact ⟨ezspVersion, hid, rfl⟩

/-- An exchange that announces a version is a version exchange, unless it
shows one of the three mismatches. -/
private theorem versionExchange_iff {ver : Int} {ezsp resp : List Byte}
    {v : Byte} (hrequest : ezsp[(ezspLayout ver).2]? = some ezspVersion)
    (hreply : firstParameter ver resp = some v) (hrange : 4 ≤ v ∧ v ≤ 13) :
    VersionExchange ver ezsp resp ↔
      ¬((ver ≥ 8 ∧ ezsp[4]? ≠ some 0) ∨ frameId ver resp ≠ some 0 ∨
        firstParameter ver ezsp ≠ some v) := by
  constructor
  · rintro ⟨hid, hid', hasked, _⟩ (⟨hver, hhigh⟩ | hother | hversion)
    · exact hhigh (((frameId_eq_zero_iff ver ezsp).mp hid).2 hver)
    · exact hother hid'
    · exact hversion (hasked.trans hreply)
  · intro hmatch
    obtain ⟨hhigh, hrest⟩ := not_or.mp hmatch
    obtain ⟨hid', hasked⟩ := not_or.mp hrest
    have hid : frameId ver ezsp = some 0 := by
      apply (frameId_eq_zero_iff ver ezsp).mpr
      exact ⟨hrequest, fun hver => not_not.mp fun hne => hhigh ⟨hver, hne⟩⟩
    exact ⟨hid, not_not.mp hid', (not_not.mp hasked).trans hreply.symm,
      v, hreply, hrange⟩

/-- Every DATA frame the bridge handles, in any state: the version changes
only for a version exchange in which client and NCP agree, if and only if the
exchange is not one the bridge mistakes for that. -/
theorem bridgeHandleFrame_sniffs_iff (b b' : Bridge) (f : List Byte) (s : σ)
    (hf : frameKind f = .data)
    (hdone : (bridgeHandleFrame g b f s).outcome = .done b') :
    ((b'.ver ≠ b.ver ∨ b'.negotiated ≠ b.negotiated) →
      ∃ resp, firstReply (bridgeHandleFrame g b f s).trace = some resp ∧
        VersionExchange b.ver (ashMask f.tail) resp) ↔
    ¬∃ resp v, firstReply (bridgeHandleFrame g b f s).trace = some resp ∧
      Mistakable b (ashMask f.tail) resp v := by
  have hadopted := bridgeHandleFrame_adopts g hf hdone
  generalize firstReply (bridgeHandleFrame g b f s).trace = reply at hadopted ⊢
  have hsame (hnone : reply.bind (sniffVersion b.ver (ashMask f.tail)) = none) :
      ¬(b'.ver ≠ b.ver ∨ b'.negotiated ≠ b.negotiated) := by
    rw [adopted, hnone] at hadopted
    obtain ⟨hver, hnegotiated⟩ := Prod.mk.inj hadopted
    rintro (hne | hne)
    · exact hne hver
    · exact hne hnegotiated
  constructor
  · rintro hexchange ⟨resp, v, rfl, hmistake⟩
    have hsniff : sniffVersion b.ver (ashMask f.tail) resp = some v :=
      sniffVersion_eq_some_iff.mpr ⟨hmistake.request, hmistake.reply⟩
    rw [adopted, Option.bind_some, hsniff] at hadopted
    obtain ⟨hver, hnegotiated⟩ := Prod.mk.inj hadopted
    have hnews : b'.ver ≠ b.ver ∨ b'.negotiated ≠ b.negotiated := by
      rw [hver, hnegotiated]
      rcases hmistake.news with hother | hfirst
      · exact Or.inl hother
      · rw [hfirst]
        exact Or.inr Bool.false_ne_true.symm
    obtain ⟨resp', hresp', hagreed⟩ := hexchange hnews
    rw [← Option.some.inj hresp'] at hagreed
    exact (versionExchange_iff hmistake.request hmistake.reply.1
      hmistake.reply.2).mp hagreed hmistake.mismatch
  · intro hnone hnews
    cases hsniff : reply.bind (sniffVersion b.ver (ashMask f.tail)) with
    | none => exact absurd hnews (hsame hsniff)
    | some v =>
        obtain ⟨resp, rfl, hlook⟩ := Option.bind_eq_some_iff.mp hsniff
        obtain ⟨hrequest, hreply, hrange⟩ := sniffVersion_eq_some_iff.mp hlook
        rw [adopted, hsniff] at hadopted
        obtain ⟨hver, hnegotiated⟩ := Prod.mk.inj hadopted
        refine ⟨resp, rfl, (versionExchange_iff hrequest hreply hrange).mpr ?_⟩
        intro hmismatch
        have hfirst : (v.toNat : Int) ≠ b.ver ∨ b.negotiated = false := by
          rw [hver, hnegotiated] at hnews
          exact hnews.imp_right fun hne =>
            Bool.eq_false_of_not_eq_true hne.symm
        exact hnone ⟨resp, v, rfl, hrequest, ⟨hreply, hrange⟩, hfirst,
          hmismatch⟩

/-- A bridge that has answered an RST. -/
def readyBridge : Bridge :=
  { bridgeInit ⟨3, 4, 5, 7, 6⟩ 8 with cli := 9, ready := true }

/-- The client asks for version 4 and gets it. -/
theorem bridgeHandleFrame_sniffs_iff_agreed :
    (((4 : Int) ≠ 4 ∨ true ≠ false) →
      ∃ resp, firstReply (bridgeHandleFrame ⟨⟨2, true⟩, true⟩ readyBridge
          (0x00 :: ashMask [0x00, 0x00, 0x00, 0x04])
          (⟨[0xFE, 0x04, 0x00, 0x80, 0x00, 0x04, 0xA7], [], [], []⟩ :
            Playback)).trace = some resp ∧
        VersionExchange readyBridge.ver
          (ashMask (0x00 :: ashMask [0x00, 0x00, 0x00, 0x04]).tail) resp) ↔
    ¬∃ resp v, firstReply (bridgeHandleFrame ⟨⟨2, true⟩, true⟩ readyBridge
        (0x00 :: ashMask [0x00, 0x00, 0x00, 0x04])
        (⟨[0xFE, 0x04, 0x00, 0x80, 0x00, 0x04, 0xA7], [], [], []⟩ :
          Playback)).trace = some resp ∧
      Mistakable readyBridge
        (ashMask (0x00 :: ashMask [0x00, 0x00, 0x00, 0x04]).tail) resp v :=
  bridgeHandleFrame_sniffs_iff ⟨⟨2, true⟩, true⟩ readyBridge
    { readyBridge with
      negotiated := true
      frm := 1
      ack := 1
      cbseq := 1
      sent := Function.update (fun _ => []) 0
        (0x01 :: ashMask [0x00, 0x80, 0x00, 0x04]) }
    (0x00 :: ashMask [0x00, 0x00, 0x00, 0x04])
    (⟨[0xFE, 0x04, 0x00, 0x80, 0x00, 0x04, 0xA7], [], [], []⟩ : Playback)
    (by decide) (by decide +kernel)

/-- The client asks for version 8 and the NCP answers that it speaks version 4
only.  Nothing is agreed, and still the bridge takes it for negotiated. -/
theorem bridgeHandleFrame_adopts_refusal :
    ∃ b', (bridgeHandleFrame ⟨⟨2, true⟩, true⟩ readyBridge
        (0x00 :: ashMask [0x00, 0x00, 0x00, 0x08])
        (⟨[0xFE, 0x04, 0x00, 0x80, 0x00, 0x04, 0xA7], [], [], []⟩ :
          Playback)).outcome = .done b' ∧
      ¬((b'.ver ≠ readyBridge.ver ∨
          b'.negotiated ≠ readyBridge.negotiated) →
        ∃ resp, firstReply (bridgeHandleFrame ⟨⟨2, true⟩, true⟩ readyBridge
            (0x00 :: ashMask [0x00, 0x00, 0x00, 0x08])
            (⟨[0xFE, 0x04, 0x00, 0x80, 0x00, 0x04, 0xA7], [], [], []⟩ :
              Playback)).trace = some resp ∧
          VersionExchange readyBridge.ver
            (ashMask (0x00 :: ashMask [0x00, 0x00, 0x00, 0x08]).tail)
            resp) := by
  refine ⟨{ readyBridge with
    negotiated := true
    frm := 1
    ack := 1
    cbseq := 1
    sent := Function.update (fun _ => []) 0
      (0x01 :: ashMask [0x00, 0x80, 0x00, 0x04]) }, by decide +kernel, ?_⟩
  intro hexact
  obtain ⟨resp, hresp, _, _, hasked, _⟩ := hexact (Or.inr Bool.false_ne_true.symm)
  have hreply : firstReply (bridgeHandleFrame ⟨⟨2, true⟩, true⟩ readyBridge
      (0x00 :: ashMask [0x00, 0x00, 0x00, 0x08])
      (⟨[0xFE, 0x04, 0x00, 0x80, 0x00, 0x04, 0xA7], [], [], []⟩ :
        Playback)).trace = some [0x00, 0x80, 0x00, 0x04] := by
    decide +kernel
  rw [hreply, Option.some.injEq] at hresp
  rw [← hresp, List.tail_cons, ashMask_ashMask] at hasked
  exact absurd hasked (by decide)

end EzspSpi
