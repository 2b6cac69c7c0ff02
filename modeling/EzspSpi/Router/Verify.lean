import EzspSpi.Router.Configured
import EzspSpi.Router.Negotiation

/-!
# The check before a flash

`cmd_verify` compares the platform that an image was built for with the one in
the answer to getBootloaderVersion.  `ezsp_cmd` only warns of an answer with
another frame id, so the check is right exactly if no such answer has the bytes
of the image in the same places.
-/

namespace EzspSpi

open Program

variable {σ : Type} [Kernel σ] (g : Globals) (c : RouterCfg) (p : Pins)

def ezspGetBootloaderVersion : Byte := 0x91

def eblSig : List Byte := [0x02, 0x02, 0xE3, 0x50]

/-- `cmd_verify` of a file with this content, if one is given and can be
opened: 0 for "safe to flash on this chip". -/
def cmdVerify (file : Option (List Byte)) (r : Router) : Host σ ℕ :=
  match file with
  | none => die
  | some hdr =>
      if hdr.length < 0x40 then die
      else if (hdr.drop 4).take 4 ≠ eblSig then pure 1
      else do
        let (r, ver) ← radioUp g c p r
        if ver = none then pure 1
        else do
          let (_, reply) ← ezspCmd g p r ezspGetBootloaderVersion [] 16
          let out := reply.getD []
          if out.length < 5 then pure 1
          else if out.getD 2 0 ≠ hdr.getD 0x28 0 ∨
              out.getD 3 0 ≠ hdr.getD 0x29 0 ∨
              out.getD 4 0 ≠ hdr.getD 0x2A 0 then pure 1
          else pure 0

/-! ## Answers -/

/-- The file has the signature of an EM35x image at offset 4. -/
def HasSignature (file : Option (List Byte)) : Prop :=
  ∃ hdr, file = some hdr ∧ (hdr.drop 4).take 4 = eblSig

/-- The platform, micro and phy bytes of a payload are those of the image. -/
def NamesTarget (hdr payload : List Byte) : Prop :=
  5 ≤ payload.length ∧ payload.getD 2 0 = hdr.getD 0x28 0 ∧
    payload.getD 3 0 = hdr.getD 0x29 0 ∧ payload.getD 4 0 = hdr.getD 0x2A 0

/-- The frame id of an answer to this command: two bytes in the layout of
version 8, one in the others. -/
def answeredId (tx frame : List Byte) : BitVec 16 :=
  let (hdr, idOff) := commandLayout tx
  if idOff + 1 < hdr then le16 frame idOff
  else (frame.getD idOff 0).setWidth 16

/-- The command is getBootloaderVersion, and the answer to it has the bytes of
the image where those of the chip would be. -/
def AnswersTarget (file : Option (List Byte)) (x : Exchange)
    (frame : List Byte) : Prop :=
  commandId x.command = ezspGetBootloaderVersion ∧ x.frame? = some frame ∧
    ∃ hdr, file = some hdr ∧
      NamesTarget hdr (frame.drop (commandLayout x.command).1)

theorem namesTarget_take {hdr payload : List Byte} :
    NamesTarget hdr (payload.take 16) ↔ NamesTarget hdr payload := by
  have hget (i : ℕ) (hi : i < 16) :
      (payload.take 16).getD i 0 = payload.getD i 0 := by
    rw [List.getD_eq_getElem?_getD, List.getElem?_take_of_lt hi,
      ← List.getD_eq_getElem?_getD]
  rw [NamesTarget, NamesTarget, hget 2 (by decide), hget 3 (by decide),
    hget 4 (by decide), List.length_take]
  have hlength : 5 ≤ min 16 payload.length ↔ 5 ≤ payload.length := by omega
  rw [hlength]

/-- What `cmd_verify` has of an answer names the target exactly if the answer
does. -/
private theorem namesTarget_reply (hdr : List Byte) (ver : ℕ)
    (frame? : Option (List Byte)) :
    NamesTarget hdr
        (((frame?.bind (unwrapReply ver 16)).map Prod.snd).getD []) ↔
      ∃ frame, frame? = some frame ∧
        NamesTarget hdr (frame.drop (ezspLayout ver).1) := by
  have hempty : ¬NamesTarget hdr [] := fun h => absurd h.1 (by decide)
  cases frame? with
  | none => exact iff_of_false hempty fun ⟨_, h, _⟩ => nomatch h
  | some frame =>
      have hframe : (∃ f, some frame = some f ∧
          NamesTarget hdr (f.drop (ezspLayout ver).1)) ↔
            NamesTarget hdr (frame.drop (ezspLayout ver).1) := by
        simp
      rw [hframe, Option.bind_some, unwrapReply]
      by_cases hshort : frame.length < (ezspLayout ver).1
      · have hnil : frame.drop (ezspLayout ver).1 = [] :=
          List.drop_of_length_le hshort.le
        rw [if_pos hshort, hnil]
        rfl
      · rw [if_neg hshort]
        exact namesTarget_take

/-! ## Runs -/

/-- Only version commands before getBootloaderVersion. -/
private theorem exchanges_of_asks {t : List HostEvent}
    (ht : ∀ e ∈ t, AsksVersion e) :
    ∀ x ∈ exchanges t, commandId x.command = ezspVersion := by
  intro x hx
  obtain ⟨e, he, hcommand⟩ := mem_exchanges_command.mp ⟨x, hx, rfl⟩
  have hasks := ht e he
  cases e with
  | note n => cases hcommand
  | call call r =>
      cases call with
      | spiTransfer tx keepRx keepCs =>
          cases keepRx with
          | true => cases hcommand
          | false =>
              obtain ⟨seq, want, rfl⟩ := hasks
              rw [commandOf_transfer hcommand]
              exact (command_ezspTx (by decide) 4 seq [want]).1
      | _ => cases hcommand

private theorem radioUp_asks (r : Router) :
    Holds anyRun [] (radioUp g c p r : Host σ _) fun _ t =>
      ∀ e ∈ t, AsksVersion e := by
  have hparts := asksVersion_busParts (σ := σ)
  have hemits : Emits AsksVersion (radioUp g c p r : Host σ _) := by
    apply Emits.bind
    · exact Emits.onlyIf (hparts.txnParts.commandReset p (Emits.note trivial))
    · intro _
      exact hparts.txnParts.ezspInit g p (fun seq want => ⟨seq, want, rfl⟩)
        (Emits.note trivial) c r
  apply (hemits.appends (fun _ _ _ => trivial) fun _ => trivial).mono
  rintro _ _ ⟨t, ht, rfl⟩
  exact ht

/-- The exchanges of a check that comes to its command: only the last one has
an answer to getBootloaderVersion. -/
private theorem answers_last (file : Option (List Byte))
    {t t' : List HostEvent} {ver : ℕ} {seq : Byte} {x : Exchange}
    (ht : ∀ e ∈ t, AsksVersion e)
    (hcommanded : Commanded (ezspTx ver seq ezspGetBootloaderVersion []) x t') :
    x ∈ exchanges (t ++ t') ∧ ∀ y ∈ exchanges (t ++ t'), ∀ frame,
      AnswersTarget file y frame → y = x := by
  have hlast := (hcommanded.exchanges_append t).1
  refine ⟨List.mem_of_getLast? hlast, ?_⟩
  intro y hy frame ⟨hid, hframe, _⟩
  obtain ⟨hfirst, _, hexchanges⟩ := hcommanded
  rw [(exchanges_append hfirst).1, List.mem_append] at hy
  rcases hy with hy | hy
  · exact absurd ((exchanges_of_asks ht y hy).symm.trans hid) (by decide)
  · rcases hexchanges with hone | ⟨notice, htwo, _, hnotice⟩
    · rw [hone] at hy
      exact List.mem_singleton.mp hy
    · rw [htwo] at hy
      rcases List.mem_cons.mp hy with rfl | hy
      · rw [frame?_of_notice hnotice] at hframe
        cases hframe
      · exact List.mem_singleton.mp hy

/-- What a check that returns has seen. -/
private structure Checked (file : Option (List Byte)) (code : ℕ)
    (t : List HostEvent) : Prop where
  passes : code = 0 ↔ ∃ x ∈ exchanges t, ∃ frame, AnswersTarget file x frame
  signed : code = 0 → HasSignature file
  once : ∀ x ∈ exchanges t, ∀ y ∈ exchanges t, ∀ frame frame',
    AnswersTarget file x frame → AnswersTarget file y frame' → x = y

/-- A check that fails before it has asked for the platform. -/
private theorem Checked.early {file : Option (List Byte)}
    {t : List HostEvent} (ht : ∀ e ∈ t, AsksVersion e) : Checked file 1 t := by
  have hnone : ∀ x ∈ exchanges t, ∀ frame, ¬AnswersTarget file x frame := by
    intro x hx frame ⟨hid, _⟩
    exact absurd ((exchanges_of_asks ht x hx).symm.trans hid) (by decide)
  constructor
  · refine iff_of_false Nat.one_ne_zero ?_
    rintro ⟨x, hx, frame, hanswers⟩
    exact hnone x hx frame hanswers
  · exact fun h => absurd h Nat.one_ne_zero
  · exact fun x hx _ _ frame _ hanswers => absurd hanswers (hnone x hx frame)

private theorem cmdVerify_holds (file : Option (List Byte)) (r : Router) :
    Holds anyRun [] (cmdVerify g c p file r : Host σ ℕ) (Checked file) := by
  cases file with
  | none => exact Holds.halt trivial
  | some hdr =>
      rw [cmdVerify]
      by_cases hshort : hdr.length < 0x40
      · rw [if_pos hshort]
        exact Holds.halt trivial
      rw [if_neg hshort]
      by_cases hsig : (hdr.drop 4).take 4 ≠ eblSig
      · rw [if_pos hsig]
        exact Holds.pure (Checked.early fun e he => absurd he List.not_mem_nil)
      rw [if_neg hsig]
      apply (radioUp_asks g c p r).seq
      rintro ⟨r', ver⟩ t ht
      dsimp only
      by_cases hver : ver = none
      · rw [if_pos hver]
        exact Holds.pure (Checked.early ht)
      rw [if_neg hver]
      have hparams : ([] : List Byte).length ≤ 135 := by decide
      apply (ezspCmd_holds g p (fun _ => trivial) anyRun_bus r'
        ezspGetBootloaderVersion hparams 16 fun _ _ _ => trivial).seq
      rintro _ _ ⟨t', x, rfl, hcommanded, rfl⟩
      obtain ⟨hmem, honly⟩ := answers_last (some hdr) ht hcommanded
      have hx : x.command =
          ezspTx r'.ezspVersion r'.seq ezspGetBootloaderVersion [] :=
        hcommanded.2.1
      have hlayout : commandLayout x.command = ezspLayout r'.ezspVersion :=
        hx ▸ commandLayout_ezspTx (by decide) _ _ _
      have hid : commandId x.command = ezspGetBootloaderVersion :=
        hx ▸ (command_ezspTx (by decide) _ _ _).1
      have hnames := namesTarget_reply hdr r'.ezspVersion x.frame?
      dsimp only
      generalize ((x.frame?.bind (unwrapReply r'.ezspVersion 16)).map
        Prod.snd).getD [] = out at hnames
      have hchecked {code : ℕ} (hcode : code = 0 ↔ NamesTarget hdr out) :
          Checked (some hdr) code (t ++ t') := by
        constructor
        · rw [hcode, hnames]
          constructor
          · rintro ⟨frame, hframe, htarget⟩
            exact ⟨x, hmem, frame, hid, hframe, hdr, rfl, hlayout ▸ htarget⟩
          · rintro ⟨y, hy, frame, hanswers⟩
            obtain rfl := honly y hy frame hanswers
            obtain ⟨_, hframe, hdr', heq, htarget⟩ := hanswers
            cases heq
            exact ⟨frame, hframe, hlayout ▸ htarget⟩
        · exact fun _ => ⟨hdr, rfl, not_not.mp hsig⟩
        · intro y hy z hz frame frame' hanswers hanswers'
          exact (honly y hy frame hanswers).trans
            (honly z hz frame' hanswers').symm
      by_cases hlength : out.length < 5
      · rw [if_pos hlength]
        apply Holds.pure (hchecked (iff_of_false Nat.one_ne_zero ?_))
        exact fun h => absurd h.1 (Nat.not_le.mpr hlength)
      rw [if_neg hlength]
      by_cases hdiffers : out.getD 2 0 ≠ hdr.getD 0x28 0 ∨
          out.getD 3 0 ≠ hdr.getD 0x29 0 ∨ out.getD 4 0 ≠ hdr.getD 0x2A 0
      · rw [if_pos hdiffers]
        apply Holds.pure (hchecked (iff_of_false Nat.one_ne_zero ?_))
        rintro ⟨_, hplatform, hmicro, hphy⟩
        rcases hdiffers with h | h | h
        · exact h hplatform
        · exact h hmicro
        · exact h hphy
      · rw [if_neg hdiffers]
        obtain ⟨hplatform, hmicro, hphy⟩ :
            out.getD 2 0 = hdr.getD 0x28 0 ∧ out.getD 3 0 = hdr.getD 0x29 0 ∧
              out.getD 4 0 = hdr.getD 0x2A 0 := by
          simpa only [not_or, not_not] using hdiffers
        exact Holds.pure (hchecked (iff_of_true rfl
          ⟨not_lt.mp hlength, hplatform, hmicro, hphy⟩))

/-- The check passes only on the NCP's own answer to getBootloaderVersion,
exactly if no frame with another id comes back for it with the bytes of the
image in their places. -/
theorem cmdVerify_genuine_iff (file : Option (List Byte)) (r : Router)
    (s : σ) :
    ((cmdVerify g c p file r s).outcome = .done 0 →
      HasSignature file ∧
        ∃ x ∈ exchanges (cmdVerify g c p file r s).trace, ∃ frame,
          AnswersTarget file x frame ∧ answeredId x.command frame = 0x91) ↔
      ∀ code, (cmdVerify g c p file r s).outcome = .done code →
        ∀ x ∈ exchanges (cmdVerify g c p file r s).trace, ∀ frame,
          AnswersTarget file x frame → answeredId x.command frame = 0x91 := by
  have hchecked := (cmdVerify_holds g c p file r s).2.1
  constructor
  · intro hgenuine code hdone x hx frame hanswers
    have hcheck := hchecked code hdone
    have hpasses : code = 0 := hcheck.passes.mpr ⟨x, hx, frame, hanswers⟩
    rw [hpasses] at hdone
    obtain ⟨_, y, hy, frame', hanswers', hid⟩ := hgenuine hdone
    obtain rfl := hcheck.once x hx y hy frame frame' hanswers hanswers'
    have hframe : frame = frame' :=
      Option.some.inj (hanswers.2.1.symm.trans hanswers'.2.1)
    rw [hframe, hid]
  · intro hown hdone
    have hcheck := hchecked 0 hdone
    obtain ⟨x, hx, frame, hanswers⟩ := hcheck.passes.mp rfl
    exact ⟨hcheck.signed rfl, x, hx, frame, hanswers,
      hown 0 hdone x hx frame hanswers⟩

/-! ## A callback in the way -/

/-- An image for platform 4, micro 4 and phy 1. -/
def sampleImage : List Byte :=
  List.replicate 4 0 ++ eblSig ++ List.replicate 32 0 ++ [4, 4, 1] ++
    List.replicate 21 0

/-- The NCP agrees on version 4 and hands out a queued messageSentHandler when
it is asked for its platform. -/
def queuedNcp : Playback :=
  ⟨[0xFE, 0x07, 0x00, 0x80, 0x00, 0x04, 0x02, 0x00, 0x54, 0xA7,
    0xFE, 0x08, 0x01, 0x80, 0x3F, 0x00, 0x34, 0x04, 0x04, 0x01, 0xA7],
    [], [], []⟩

/-- A queued callback is enough to declare an image safe to flash. -/
theorem cmdVerify_passes_on_callback :
    ¬∀ (g : Globals) (c : RouterCfg) (p : Pins) (file : Option (List Byte))
      (r : Router) (s : Playback),
      (cmdVerify g c p file r s).outcome = .done 0 →
        HasSignature file ∧
          ∃ x ∈ exchanges (cmdVerify g c p file r s).trace, ∃ frame,
            AnswersTarget file x frame ∧
              answeredId x.command frame = 0x91 := by
  intro hall
  have hpasses : (cmdVerify ⟨⟨2, false⟩, true⟩ defaultCfg ⟨3, 4, 5, 7, -1⟩
      (some sampleImage) routerInit queuedNcp).outcome = .done 0 := by
    decide +kernel
  obtain ⟨_, x, hx, frame, ⟨_, hframe, _⟩, hid⟩ := hall _ _ _ _ _ _ hpasses
  have hother : ∀ x ∈ exchanges (cmdVerify ⟨⟨2, false⟩, true⟩ defaultCfg
      ⟨3, 4, 5, 7, -1⟩ (some sampleImage) routerInit queuedNcp).trace,
      x.frame?.all (fun frame => answeredId x.command frame != 0x91) =
        true := by
    decide +kernel
  have hne := hother x hx
  rw [hframe] at hne
  simp [hid] at hne

end EzspSpi
