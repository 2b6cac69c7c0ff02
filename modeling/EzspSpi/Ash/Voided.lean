import EzspSpi.Ash.Grammar
import EzspSpi.Core.Buffer

/-!
# Runs that should come to nothing

After a SUB the receiver goes on collecting bytes, and a run that outgrows the
receive buffer starts over in the middle.  Either way the FLAG that ends the
run hands on what was collected last, if that passes the frame check.
-/

namespace EzspSpi

open Program ByteStuffing

variable {σ : Type} [Kernel σ] (g : Globals)

/-- What the receive buffer holds of a text received since it was empty. -/
def heldText (text : List Byte) : List Byte :=
  startedOver (ashMaxFrame * 2) text

/-- A byte that neither ends nor voids a run. -/
def IsRunByte (c : Byte) : Prop := c ≠ ashFlag ∧ c ≠ ashCancel ∧ c ≠ ashSub

instance (c : Byte) : Decidable (IsRunByte c) :=
  inferInstanceAs (Decidable (_ ∧ _ ∧ _))

private theorem bridgeFeedByte_held (b : Bridge) {text : List Byte}
    (hrx : b.rx = heldText text) {c : Byte} (hc : IsText c) :
    (bridgeFeedByte g b c : Host σ Bridge) =
      pure { b with
        rx := heldText (unstuffStep ashScheme (text, b.esc) c).1
        esc := (unstuffStep ashScheme (text, b.esc) c).2 } := by
  obtain ⟨hflag, hcancel, hsub, hflow⟩ := hc
  have hxon : ¬(c = ashXon ∨ c = ashXoff) := by simpa [ashFlow] using hflow
  rw [bridgeFeedByte, if_neg hxon, if_neg hcancel, if_neg hsub]
  by_cases hesc : c = ashEsc
  · have hstep : unstuffStep ashScheme (text, b.esc) c = (text, true) :=
      if_pos hesc
    rw [if_pos hesc, hstep, ← hrx]
  · have hstep : unstuffStep ashScheme (text, b.esc) c =
        (text ++ [if b.esc then c ^^^ 0x20 else c], false) := if_neg hesc
    rw [if_neg hesc, if_neg hflag, hstep, hrx]
    dsimp only
    rw [heldText, heldText, startedOver_concat]
    split <;> rfl

/-- The receiver collects a run, and holds what it has room for. -/
private theorem bridgeFeed_held (b : Bridge) {text run : List Byte}
    (hrx : b.rx = heldText text) (hrun : ∀ c ∈ run, IsText c) :
    (bridgeFeed g b run : Host σ Bridge) =
      pure { b with
        rx := heldText (unstuff ashScheme (text, b.esc) run).1
        esc := (unstuff ashScheme (text, b.esc) run).2 } := by
  induction run generalizing b text with
  | nil =>
      rw [unstuff_nil, ← hrx]
      rfl
  | cons c run ih =>
      rw [bridgeFeed, List.foldlM_cons,
        bridgeFeedByte_held g b hrx (hrun c List.mem_cons_self), pure_bind]
      exact ih _ rfl fun d hd => hrun d (List.mem_cons_of_mem c hd)

/-- From an empty receiver a run up to its FLAG hands on what is held of it. -/
private theorem handed_run (b : Bridge) (hrx : b.rx = []) {run : List Byte}
    (hrun : ∀ c ∈ run, IsRunByte c) (s : σ) :
    handed (bridgeFeed g b (run ++ [ashFlag]) s).trace =
      (checkedFrame (heldText (unstuff ashScheme ([], b.esc)
        (run.filter fun c => !ashFlow c)).1)).toList := by
  have htext : ∀ c ∈ run.filter (fun c => !ashFlow c), IsText c := by
    intro c hc
    obtain ⟨hmem, hflow⟩ := List.mem_filter.mp hc
    obtain ⟨hflag, hcancel, hsub⟩ := hrun c hmem
    exact ⟨hflag, hcancel, hsub, by simpa using hflow⟩
  have hempty : b.rx = heldText [] := hrx.trans List.drop_nil.symm
  have hflag (b' : Bridge) : (bridgeFeed g b' [ashFlag] : Host σ Bridge) =
      bridgeFlag g b' := bind_pure (bridgeFlag g b')
  rw [bridgeFeed_append, bridgeFeed_filter_flow,
    bridgeFeed_held g b hempty htext, pure_bind, hflag, handed_bridgeFlag]

/-! ## After a SUB -/

/-- The text after the last SUB, the first byte of which is taken as if
escaped. -/
def voidedText (voided : List Byte) : List Byte :=
  unescape ashScheme (ashEsc ::
    ((voided.splitOn ashSub).getLastD []).filter fun c => !ashFlow c)

omit [Kernel σ] in
private theorem exists_last_sub {voided : List Byte} (hmem : ashSub ∈ voided) :
    ∃ before after, voided = before ++ ashSub :: after ∧ ashSub ∉ after := by
  obtain ⟨after, before, heq, hafter⟩ :=
    List.eq_append_cons_of_mem (List.mem_reverse.mpr hmem)
  refine ⟨before.reverse, after.reverse, ?_, mt List.mem_reverse.mp hafter⟩
  rw [← List.reverse_reverse voided, heq]
  simp

private theorem handed_voided (b : Bridge) {voided : List Byte}
    (hvoided : ∀ c ∈ voided, c ≠ ashFlag ∧ c ≠ ashCancel) (s : σ) :
    handed (bridgeFeed g b (ashSub :: voided ++ [ashFlag]) s).trace =
      (checkedFrame (heldText (voidedText voided))).toList := by
  have hsub (b : Bridge) (rest : List Byte) :
      (bridgeFeed g b (ashSub :: rest) : Host σ Bridge) =
        bridgeFeed g { b with rx := [], esc := true } rest := rfl
  have hlast (b : Bridge) {after : List Byte} (hafter : ashSub ∉ after)
      (hmem : ∀ c ∈ after, c ∈ voided) :
      handed (bridgeFeed g b (ashSub :: after ++ [ashFlag]) s).trace =
        (checkedFrame (heldText (voidedText after))).toList := by
    have hrun : ∀ c ∈ after, IsRunByte c := by
      intro c hc
      obtain ⟨hflag, hcancel⟩ := hvoided c (hmem c hc)
      exact ⟨hflag, hcancel, fun heq => hafter (heq ▸ hc)⟩
    rw [List.cons_append, hsub, handed_run g _ rfl hrun, unstuff_fst,
      voidedText, List.splitOn_eq_singleton hafter]
    rfl
  by_cases hmem : ashSub ∈ voided
  · obtain ⟨before, after, rfl, hafter⟩ := exists_last_sub hmem
    have hnoflag : ashFlag ∉ ashSub :: before := by
      intro hflag
      rcases List.mem_cons.mp hflag with heq | hflag
      · exact absurd heq (by decide)
      · exact (hvoided ashFlag (List.mem_append_left _ hflag)).1 rfl
    obtain ⟨b', hb'⟩ := bridgeFeed_of_no_flag (σ := σ) g b hnoflag
    have hcut : ashSub :: (before ++ ashSub :: after) ++ [ashFlag] =
        ashSub :: before ++ (ashSub :: after ++ [ashFlag]) := by simp
    rw [hcut, bridgeFeed_append, hb', pure_bind]
    rw [hlast b' hafter fun c hc =>
      List.mem_append_right _ (List.mem_cons_of_mem _ hc)]
    rw [voidedText, voidedText, getLastD_splitOn_append]
  · exact hlast b hmem fun c hc => hc

/-- A SUB voids what follows it up to the next FLAG exactly if the bytes after
the last SUB, the first of them taken as if escaped, do not make a frame that
passes the check.  The frame after that FLAG is decoded in any case. -/
theorem bridgeFeed_voids_iff (b : Bridge) {voided : List Byte}
    (hvoided : ∀ c ∈ voided, c ≠ ashFlag ∧ c ≠ ashCancel) (s : σ) :
    (handed (bridgeFeed g b (ashSub :: voided ++ [ashFlag]) s).trace = [] ∧
      ∀ f : List Byte, 1 ≤ f.length → f.length ≤ ashMaxFrame →
        (bridgeFeed g b (ashSub :: voided ++ [ashFlag] ++ ashEncode f) :
            Host σ Bridge) =
          bridgeFeed g b (ashSub :: voided ++ [ashFlag]) >>= fun b =>
            deliver g b f) ↔
      checkedFrame (heldText (voidedText voided)) = none := by
  have hdecoded (f : List Byte) (hpos : 1 ≤ f.length)
      (hlen : f.length ≤ ashMaxFrame) :
      (bridgeFeed g b (ashSub :: voided ++ [ashFlag] ++ ashEncode f) :
          Host σ Bridge) =
        bridgeFeed g b (ashSub :: voided ++ [ashFlag]) >>= fun b =>
          deliver g b f := by
    rw [bridgeFeed_append, bridgeFeed_append, bind_assoc, bind_assoc]
    congr 1
    funext b'
    obtain ⟨m, hm⟩ := bridgeFeed_boundary (σ := σ) g b' (Or.inl rfl)
    rw [hm, bind_assoc, bind_assoc]
    congr 1
    funext b''
    rw [pure_bind, pure_bind]
    exact bridgeFeed_ashEncode g _ rfl rfl hpos hlen
  rw [handed_voided g b hvoided s, and_iff_left hdecoded,
    Option.toList_eq_nil_iff]

/-- An RST between a SUB and the next FLAG, its first byte with bit 5
flipped. -/
theorem bridgeFeed_sub_hands_on :
    handed (bridgeFeed ⟨⟨512, true⟩, true⟩ (bridgeInit ⟨3, 4, 5, 7, 6⟩ 8)
      (ashSub :: [0xE0, 0x38, 0xBC] ++ [ashFlag])
      (⟨[], [], [], []⟩ : Playback)).trace = [[0xC0]] := by
  decide +kernel

theorem bridgeFeed_voids_iff_text :
    (handed (bridgeFeed ⟨⟨512, true⟩, true⟩ (bridgeInit ⟨3, 4, 5, 7, 6⟩ 8)
        (ashSub :: [0xC0, 0x38, 0xBC] ++ [ashFlag])
        (⟨[], [], [], []⟩ : Playback)).trace = [] ∧
      ∀ f : List Byte, 1 ≤ f.length → f.length ≤ ashMaxFrame →
        (bridgeFeed ⟨⟨512, true⟩, true⟩ (bridgeInit ⟨3, 4, 5, 7, 6⟩ 8)
            (ashSub :: [0xC0, 0x38, 0xBC] ++ [ashFlag] ++ ashEncode f) :
            Host Playback Bridge) =
          bridgeFeed ⟨⟨512, true⟩, true⟩ (bridgeInit ⟨3, 4, 5, 7, 6⟩ 8)
            (ashSub :: [0xC0, 0x38, 0xBC] ++ [ashFlag]) >>= fun b =>
              deliver ⟨⟨512, true⟩, true⟩ b f) ↔
      checkedFrame (heldText (voidedText [0xC0, 0x38, 0xBC])) = none :=
  bridgeFeed_voids_iff ⟨⟨512, true⟩, true⟩ (bridgeInit ⟨3, 4, 5, 7, 6⟩ 8)
    (by decide) (⟨[], [], [], []⟩ : Playback)

/-! ## Oversized runs -/

/-- The FLAG that ends an oversized run hands on nothing exactly if what is
left of the run, the bytes since the buffer was last found full, does not make
a frame that passes the check. -/
theorem bridgeFeed_discards_iff (b : Bridge) (s : σ) {b' : Bridge}
    (hflag : (bridgeFeed g b [ashFlag] s).outcome = .done b')
    {run : List Byte} (hrun : ∀ c ∈ run, IsRunByte c) (s' : σ) :
    ashMaxFrame * 2 < (pieceText run).length →
      (handed (bridgeFeed g b' (run ++ [ashFlag]) s').trace = [] ↔
        checkedFrame (heldText (pieceText run)) = none) := by
  intro _
  obtain ⟨m, hm⟩ := bridgeFeed_boundary (σ := σ) g b (Or.inl rfl)
  have hyields : Yields (fun b => b.rx = [] ∧ b.esc = false)
      (bridgeFeed g b [ashFlag] : Host σ Bridge) := by
    rw [hm]
    exact Yields.after fun _ => Yields.pure ⟨rfl, rfl⟩
  have hempty := hyields.value s b' hflag
  rw [handed_run g b' hempty.1 hrun, hempty.2, ← pieceText_eq_unstuff,
    Option.toList_eq_nil_iff]

/-- An RST behind a FLAG and 281 other bytes. -/
theorem bridgeFeed_oversized_hands_on :
    ashMaxFrame * 2 <
        (pieceText (List.replicate 281 0 ++ [0xC0, 0x38, 0xBC])).length ∧
      handed (bridgeFeed ⟨⟨512, true⟩, true⟩ (bridgeInit ⟨3, 4, 5, 7, 6⟩ 8)
        (ashFlag :: List.replicate 281 0 ++ [0xC0, 0x38, 0xBC] ++ [ashFlag])
        (⟨[], [], [], []⟩ : Playback)).trace = [[0xC0]] := by
  have hrst : ∀ c ∈ [(0xC0 : Byte), 0x38, 0xBC], IsRunByte c := by decide
  have hrun : ∀ c ∈ List.replicate 281 (0 : Byte) ++ [0xC0, 0x38, 0xBC],
      IsRunByte c := by
    intro c hc
    rcases List.mem_append.mp hc with hzero | hc
    · obtain rfl := List.eq_of_mem_replicate hzero
      decide
    · exact hrst c hc
  -- the first FLAG finds nothing to hand on
  have hfirst (stream : List Byte) :
      (bridgeFeed ⟨⟨512, true⟩, true⟩ (bridgeInit ⟨3, 4, 5, 7, 6⟩ 8)
        (ashFlag :: stream) : Host Playback Bridge) =
      bridgeFeed ⟨⟨512, true⟩, true⟩ (bridgeInit ⟨3, 4, 5, 7, 6⟩ 8)
        stream := rfl
  refine ⟨by decide +kernel, ?_⟩
  rw [List.cons_append, List.cons_append, hfirst, handed_run _ _ rfl hrun]
  decide +kernel

theorem bridgeFeed_discards_iff_zeros :
    ashMaxFrame * 2 < (pieceText (List.replicate 300 0)).length ∧
      (handed (bridgeFeed ⟨⟨512, true⟩, true⟩ (bridgeInit ⟨3, 4, 5, 7, 6⟩ 8)
          (List.replicate 300 0 ++ [ashFlag])
          (⟨[], [], [], []⟩ : Playback)).trace = [] ↔
        checkedFrame (heldText (pieceText (List.replicate 300 0))) = none) := by
  have hlong : ashMaxFrame * 2 < (pieceText (List.replicate 300 0)).length := by
    decide +kernel
  exact ⟨hlong, bridgeFeed_discards_iff ⟨⟨512, true⟩, true⟩
    (bridgeInit ⟨3, 4, 5, 7, 6⟩ 8) (⟨[], [], [], []⟩ : Playback) rfl
    (fun _ hc => List.eq_of_mem_replicate hc ▸ by decide)
    (⟨[], [], [], []⟩ : Playback) hlong⟩

end EzspSpi
