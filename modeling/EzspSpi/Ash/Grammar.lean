import EzspSpi.Ash.Events
import EzspSpi.Ash.Receiver

/-!
# The grammar of the client's stream

A reading of the stream segment by segment, without a state, and the proof
that the byte-at-a-time receiver hands on exactly the frames of this reading,
malformed streams included.
-/

namespace EzspSpi

open Program ByteStuffing

variable {σ : Type} [Kernel σ] (g : Globals)

/-! ## The reading -/

/-- The text of a piece of the stream: flow control is left out, and each run
of escapes is applied to the byte after it. -/
def pieceText (piece : List Byte) : List Byte :=
  unescape ashScheme (piece.filter fun c => !ashFlow c)

/-- The text of a segment, which starts after the last CANCEL in it. -/
def segmentText (segment : List Byte) : List Byte :=
  pieceText ((segment.splitOn ashCancel).getLastD [])

/-- The frame of a text that ends with the CRC of what is before it. -/
def checkedFrame (text : List Byte) : Option (List Byte) :=
  let frame := text.take (text.length - 2)
  if 3 ≤ text.length ∧ text.drop (text.length - 2) = ashTail frame then
    some frame
  else none

/-- The segments of a stream.  What follows the last FLAG is not one yet. -/
def segments (stream : List Byte) : List (List Byte) :=
  (stream.splitOn ashFlag).dropLast

/-- The frames of a stream. -/
def decodedFrames (stream : List Byte) : List (List Byte) :=
  (segments stream).filterMap fun segment => checkedFrame (segmentText segment)

def isDelimiter (c : Byte) : Bool := c = ashFlag ∨ c = ashCancel

/-- No piece that a FLAG or a CANCEL ends is longer than the receive
buffer. -/
def Fits (stream : List Byte) : Prop :=
  ∀ piece ∈ (stream.splitOnP isDelimiter).dropLast,
    (pieceText piece).length ≤ ashMaxFrame * 2

/-- The frames handed to `bridge_handle_frame` along a trace. -/
def handed (t : List HostEvent) : List (List Byte) :=
  t.filterMap fun e =>
    match e with
    | .note (.handleFrame _ f) => some f
    | _ => none

/-! ## One segment after the other -/

theorem segments_append_flag {segment : List Byte}
    (hsegment : ashFlag ∉ segment) (stream : List Byte) :
    segments (segment ++ ashFlag :: stream) = segment :: segments stream := by
  rw [segments, List.splitOn_append_cons_self_of_not_mem hsegment,
    List.dropLast_cons_of_ne_nil (List.splitOn_ne_nil _ _), segments]

theorem segments_of_no_flag {stream : List Byte} (hstream : ashFlag ∉ stream) :
    segments stream = [] := by
  rw [segments, List.splitOn_eq_singleton hstream]
  rfl

theorem decodedFrames_append_flag {segment : List Byte}
    (hsegment : ashFlag ∉ segment) (stream : List Byte) :
    decodedFrames (segment ++ ashFlag :: stream) =
      (checkedFrame (segmentText segment)).toList ++ decodedFrames stream := by
  rw [decodedFrames, segments_append_flag hsegment, List.filterMap_cons]
  cases checkedFrame (segmentText segment) <;> rfl

theorem decodedFrames_of_no_flag {stream : List Byte}
    (hstream : ashFlag ∉ stream) : decodedFrames stream = [] := by
  rw [decodedFrames, segments_of_no_flag hstream, List.filterMap_nil]

omit [Kernel σ] in
theorem getLastD_splitOn_append (d : Byte) (piece segment : List Byte) :
    ((piece ++ d :: segment).splitOn d).getLastD [] =
      (segment.splitOn d).getLastD [] := by
  rw [List.splitOn_append_cons_self, List.getLastD_eq_getLast?,
    List.getLastD_eq_getLast?, List.getLast?_append]
  cases hlast : (segment.splitOn d).getLast? with
  | none =>
      exact absurd (List.getLast?_eq_none_iff.mp hlast)
        (List.splitOn_ne_nil _ _)
  | some last => rfl

/-- What a CANCEL ends counts for nothing. -/
theorem segmentText_cancel (piece segment : List Byte) :
    segmentText (piece ++ ashCancel :: segment) = segmentText segment := by
  rw [segmentText, getLastD_splitOn_append, segmentText]

theorem segmentText_of_no_cancel {piece : List Byte}
    (hpiece : ashCancel ∉ piece) : segmentText piece = pieceText piece := by
  rw [segmentText, List.splitOn_eq_singleton hpiece]
  rfl

theorem decodedFrames_cancel {piece : List Byte} (hpiece : ashFlag ∉ piece)
    (stream : List Byte) :
    decodedFrames (piece ++ ashCancel :: stream) = decodedFrames stream := by
  have hneither {segment : List Byte} (hsegment : ashFlag ∉ segment) :
      ashFlag ∉ piece ++ ashCancel :: segment := by
    simp only [List.mem_append, List.mem_cons, not_or]
    exact ⟨hpiece, by decide, hsegment⟩
  by_cases hflag : ashFlag ∈ stream
  · obtain ⟨segment, rest, rfl, hsegment⟩ := List.eq_append_cons_of_mem hflag
    rw [← List.cons_append, ← List.append_assoc,
      decodedFrames_append_flag (hneither hsegment),
      decodedFrames_append_flag hsegment, segmentText_cancel]
  · rw [decodedFrames_of_no_flag (hneither hflag),
      decodedFrames_of_no_flag hflag]

/-- A piece without a delimiter in it. -/
def IsPiece (piece : List Byte) : Prop :=
  ∀ c ∈ piece, isDelimiter c = false

theorem IsPiece.not_mem {piece : List Byte} (hpiece : IsPiece piece) :
    ashFlag ∉ piece ∧ ashCancel ∉ piece := by
  constructor
  · intro hmem
    exact absurd (hpiece _ hmem) (by decide)
  · intro hmem
    exact absurd (hpiece _ hmem) (by decide)

theorem fits_append_delimiter {piece stream : List Byte} {d : Byte}
    (hpiece : IsPiece piece) (hd : isDelimiter d = true) :
    Fits (piece ++ d :: stream) ↔
      (pieceText piece).length ≤ ashMaxFrame * 2 ∧ Fits stream := by
  rw [Fits, List.splitOnP_append_cons_of_forall_mem hpiece d hd,
    List.dropLast_cons_of_ne_nil (List.splitOnP_ne_nil _ _),
    List.forall_mem_cons, Fits]

/-! ## The frame check -/

private theorem getElem_low_mask : ∀ i (hi : i < 8), (255#8)[i] = true := by
  decide

private theorem ashTail_joined (high low : Byte) :
    (((high.setWidth 16 <<< 8) ||| low.setWidth 16) >>> 8).setWidth 8 = high ∧
      (((high.setWidth 16 <<< 8) ||| low.setWidth 16) &&& 0xFF).setWidth 8 =
        low := by
  constructor <;> apply BitVec.eq_of_getLsbD_eq <;> intro i hi
  · have hshift : 8 + i < 16 := by omega
    simp [hi, hshift]
  · simp [hi, getElem_low_mask i hi]

/-- The check of the code is the check of the reading. -/
theorem ashChecked_iff {rx : List Byte} (hlen : 3 ≤ rx.length) :
    ashChecked rx = true ↔
      rx.drop (rx.length - 2) = ashTail (rx.take (rx.length - 2)) := by
  constructor
  · intro hchecked
    have hcrc := of_decide_eq_true hchecked
    have hjoined := ashTail_joined (rx.getD (rx.length - 2) 0)
      (rx.getD (rx.length - 2 + 1) 0)
    rw [ashTail, hcrc, hjoined.1, hjoined.2]
    have hfirst : rx.length - 2 < rx.length := by omega
    have hsecond : rx.length - 2 + 1 < rx.length := by omega
    have hnone : rx.length ≤ rx.length - 2 + 1 + 1 := by omega
    rw [List.drop_eq_getElem_cons hfirst, List.drop_eq_getElem_cons hsecond,
      List.drop_eq_nil_of_le hnone, ← List.getElem_eq_getD (h := hfirst) 0,
      ← List.getElem_eq_getD (h := hsecond) 0]
  · intro htail
    have hchecked := ashChecked_append_ashTail (rx.take (rx.length - 2))
    rwa [← htail, List.take_append_drop] at hchecked

theorem checkedFrame_eq (rx : List Byte) :
    checkedFrame rx =
      if 3 ≤ rx.length ∧ ashChecked rx = true then
        some (rx.take (rx.length - 2))
      else none := by
  simp only [checkedFrame]
  by_cases hlen : 3 ≤ rx.length
  · simp only [hlen, true_and, ashChecked_iff hlen]
  · rw [if_neg fun h => hlen h.1, if_neg fun h => hlen h.1]

/-! ## The receiver hands on the frames of the reading -/

omit [Kernel σ] in
@[simp]
theorem handed_append (t t' : List HostEvent) :
    handed (t ++ t') = handed t ++ handed t' := List.filterMap_append

omit [Kernel σ] in
private theorem handed_of_handling {t : List HostEvent}
    (ht : ∀ e ∈ t, IsHandling e) : handed t = [] := by
  apply List.filterMap_eq_nil_iff.mpr
  intro e he
  have hhandling := ht e he
  cases e with
  | call c r => rfl
  | note n => cases n <;> first | rfl | exact hhandling.elim

/-- The frames handed on are the first of these. -/
def handsOn (frames : List (List Byte)) : Contract host where
  event h e := handed (h ++ [e]) <+: frames
  halt h := handed h <+: frames

variable {frames : List (List Byte)} {h : List HostEvent}

omit [Kernel σ] in
private theorem handling_handed {α : Type} {m : Host σ α}
    (hm : Emits IsHandling m) (hh : handed h <+: frames) :
    Holds (handsOn frames) h m fun _ h' => handed h' = handed h := by
  have hstep : ∀ h' e, IsHandling e → handed h' = handed h →
      handed (h' ++ [e]) <+: frames ∧ handed (h' ++ [e]) = handed h := by
    intro h' e he hsame
    have hnothing : handed [e] = [] :=
      handed_of_handling fun e' he' => List.mem_singleton.mp he' ▸ he
    rw [handed_append, hnothing, List.append_nil, hsame]
    exact ⟨hh, rfl⟩
  have hhalt : ∀ h', handed h' = handed h → handed h' <+: frames :=
    fun _ hsame => hsame ▸ hh
  exact hm.holds hstep hhalt rfl

private theorem bridgeFlag_hands (b : Bridge)
    (hh : handed h ++ (checkedFrame b.rx).toList <+: frames) :
    Holds (handsOn frames) h (bridgeFlag g b : Host σ Bridge)
      fun b' h' => handed h' = handed h ++ (checkedFrame b.rx).toList ∧
        b'.rx = [] ∧ b'.esc = false := by
  rw [checkedFrame_eq] at hh ⊢
  rw [bridgeFlag]
  by_cases hframe : 3 ≤ b.rx.length ∧ ashChecked b.rx = true
  · rw [if_pos hframe] at hh ⊢
    rw [if_pos hframe]
    obtain ⟨m, hm, heq⟩ := bridgeHandleFrame_emits (σ := σ) g b
      (b.rx.take (b.rx.length - 2))
    have hnoted : handed (h ++ [.note (.handleFrame b
        (b.rx.take (b.rx.length - 2)))]) =
        handed h ++ [b.rx.take (b.rx.length - 2)] := handed_append _ _
    have hallowed : handed (h ++ [.note (.handleFrame b
        (b.rx.take (b.rx.length - 2)))]) <+: frames := by
      rw [hnoted]
      exact hh
    rw [heq]
    apply Holds.bind
    apply Holds.bind
    apply Holds.note hallowed
    apply (handling_handed hm hallowed).mono
    intro b' h' hsame
    exact Holds.pure ⟨hsame.trans hnoted, rfl, rfl⟩
  · rw [if_neg hframe, if_neg hframe, pure_bind]
    exact Holds.pure ⟨(List.append_nil _).symm, rfl, rfl⟩

/-- A FLAG hands on the frame before it, and handling that hands on nothing
more. -/
theorem handed_bridgeFlag (b : Bridge) (s : σ) :
    handed (bridgeFlag g b s).trace = (checkedFrame b.rx).toList := by
  rw [checkedFrame_eq, bridgeFlag]
  by_cases hframe : 3 ≤ b.rx.length ∧ ashChecked b.rx = true
  · obtain ⟨m, hm, heq⟩ := bridgeHandleFrame_emits (σ := σ) g b
      (b.rx.take (b.rx.length - 2))
    have hrest : Emits IsHandling
        (m >>= fun b' => pure { b' with rx := [], esc := false }) :=
      hm.bind fun _ => Emits.pure
    have hnothing : handed ((m >>= fun b' =>
        pure { b' with rx := [], esc := false }) s).trace = [] :=
      handed_of_handling fun e he => hrest.of_mem he
    rw [if_pos hframe, if_pos hframe, heq, bind_assoc]
    exact congrArg (_ :: ·) hnothing
  · rw [if_neg hframe, if_neg hframe]
    rfl

/-- The receiver within a segment: it holds the text of the piece since the
last delimiter. -/
private structure Holding (b : Bridge) (piece : List Byte) : Prop where
  undelimited : IsPiece piece
  state : (b.rx, b.esc) =
    unstuff ashScheme ([], false) (piece.filter fun c => !ashFlow c)

theorem pieceText_eq_unstuff (piece : List Byte) :
    pieceText piece =
      (unstuff ashScheme ([], false)
        (piece.filter fun c => !ashFlow c)).1 :=
  (unstuff_fst ashScheme [] (piece.filter fun c => !ashFlow c) false).symm

private theorem Holding.rx {b : Bridge} {piece : List Byte}
    (hb : Holding b piece) : b.rx = pieceText piece := by
  rw [pieceText_eq_unstuff, ← hb.state]

private theorem holding_nil {b : Bridge} (hrx : b.rx = [])
    (hesc : b.esc = false) : Holding b [] := by
  constructor
  · exact fun c hc => absurd hc List.not_mem_nil
  · rw [hrx, hesc]
    rfl

/-- Flow control adds nothing to a piece. -/
private theorem Holding.flow {b : Bridge} {piece : List Byte} {c : Byte}
    (hb : Holding b piece) (hc : ashFlow c = true)
    (hpiece : IsPiece (piece ++ [c])) : Holding b (piece ++ [c]) := by
  refine ⟨hpiece, ?_⟩
  have hskip : (piece ++ [c]).filter (fun c => !ashFlow c) =
      piece.filter fun c => !ashFlow c := by
    simp [hc]
  rw [hskip]
  exact hb.state

private theorem unstuff_filter_concat {b : Bridge} {piece : List Byte}
    {c : Byte} (hb : Holding b piece) (hc : ashFlow c = false) :
    unstuff ashScheme ([], false)
        ((piece ++ [c]).filter fun c => !ashFlow c) =
      unstuffStep ashScheme (b.rx, b.esc) c := by
  have hkeep : (piece ++ [c]).filter (fun c => !ashFlow c) =
      (piece.filter fun c => !ashFlow c) ++ [c] := by
    simp [hc]
  rw [hkeep, unstuff_append, ← hb.state, unstuff_cons, unstuff_nil]

/-- A stream without a FLAG changes the receiver and nothing else. -/
theorem bridgeFeed_of_no_flag (b : Bridge) {stream : List Byte}
    (hstream : ashFlag ∉ stream) :
    ∃ b', (bridgeFeed g b stream : Host σ Bridge) = pure b' := by
  have hbyte (b : Bridge) (c : Byte) (hc : c ≠ ashFlag) :
      ∃ b', (bridgeFeedByte g b c : Host σ Bridge) = pure b' := by
    rw [bridgeFeedByte, if_neg hc]
    dsimp only
    split_ifs <;> exact ⟨_, rfl⟩
  induction stream generalizing b with
  | nil => exact ⟨b, rfl⟩
  | cons c stream ih =>
      obtain ⟨hc, hrest⟩ := not_or.mp (mt List.mem_cons.mpr hstream)
      obtain ⟨b', hb'⟩ := hbyte b c (Ne.symm hc)
      obtain ⟨b'', hb''⟩ := ih b' hrest
      refine ⟨b'', ?_⟩
      rw [bridgeFeed, List.foldlM_cons, hb', pure_bind]
      exact hb''

/-- A byte that a delimiter follows sooner or later still finds room. -/
private theorem room_of_delimited {piece stream : List Byte} {c : Byte}
    (hfits : Fits (piece ++ c :: stream)) (hpiece : IsPiece (piece ++ [c]))
    (hdelimited : ∃ d ∈ stream, isDelimiter d = true) :
    (pieceText (piece ++ [c])).length ≤ ashMaxFrame * 2 := by
  obtain ⟨d, hd⟩ := Option.isSome_iff_exists.mp
    (List.find?_isSome.mpr hdelimited)
  obtain ⟨hdelim, text, rest, rfl, htext⟩ := List.find?_eq_some_iff_append.mp hd
  have hlonger : IsPiece (piece ++ [c] ++ text) := by
    intro c' hc'
    rcases List.mem_append.mp hc' with hc' | hc'
    · exact hpiece c' hc'
    · simpa using htext c' hc'
  have hcut : piece ++ c :: (text ++ d :: rest) =
      (piece ++ [c] ++ text) ++ d :: rest := by simp
  rw [hcut, fits_append_delimiter hlonger hdelim] at hfits
  have hgrows := length_le_unstuff ashScheme
    (unstuff ashScheme ([], false)
      ((piece ++ [c]).filter fun c => !ashFlow c))
    (text.filter fun c => !ashFlow c)
  rw [← unstuff_append, ← List.filter_append, ← pieceText_eq_unstuff,
    ← pieceText_eq_unstuff] at hgrows
  exact hgrows.trans hfits.1

/-- From within a piece the receiver hands on the frames of the piece and the
rest of the stream. -/
private theorem bridgeFeed_holds (b : Bridge) {piece : List Byte}
    (stream : List Byte) (hb : Holding b piece) (hsub : ashSub ∉ stream)
    (hfits : Fits (piece ++ stream))
    (hh : handed h ++ decodedFrames (piece ++ stream) <+: frames) :
    Holds (handsOn frames) h (bridgeFeed g b stream : Host σ Bridge)
      fun _ h' => handed h' = handed h ++ decodedFrames (piece ++ stream) := by
  induction stream generalizing b piece h with
  | nil =>
      have hnone : decodedFrames (piece ++ []) = [] := by
        rw [List.append_nil]
        exact decodedFrames_of_no_flag hb.undelimited.not_mem.1
      rw [hnone, List.append_nil]
      exact Holds.pure rfl
  | cons c stream ih =>
      obtain ⟨hc, hsub'⟩ := not_or.mp (mt List.mem_cons.mpr hsub)
      rw [bridgeFeed, List.foldlM_cons]
      cases hdelim : isDelimiter c with
      | true =>
          have hboth : c = ashFlag ∨ c = ashCancel := of_decide_eq_true hdelim
          have hrest := (fits_append_delimiter hb.undelimited hdelim).mp hfits
          rcases hboth with rfl | rfl
          · rw [decodedFrames_append_flag hb.undelimited.not_mem.1,
              segmentText_of_no_cancel hb.undelimited.not_mem.2, ← hb.rx,
              ← List.append_assoc] at hh ⊢
            have hflag : (bridgeFeedByte g b ashFlag : Host σ Bridge) =
                bridgeFlag g b := rfl
            have hstart := (List.prefix_append _ _).trans hh
            rw [hflag]
            apply (bridgeFlag_hands g b hstart).seq
            rintro b' h' ⟨hhanded, hrx, hesc⟩
            rw [← hhanded] at hh ⊢
            exact ih b' (holding_nil hrx hesc) hsub' hrest.2 hh
          · rw [decodedFrames_cancel hb.undelimited.not_mem.1] at hh ⊢
            have hcancel : (bridgeFeedByte g b ashCancel : Host σ Bridge) =
                pure { b with rx := [], esc := false } := rfl
            rw [hcancel, pure_bind]
            exact ih _ (holding_nil rfl rfl) hsub' hrest.2 hh
      | false =>
          have hlonger : IsPiece (piece ++ [c]) := by
            intro c' hc'
            rcases List.mem_append.mp hc' with hc' | hc'
            · exact hb.undelimited c' hc'
            · exact List.mem_singleton.mp hc' ▸ hdelim
          have hcut : piece ++ c :: stream = piece ++ [c] ++ stream := by simp
          cases hflow : ashFlow c with
          | true =>
              rw [hcut] at hfits hh ⊢
              rw [bridgeFeedByte_flow g b hflow, pure_bind]
              exact ih b (hb.flow hflow hlonger) hsub' hfits hh
          | false =>
              have htext : IsText c := by
                refine ⟨?_, ?_, Ne.symm hc, hflow⟩
                · rintro rfl
                  exact absurd hdelim (by decide)
                · rintro rfl
                  exact absurd hdelim (by decide)
              have hstep := unstuff_filter_concat hb hflow
              by_cases hdelimited : ∃ d ∈ stream, isDelimiter d = true
              · have hroom := room_of_delimited hfits hlonger hdelimited
                rw [pieceText_eq_unstuff, hstep] at hroom
                rw [hcut] at hfits hh ⊢
                rw [bridgeFeedByte_text g b htext hroom, pure_bind]
                exact ih _ ⟨hlonger, hstep.symm⟩ hsub' hfits hh
              · have hnoflag : ashFlag ∉ c :: stream := by
                  intro hmem
                  rcases List.mem_cons.mp hmem with heq | hmem
                  · exact htext.1 heq.symm
                  · exact hdelimited ⟨ashFlag, hmem, rfl⟩
                have hnone : decodedFrames (piece ++ c :: stream) = [] := by
                  apply decodedFrames_of_no_flag
                  rw [List.mem_append]
                  exact not_or.mpr ⟨hb.undelimited.not_mem.1, hnoflag⟩
                obtain ⟨b', hb'⟩ := bridgeFeed_of_no_flag (σ := σ) g b hnoflag
                rw [bridgeFeed, List.foldlM_cons] at hb'
                rw [hb', hnone, List.append_nil]
                exact Holds.pure rfl

/-- The receiver accepts exactly its grammar.  From an empty receiver, for
every stream without SUB in which no delimited piece outgrows the receive
buffer, however it is cut into reads, the frames handed on are the frames of
the reading: all of them when the run gets to the end of the stream, and the
first of them when handling one ends the process. -/
theorem bridgeFeed_hands_decoded (b : Bridge) (hrx : b.rx = [])
    (hesc : b.esc = false) (chunks : List (List Byte))
    (hsub : ashSub ∉ chunks.flatten) (hfits : Fits chunks.flatten) (s : σ) :
    handed (chunks.foldlM (bridgeFeed g) b s).trace <+:
        decodedFrames chunks.flatten ∧
      ∀ b', (chunks.foldlM (bridgeFeed g) b s).outcome = .done b' →
        handed (chunks.foldlM (bridgeFeed g) b s).trace =
          decodedFrames chunks.flatten := by
  have hstart : handed [] ++ decodedFrames ([] ++ chunks.flatten) <+:
      decodedFrames chunks.flatten := List.prefix_refl _
  obtain ⟨halong, hdone, hhalt⟩ :=
    bridgeFeed_holds g b chunks.flatten (holding_nil hrx hesc) hsub hfits
      hstart s
  rw [bridgeFeed_chunks]
  refine ⟨?_, hdone⟩
  cases houtcome : (bridgeFeed g b chunks.flatten s).outcome with
  | done b' =>
      have hall : handed (bridgeFeed g b chunks.flatten s).trace =
          decodedFrames chunks.flatten := hdone b' houtcome
      exact hall ▸ List.prefix_refl _
  | halt why => exact hhalt why houtcome

/-- An RST after a piece that is cancelled, a frame with a wrong CRC, and a
frame in which flow control comes between two escapes and their operand. -/
def mixedStream : List (List Byte) :=
  [[0x25, 0x1A, 0xC0, 0x38], [0xBC, 0x7E, 0x25, 0x38, 0xBC, 0x7E, 0x25, 0x7D],
    [0x11, 0x7D, 0x5E, 0x13, 0x7D, 0x31, 0x88, 0xEC, 0x7E, 0xC0, 0x38, 0x7D]]

example : decodedFrames mixedStream.flatten = [[0xC0], [0x25, 0x7E, 0x11]] := by
  decide +kernel

theorem bridgeFeed_hands_decoded_mixed :
    handed (mixedStream.foldlM (bridgeFeed ⟨⟨512, true⟩, true⟩)
          (bridgeInit ⟨3, 4, 5, 7, 6⟩ 8) (⟨[], [], [], []⟩ : Playback)).trace <+:
        decodedFrames mixedStream.flatten ∧
      ∀ b', (mixedStream.foldlM (bridgeFeed ⟨⟨512, true⟩, true⟩)
          (bridgeInit ⟨3, 4, 5, 7, 6⟩ 8)
          (⟨[], [], [], []⟩ : Playback)).outcome = .done b' →
        handed (mixedStream.foldlM (bridgeFeed ⟨⟨512, true⟩, true⟩)
          (bridgeInit ⟨3, 4, 5, 7, 6⟩ 8)
          (⟨[], [], [], []⟩ : Playback)).trace =
            decodedFrames mixedStream.flatten :=
  bridgeFeed_hands_decoded ⟨⟨512, true⟩, true⟩ (bridgeInit ⟨3, 4, 5, 7, 6⟩ 8)
    rfl rfl mixedStream (by decide) (by unfold Fits; decide +kernel)
    (⟨[], [], [], []⟩ : Playback)

end EzspSpi
