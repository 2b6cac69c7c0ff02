import EzspSpi.Ash.Loop
import EzspSpi.Host.Playback

/-!
# The receiver inverts the sender

Feeding the receiver a frame boundary and then the encodings of some frames
hands on exactly these frames, in order, however the stream is cut into reads
and wherever flow control bytes are inserted.
-/

namespace EzspSpi

open Program ByteStuffing

variable {σ : Type} [Kernel σ] (g : Globals)

/-- One call of `bridge_handle_frame` on a frame in the receive buffer, which
is empty again after it. -/
def deliver (b : Bridge) (f : List Byte) : Host σ Bridge := do
  let b ← bridgeHandleFrame g { b with rx := f ++ ashTail f, esc := false } f
  pure { b with rx := [], esc := false }

/-! ## The frame check -/

private theorem getLsbD_low_mask :
    ∀ i < 8, (255#16).getLsbD i = true := by
  decide

private theorem join_crc_bytes (crc : BitVec 16) :
    (((crc >>> 8).setWidth 8).setWidth 16 <<< 8) |||
      ((crc &&& 0xFF).setWidth 8).setWidth 16 = crc := by
  apply BitVec.eq_of_getLsbD_eq
  intro i hi
  by_cases hlow : i < 8
  · simp [hlow, hi, getLsbD_low_mask i hlow]
  · have hhigh : i - 8 < 8 := by omega
    have hwidth : i - 8 < 16 := by omega
    have hback : 8 + (i - 8) = i := by omega
    simp [hlow, hi, hhigh, hwidth, hback]

@[simp]
theorem length_ashTail (f : List Byte) : (ashTail f).length = 2 := rfl

/-- A frame followed by its own CRC passes the check. -/
theorem ashChecked_append_ashTail (f : List Byte) :
    ashChecked (f ++ ashTail f) = true := by
  have hlen : (f ++ ashTail f).length - 2 = f.length := by simp
  have hhigh : (f ++ ashTail f).getD f.length 0 =
      (ashCrc f >>> 8).setWidth 8 := by
    simp [ashTail]
  have hlow : (f ++ ashTail f).getD (f.length + 1) 0 =
      (ashCrc f &&& 0xFF).setWidth 8 := by
    rw [List.getD_eq_getElem?_getD, List.getElem?_append_right (by omega),
      Nat.add_sub_cancel_left]
    rfl
  have htake : (f ++ ashTail f).take f.length = f := by simp
  simp only [ashChecked, hlen, hhigh, hlow, htake, join_crc_bytes,
    decide_true]

/-! ## Flow control and the cutting into reads -/

theorem bridgeFeed_append (b : Bridge) (s s' : List Byte) :
    (bridgeFeed g b (s ++ s') : Host σ Bridge) =
      bridgeFeed g b s >>= fun b => bridgeFeed g b s' :=
  List.foldlM_append

/-- Cutting the stream makes no difference. -/
theorem bridgeFeed_chunks (b : Bridge) (chunks : List (List Byte)) :
    (chunks.foldlM (bridgeFeed g) b : Host σ Bridge) =
      bridgeFeed g b chunks.flatten := by
  induction chunks generalizing b with
  | nil => rfl
  | cons chunk chunks ih =>
      rw [List.flatten_cons, bridgeFeed_append, List.foldlM_cons]
      congr 1
      funext b'
      exact ih b'

theorem bridgeFeedByte_flow (b : Bridge) {c : Byte}
    (hc : ashFlow c = true) : (bridgeFeedByte g b c : Host σ Bridge) = pure b := by
  have hflow : c = ashXon ∨ c = ashXoff := by simpa [ashFlow] using hc
  rw [bridgeFeedByte, if_pos hflow]

/-- Flow control bytes make no difference either. -/
theorem bridgeFeed_filter_flow (b : Bridge) (s : List Byte) :
    (bridgeFeed g b s : Host σ Bridge) =
      bridgeFeed g b (s.filter fun c => !ashFlow c) := by
  induction s generalizing b with
  | nil => rfl
  | cons c s ih =>
      cases hc : ashFlow c with
      | true =>
          have hskip : (c :: s).filter (fun c => !ashFlow c) =
              s.filter fun c => !ashFlow c := by
            simp [hc]
          rw [hskip, ← ih, bridgeFeed, List.foldlM_cons,
            bridgeFeedByte_flow g b hc, pure_bind]
          rfl
      | false =>
          have hkeep : (c :: s).filter (fun c => !ashFlow c) =
              c :: s.filter fun c => !ashFlow c := by
            simp [hc]
          rw [hkeep, bridgeFeed, bridgeFeed, List.foldlM_cons,
            List.foldlM_cons]
          congr 1
          funext b'
          exact ih b'

/-! ## One frame -/

/-- A byte that neither ends nor voids a frame and is no flow control. -/
def IsText (c : Byte) : Prop :=
  c ≠ ashFlag ∧ c ≠ ashCancel ∧ c ≠ ashSub ∧ ashFlow c = false

/-- On such a byte the receiver takes one step of the unstuffing machine. -/
theorem bridgeFeedByte_text (b : Bridge) {c : Byte} (hc : IsText c)
    (hroom : (unstuffStep ashScheme (b.rx, b.esc) c).1.length ≤
      ashMaxFrame * 2) :
    (bridgeFeedByte g b c : Host σ Bridge) =
      pure { b with
        rx := (unstuffStep ashScheme (b.rx, b.esc) c).1
        esc := (unstuffStep ashScheme (b.rx, b.esc) c).2 } := by
  obtain ⟨hflag, hcancel, hsub, hflow⟩ := hc
  have hxon : ¬(c = ashXon ∨ c = ashXoff) := by simpa [ashFlow] using hflow
  rw [bridgeFeedByte, if_neg hxon, if_neg hcancel, if_neg hsub]
  by_cases hesc : c = ashEsc
  · have hstep : unstuffStep ashScheme (b.rx, b.esc) c = (b.rx, true) :=
      if_pos hesc
    rw [if_pos hesc, hstep]
  · have hstep : unstuffStep ashScheme (b.rx, b.esc) c =
        (b.rx ++ [if b.esc then c ^^^ 0x20 else c], false) := if_neg hesc
    rw [hstep, List.length_append, List.length_singleton] at hroom
    rw [if_neg hesc, if_neg hflag, hstep]
    exact if_pos hroom

private theorem bridgeFeed_text (b : Bridge) (s : List Byte)
    (hs : ∀ c ∈ s, IsText c)
    (hroom : (unstuff ashScheme (b.rx, b.esc) s).1.length ≤ ashMaxFrame * 2) :
    (bridgeFeed g b s : Host σ Bridge) =
      pure { b with
        rx := (unstuff ashScheme (b.rx, b.esc) s).1
        esc := (unstuff ashScheme (b.rx, b.esc) s).2 } := by
  induction s generalizing b with
  | nil => rfl
  | cons c s ih =>
      have hstep := le_trans
        (length_le_unstuff ashScheme (unstuffStep ashScheme (b.rx, b.esc) c) s)
        hroom
      rw [bridgeFeed, List.foldlM_cons,
        bridgeFeedByte_text g b (hs c List.mem_cons_self) hstep, pure_bind]
      exact ih _ (fun d hd => hs d (List.mem_cons_of_mem c hd)) hroom

/-- From an empty receiver the encoding of a frame is one call of the
handler. -/
theorem bridgeFeed_ashEncode (b : Bridge) {f : List Byte} (hrx : b.rx = [])
    (hesc : b.esc = false) (hpos : 1 ≤ f.length)
    (hlen : f.length ≤ ashMaxFrame) :
    (bridgeFeed g b (ashEncode f) : Host σ Bridge) = deliver g b f := by
  have hunstuff : unstuff ashScheme (b.rx, b.esc)
      (stuff ashScheme (f ++ ashTail f)) = (f ++ ashTail f, false) := by
    rw [hrx, hesc]
    exact unstuff_stuff ashScheme [] (f ++ ashTail f)
  have hroom : (unstuff ashScheme (b.rx, b.esc)
      (stuff ashScheme (f ++ ashTail f))).1.length ≤ ashMaxFrame * 2 := by
    rw [hunstuff, List.length_append, length_ashTail]
    have htwice : ashMaxFrame + 2 ≤ ashMaxFrame * 2 := by decide
    omega
  have htext : ∀ c ∈ stuff ashScheme (f ++ ashTail f), IsText c :=
    fun c hc => not_delimiter_of_mem_stuff hc
  rw [ashEncode_eq_stuff, bridgeFeed_append, bridgeFeed_text g b _ htext hroom,
    pure_bind, hunstuff]
  have hchecked : 3 ≤ (f ++ ashTail f).length ∧
      ashChecked (f ++ ashTail f) = true :=
    ⟨by simpa using hpos, ashChecked_append_ashTail f⟩
  have hframe : (f ++ ashTail f).take ((f ++ ashTail f).length - 2) = f := by
    simp
  change (bridgeFlag g _ >>= pure) = _
  rw [bind_pure, bridgeFlag, if_pos hchecked, hframe]
  rfl

/-! ## A whole stream -/

/-- A frame boundary empties the receiver, after whatever it completes. -/
theorem bridgeFeed_boundary (b : Bridge) {first : Byte}
    (hfirst : first = ashFlag ∨ first = ashCancel) :
    ∃ m : Host σ Bridge, bridgeFeed g b [first] =
      m >>= fun b => pure { b with rx := [], esc := false } := by
  rcases hfirst with rfl | rfl
  · have hfeed : (bridgeFeed g b [ashFlag] : Host σ Bridge) = bridgeFlag g b :=
      bind_pure (bridgeFlag g b)
    rw [hfeed, bridgeFlag]
    by_cases hframe : 3 ≤ b.rx.length ∧ ashChecked b.rx = true
    · rw [if_pos hframe]
      exact ⟨_, rfl⟩
    · rw [if_neg hframe]
      exact ⟨_, rfl⟩
  · exact ⟨pure b, rfl⟩

private theorem bridgeFeed_frames (b : Bridge) (frames : List (List Byte))
    (hrx : b.rx = []) (hesc : b.esc = false)
    (hframes : ∀ f ∈ frames, 1 ≤ f.length ∧ f.length ≤ ashMaxFrame) :
    (bridgeFeed g b (frames.map ashEncode).flatten : Host σ Bridge) =
      frames.foldlM (deliver g) b >>= fun b =>
        pure { b with rx := [], esc := false } := by
  induction frames generalizing b with
  | nil =>
      have hempty : { b with rx := [], esc := false } = b := by
        rw [← hrx, ← hesc]
      change pure b = pure { b with rx := [], esc := false }
      rw [hempty]
  | cons f frames ih =>
      obtain ⟨hpos, hlen⟩ := hframes f List.mem_cons_self
      have hrest : ∀ f ∈ frames, 1 ≤ f.length ∧ f.length ≤ ashMaxFrame :=
        fun f' hf' => hframes f' (List.mem_cons_of_mem f hf')
      rw [List.map_cons, List.flatten_cons, bridgeFeed_append,
        bridgeFeed_ashEncode g b hrx hesc hpos hlen, List.foldlM_cons,
        bind_assoc, deliver, bind_assoc, bind_assoc]
      congr 1
      funext b'
      rw [pure_bind, pure_bind]
      exact ih _ rfl rfl hrest

/-- Decoding undoes encoding and always resynchronises.  From any receiver
state, a FLAG or CANCEL and then the encodings of some frames, with flow
control bytes anywhere in between and cut into reads in any way, calls the
frame handler exactly on these frames, in order, after whatever the first byte
itself completes, and leaves the receiver empty.  An encoding has FLAG as its
last byte only, and no other delimiter. -/
theorem bridgeFeed_decodes (b : Bridge) (first : Byte)
    (hfirst : first = ashFlag ∨ first = ashCancel)
    (frames : List (List Byte))
    (hframes : ∀ f ∈ frames, 1 ≤ f.length ∧ f.length ≤ ashMaxFrame)
    (chunks : List (List Byte))
    (hstream : chunks.flatten.filter (fun c => !ashFlow c) =
      first :: (frames.map ashEncode).flatten) :
    ((chunks.foldlM (bridgeFeed g) b : Host σ Bridge) = do
      let b ← bridgeFeed g b [first]
      let b ← frames.foldlM (deliver g) b
      pure { b with rx := [], esc := false }) ∧
    ∀ f : List Byte, ∃ body, ashEncode f = body ++ [ashFlag] ∧
      ∀ c ∈ body, c ≠ ashFlag ∧ c ≠ ashXon ∧ c ≠ ashXoff ∧ c ≠ ashSub ∧
        c ≠ ashCancel := by
  constructor
  · obtain ⟨m, hm⟩ := bridgeFeed_boundary (σ := σ) g b hfirst
    rw [bridgeFeed_chunks, bridgeFeed_filter_flow, hstream,
      ← List.singleton_append, bridgeFeed_append, hm, bind_assoc, bind_assoc]
    congr 1
    funext b'
    rw [pure_bind, pure_bind]
    exact bridgeFeed_frames g _ frames rfl rfl hframes
  · intro f
    refine ⟨stuff ashScheme (f ++ ashTail f), ashEncode_eq_stuff f, ?_⟩
    intro c hc
    obtain ⟨hflag, hcancel, hsub, hflow⟩ := not_delimiter_of_mem_stuff hc
    have hxon : c ≠ ashXon ∧ c ≠ ashXoff := by simpa [ashFlow] using hflow
    exact ⟨hflag, hxon.1, hxon.2, hsub, hcancel⟩

/-- A CANCEL, an RST and a DATA frame with reserved bytes in it, read in four
pieces by a receiver in the middle of another frame.  One read ends at an
escape, and the next one begins with flow control. -/
theorem bridgeFeed_decodes_split :
    (([[0x1A, 0xC0, 0x38], [0xBC, 0x7E, 0x25, 0x7D],
          [0x11, 0x5E, 0x13, 0x7D, 0x31, 0x88], [0xEC, 0x7E]].foldlM
        (bridgeFeed ⟨⟨512, true⟩, true⟩)
        { bridgeInit ⟨3, 4, 5, 7, 6⟩ 8 with rx := [1, 2, 3], esc := true } :
        Host Playback Bridge) = do
      let b ← bridgeFeed ⟨⟨512, true⟩, true⟩
        { bridgeInit ⟨3, 4, 5, 7, 6⟩ 8 with rx := [1, 2, 3], esc := true }
        [0x1A]
      let b ← [[0xC0], [0x25, 0x7E, 0x11]].foldlM
        (deliver ⟨⟨512, true⟩, true⟩) b
      pure { b with rx := [], esc := false }) ∧
    ∀ f : List Byte, ∃ body, ashEncode f = body ++ [ashFlag] ∧
      ∀ c ∈ body, c ≠ ashFlag ∧ c ≠ ashXon ∧ c ≠ ashXoff ∧ c ≠ ashSub ∧
        c ≠ ashCancel :=
  bridgeFeed_decodes ⟨⟨512, true⟩, true⟩
    { bridgeInit ⟨3, 4, 5, 7, 6⟩ 8 with rx := [1, 2, 3], esc := true } 0x1A
    (by decide) [[0xC0], [0x25, 0x7E, 0x11]] (by decide)
    [[0x1A, 0xC0, 0x38], [0xBC, 0x7E, 0x25, 0x7D],
      [0x11, 0x5E, 0x13, 0x7D, 0x31, 0x88], [0xEC, 0x7E]]
    (by decide +kernel)

end EzspSpi
