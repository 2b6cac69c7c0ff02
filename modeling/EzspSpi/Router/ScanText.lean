import EzspSpi.Router.IdOption
import EzspSpi.Router.Neighbors
import EzspSpi.Router.Scan
import Mathlib.Data.List.GetD

/-!
# The text of a scan

`cmd_scan` prints six lines for each network it hears, between whatever else
the tool has to say, and the page of the scan takes them apart again by how
they start and by the position of their words.
-/

namespace EzspSpi

open Program

abbrev Line := List Byte

/-! ## What is printed -/

/-- The extended pan id of a `networkFoundHandler` in the buffer. -/
def foundExtPanId (out : List Byte) : List Byte :=
  (List.range 8).map fun j => out.getD (j + 3) 0

/-- The lines for a network. -/
def networkLines (out : List Byte) : List Line :=
  [ascii "  network on channel " ++ unsignedText (out.getD 0 0).toNat,
    ascii "    pan id          0x" ++ hexWord (out.getD 1 0) (out.getD 2 0),
    ascii "    ext pan id      " ++ colonText (foundExtPanId out),
    ascii "    allowing join   " ++
      if out.getD 11 0 ≠ 0 then ascii "YES" else ascii "no",
    ascii "    stack profile   " ++ unsignedText (out.getD 12 0).toNat,
    ascii "    lqi / rssi      " ++ unsignedText (out.getD 14 0).toNat ++
      ascii " / " ++ signedText (out.getD 15 0).toInt ++ ascii " dBm",
    []]

/-- The line for a `scanCompleteHandler`. -/
def completeLine (found : ℕ) (out : List Byte) : Line :=
  if out.getD 1 0 = emberSuccess then
    ascii "  scan complete: " ++ unsignedText found ++
      ascii " network(s) found"
  else
    ascii "  scan failed on channel " ++ unsignedText (out.getD 0 0).toNat ++
      ascii " (0x" ++ hexByte (out.getD 1 0) ++ ascii " " ++
        ascii (emberStatusName (out.getD 1 0)) ++ ascii ")"

def nothingHeard (found : ℕ) : List Line :=
  if found = 0 then
    [ascii "  nothing heard -- wrong channel, out of range, or the " ++
      ascii "antenna is not connected"]
  else []

/-- What a poll brings: the frame id, 0 for none, and the payload. -/
abbrev Polled := Byte × List Byte

/-- The loop of `cmd_scan` and what follows it, by what its polls bring. -/
def scanText : (polls found : ℕ) → (out : List Byte) → List Polled → List Line
  | 0, found, _, _ => nothingHeard found
  | _ + 1, found, _, [] => nothingHeard found
  | polls + 1, found, out, (id, payload) :: polled =>
      let out := overwrite out 0 payload
      if id = ezspNetworkFoundHandler then
        networkLines out ++ scanText polls (found + 1) out polled
      else if id = ezspScanCompleteHandler then
        completeLine found out :: nothingHeard found
      else scanText polls found out polled

/-- The callbacks of networks until the scan is complete, as each stands in the
buffer. -/
def networksHeard : (out : List Byte) → List Polled → List (List Byte)
  | _, [] => []
  | out, (id, payload) :: polled =>
      let out := overwrite out 0 payload
      if id = ezspNetworkFoundHandler then out :: networksHeard out polled
      else if id = ezspScanCompleteHandler then []
      else networksHeard out polled

/-! ## What else is printed -/

/-- A text without newlines, such as an error message. -/
abbrev PlainText := { text : List Byte // ∀ c ∈ text, isNewline c = false }

/-- A part of a format with its argument. -/
inductive Piece where
  | lit (s : String)
  | unsigned (n : ℕ)
  | hex (b : Byte)
  | text (t : PlainText)
  /-- Each byte with a blank in front of it. -/
  | dump (bytes : List Byte)

def Piece.written : Piece → List Byte
  | .lit s => ascii s
  | .unsigned n => unsignedText n
  | .hex b => hexByte b
  | .text t => t.val
  | .dump bytes => bytes.flatMap fun b => ascii " " ++ hexByte b

/-- The lines the tool prints besides, from the start of `cmd_scan` on, with
`--verbose` or without, and the one of the service that is not started again
after the scan. -/
inductive Diagnostic where
  | scanning (mask : List.Vector Byte 4)
  | board (desc : PlainText)
  | nsselIntAlone (line : ℕ)
  | nsselIntFollows (line : ℕ)
  | nsselIntPinned (line : ℕ) (high : Bool)
  | spiCsDriven (line : ℕ)
  | spiCsHeld (line : ℕ)
  | cannotWatch (line : ℕ) (error : PlainText)
  | resetting
  | asserted (line ms : ℕ)
  | neverAsserted (line : ℕ)
  | noWakeAck
  | noResponse (waitBytes : ℕ)
  | dumpTx (len : ℕ) (bytes : List Byte)
  | dumpRx (len : ℕ) (bytes : List Byte)
  | dumpMore (bytes : List Byte)
  | noTerminator
  | resetNotification (reason : PlainText)
  | noFrameBack (frameId : Byte) (idle : Bool) (first : Byte)
  | askedFor (frameId got : Byte)
  | renegotiating (want : ℕ)
  | version (ver stackType : ℕ) (high low : Byte)
  | scanStarted
  | blank
  | disabled

def Diagnostic.pieces : Diagnostic → List Piece
  | scanning mask =>
      [.lit "ezsp-spi scan (active, channel mask 0x", .hex (mask.get 0),
        .hex (mask.get 1), .hex (mask.get 2), .hex (mask.get 3), .lit ")"]
  | board desc => [.lit "  board ", .text desc]
  | nsselIntAlone line =>
      [.lit "  nSSEL_INT gpio", .unsigned line, .lit " left alone"]
  | nsselIntFollows line =>
      [.lit "  nSSEL_INT gpio", .unsigned line, .lit " follows nSSEL"]
  | nsselIntPinned line high =>
      [.lit "  nSSEL_INT gpio", .unsigned line, .lit " pinned ",
        if high then .lit "high" else .lit "low"]
  | spiCsDriven line =>
      [.lit "  spiCS gpio", .unsigned line,
        .lit " driven by host (idle high)"]
  | spiCsHeld line =>
      [.lit "  spiCS gpio", .unsigned line,
        .lit " held by the kernel; using cs_change instead"]
  | cannotWatch line error =>
      [.lit "  warning: cannot watch gpio", .unsigned line,
        .lit " (nHOST_INT): ", .text error]
  | resetting =>
      [.lit "resetting NCP (nWAKE high -> boots application, ",
        .lit "not bootloader)"]
  | asserted line ms =>
      [.lit "  gpio", .unsigned line, .lit " asserted ", .unsigned ms,
        .lit " ms after reset release"]
  | neverAsserted line =>
      [.lit "  gpio", .unsigned line, .lit " never asserted within 2000 ms"]
  | noWakeAck => [.lit "  (no nHOST_INT ack to nWAKE within 100 ms)"]
  | noResponse waitBytes =>
      [.lit "  (no response within ", .unsigned waitBytes,
        .lit " wait bytes)"]
  | dumpTx len bytes =>
      [.lit "  tx [", .unsigned len, .lit "]:", .dump bytes]
  | dumpRx len bytes =>
      [.lit "  rx [", .unsigned len, .lit "]:", .dump bytes]
  | dumpMore bytes => [.lit "      ", .dump bytes]
  | noTerminator => [.lit "  (warning: transaction did not end on 0xA7)"]
  | resetNotification reason =>
      [.lit "  (reset notification: ", .text reason, .lit " -- re-sending)"]
  | noFrameBack frameId idle first =>
      [.lit "  ezsp 0x", .hex frameId, .lit ": no frame back (",
        if idle then .lit "idle" else .lit "response", .lit " 0x",
        .hex first, .lit ")"]
  | askedFor frameId got =>
      [.lit "  warning: asked for frame 0x", .hex frameId, .lit ", got 0x",
        .hex got]
  | renegotiating want =>
      [.lit "  NCP speaks EZSP v", .unsigned want,
        .lit ", resetting to re-negotiate"]
  | version ver stackType high low =>
      [.lit "  EZSP v", .unsigned ver, .lit ", stack type ",
        .unsigned stackType, .lit ", stack version 0x", .hex high, .hex low,
        .lit " (EmberZNet ", .unsigned (high.toNat / 16), .lit ".",
        .unsigned (high.toNat % 16), .lit ".", .unsigned (low.toNat / 16),
        .lit ".", .unsigned (low.toNat % 16), .lit ")"]
  | scanStarted => [.lit "  scanning..."]
  | blank => []
  | disabled => [.lit "ezsp-spi: disabled in /etc/config/ezsp-spi"]

def Diagnostic.line (d : Diagnostic) : Line := d.pieces.flatMap Piece.written

/-- Another line of the tool. -/
def IsDiagnostic (line : Line) : Prop := ∃ d : Diagnostic, d.line = line

/-! ## The page -/

/-- The lines of what a command puts out, which is substituted without the
newlines at its end. -/
def commandLines (out : List Byte) : List Line :=
  (out.rdropWhile isNewline).splitOnP isNewline

/-- The variables of the `awk` program, and what it has printed. -/
structure Awk where
  ch : List Byte
  pan : List Byte
  ext : List Byte
  j : List Byte
  have' : Bool
  printed : List Line

def Awk.init : Awk := ⟨[], [], [], [], false, []⟩

def awkStep (st : Awk) (line : Line) : Awk :=
  let field (n : ℕ) : List Byte := (wordsOf isBlank line).getD (n - 1) []
  if ascii "  network on channel" <+: line then
    { st with ch := field 4, have' := true }
  else if st.have' = true ∧ ascii "    pan id" <+: line then
    { st with pan := field 3 }
  else if st.have' = true ∧ ascii "    ext pan id" <+: line then
    { st with ext := field 4 }
  else if st.have' = true ∧ ascii "    allowing join" <+: line then
    { st with j := field 3 }
  else if st.have' = true ∧ ascii "    lqi / rssi" <+: line then
    { st with
      printed := st.printed ++
        [[0x7C].intercalate [st.ch, st.pan, st.ext, st.j, field 4, field 6]]
      have' := false }
  else st

/-- A network of the page. -/
structure ScanRecord where
  channel : Int
  panId : List Byte
  extPanId : List Byte
  joinable : Bool
  lqi : Int
  rssi : Int
  deriving DecidableEq, Repr

/-- What `json_add_int` makes of a text. -/
def jsonInt (text : List Byte) : Int :=
  let (negative, digits) := signed text
  if negative then -(number 10 digits : ℕ) else (number 10 digits : ℕ)

def isBar (c : Byte) : Bool := c = 0x7C

/-- `read -r ch pan ext joinable lqi rssi` between bars, and the object for
it. -/
def scanRecord? (line : Line) : Option ScanRecord :=
  let words := line.splitOnP isBar
  let ch := words.getD 0 []
  if ch = [] then none
  else some
    { channel := jsonInt ch
      panId := words.getD 1 []
      extPanId := words.getD 2 []
      joinable := decide (words.getD 3 [] = ascii "YES")
      lqi := jsonInt (words.getD 4 [])
      rssi := jsonInt ([0x7C].intercalate (words.drop 5)) }

/-- The networks of `emit_scan`, from what the scan puts out. -/
def emitScan (out : List Byte) : List ScanRecord :=
  let parsed := unlines 0x0A ((commandLines out).foldl awkStep Awk.init).printed
  (commandLines parsed).filterMap scanRecord?

/-! ## Lines that are passed over -/

/-- What the rules of the `awk` program look for at the start of a line. -/
def awkStarts : List Line :=
  [ascii "  network on channel", ascii "    pan id", ascii "    ext pan id",
    ascii "    allowing join", ascii "    lqi / rssi"]

/-- Literals are compared by their characters. -/
theorem diverge_ascii {cs cs' : List Char}
    (h : differ (cs.map fun c => BitVec.ofNat 8 c.toNat)
      (cs'.map fun c => BitVec.ofNat 8 c.toNat) = true) :
    Diverge (ascii (String.ofList cs)) (ascii (String.ofList cs')) := by
  rw [ascii_ofList, ascii_ofList]
  exact diverge_of_differ h

/-- No line starts with two of them. -/
theorem awkStarts_pairwise : awkStarts.Pairwise Diverge := by
  simp only [awkStarts, List.pairwise_cons, List.forall_mem_cons]
  refine ⟨?_, ?_, ?_, ?_, List.forall_mem_nil _, List.Pairwise.nil⟩
  · exact ⟨diverge_ascii rfl, diverge_ascii rfl, diverge_ascii rfl,
      diverge_ascii rfl, List.forall_mem_nil _⟩
  · exact ⟨diverge_ascii rfl, diverge_ascii rfl, diverge_ascii rfl,
      List.forall_mem_nil _⟩
  · exact ⟨diverge_ascii rfl, diverge_ascii rfl, List.forall_mem_nil _⟩
  · exact ⟨diverge_ascii rfl, List.forall_mem_nil _⟩

theorem diverge_awkStarts {network pan ext join lqi cs : List Char}
    (hstarts : awkStarts = [ascii (String.ofList network),
      ascii (String.ofList pan), ascii (String.ofList ext),
      ascii (String.ofList join), ascii (String.ofList lqi)])
    (h : [network, pan, ext, join, lqi].all (fun start =>
      differ (start.map fun c => BitVec.ofNat 8 c.toNat)
        (cs.map fun c => BitVec.ofNat 8 c.toNat)) = true) :
    ∀ start ∈ awkStarts, Diverge start (ascii (String.ofList cs)) := by
  simp only [hstarts, List.forall_mem_cons]
  simp only [List.all_cons, Bool.and_eq_true] at h
  obtain ⟨hnetwork, hpan, hext, hjoin, hlqi, -⟩ := h
  exact ⟨diverge_ascii hnetwork, diverge_ascii hpan, diverge_ascii hext,
    diverge_ascii hjoin, diverge_ascii hlqi, List.forall_mem_nil _⟩

theorem awkStep_of_quiet (st : Awk) {line : Line}
    (hquiet : ∀ start ∈ awkStarts, ¬start <+: line) :
    awkStep st line = st := by
  simp only [awkStarts, List.forall_mem_cons] at hquiet
  obtain ⟨hnetwork, hpan, hext, hjoin, hlqi, -⟩ := hquiet
  rw [awkStep, if_neg hnetwork, if_neg fun h => hpan h.2,
    if_neg fun h => hext h.2, if_neg fun h => hjoin h.2,
    if_neg fun h => hlqi h.2]

theorem not_start_nil : ∀ start ∈ awkStarts, ¬start <+: ([] : Line) := by
  decide +kernel

theorem quiet_of_start {start line : Line}
    (hdiverge : ∀ start' ∈ awkStarts, Diverge start' start)
    (hline : start <+: line) : ∀ start' ∈ awkStarts, ¬start' <+: line :=
  fun start' h => (hdiverge start' h).not_starting hline

/-- The line stays one line. -/
def IsOneLine (line : Line) : Prop := ∀ c ∈ line, isNewline c = false

instance (line : Line) : Decidable (IsOneLine line) :=
  decidable_of_iff (line.all fun c => !isNewline c) (by simp [IsOneLine])

theorem isOneLine_ascii {cs : List Char}
    (h : (cs.all fun c => !isNewline (BitVec.ofNat 8 c.toNat)) = true) :
    IsOneLine (ascii (String.ofList cs)) := by
  rw [ascii_ofList]
  simpa [IsOneLine] using h

@[simp]
theorem isOneLine_append {line line' : Line} :
    IsOneLine (line ++ line') ↔ IsOneLine line ∧ IsOneLine line' :=
  List.forall_mem_append

theorem isOneLine_of_isWord {word : List Byte} (hword : IsWord isSpace word) :
    IsOneLine word :=
  fun c hc => (gap_of_not_isSpace (hword.forall_mem c hc)).2

@[simp]
theorem isOneLine_unsignedText (n : ℕ) : IsOneLine (unsignedText n) :=
  isOneLine_of_isWord (isWord_unsignedText n)

@[simp]
theorem isOneLine_hexByte (b : Byte) : IsOneLine (hexByte b) :=
  isOneLine_of_isWord (isWord_hexByte b)

/-- No newline in what the format has itself. -/
def Piece.plain : Piece → Bool
  | .lit s => decide (IsOneLine (ascii s))
  | _ => true

theorem Piece.isOneLine_written {piece : Piece} (hplain : piece.plain = true) :
    IsOneLine piece.written := by
  cases piece with
  | lit s => exact of_decide_eq_true hplain
  | unsigned n => exact isOneLine_unsignedText n
  | hex b => exact isOneLine_hexByte b
  | text t => exact t.property
  | dump bytes =>
      intro c hc
      obtain ⟨b, -, hmem⟩ := List.mem_flatMap.mp hc
      have hblank : IsOneLine (ascii " ") := by decide
      exact isOneLine_append.mpr ⟨hblank, isOneLine_hexByte b⟩ c hmem

/-- The format starts with a text of its own that no rule looks for. -/
def startsQuietly : List Piece → Bool
  | [] => true
  | .lit s :: _ => decide (∀ start ∈ awkStarts, Diverge start (ascii s))
  | _ => false

theorem startsQuietly_lit {cs : List Char} {pieces : List Piece}
    (h : ∀ start ∈ awkStarts, Diverge start (ascii (String.ofList cs))) :
    startsQuietly (.lit (String.ofList cs) :: pieces) = true :=
  decide_eq_true h

theorem Diagnostic.startsQuietly_pieces (d : Diagnostic) :
    startsQuietly d.pieces = true := by
  cases d <;> first
    | exact startsQuietly_lit (diverge_awkStarts rfl rfl)
    | rfl

theorem Piece.plain_lit {cs : List Char}
    (h : (cs.all fun c => !isNewline (BitVec.ofNat 8 c.toNat)) = true) :
    (Piece.lit (String.ofList cs)).plain = true :=
  decide_eq_true (isOneLine_ascii h)

theorem Piece.plain_ite {c : Prop} [Decidable c] {piece piece' : Piece}
    (h : piece.plain = true) (h' : piece'.plain = true) :
    (if c then piece else piece').plain = true := by
  split
  · exact h
  · exact h'

theorem Diagnostic.forall_plain (d : Diagnostic) :
    ∀ piece ∈ d.pieces, piece.plain = true := by
  cases d <;> simp only [Diagnostic.pieces, List.forall_mem_cons] <;>
    and_intros <;> first
    | exact Piece.plain_lit rfl
    | exact Piece.plain_ite (Piece.plain_lit rfl) (Piece.plain_lit rfl)
    | exact List.forall_mem_nil _
    | rfl

namespace IsDiagnostic

variable {line : Line} (hline : IsDiagnostic line)

include hline

theorem isOneLine : IsOneLine line := by
  obtain ⟨d, rfl⟩ := hline
  intro c hc
  obtain ⟨piece, hpiece, hmem⟩ := List.mem_flatMap.mp hc
  exact Piece.isOneLine_written (d.forall_plain piece hpiece) c hmem

theorem quiet : ∀ start ∈ awkStarts, ¬start <+: line := by
  obtain ⟨d, rfl⟩ := hline
  have hstart := d.startsQuietly_pieces
  rw [Diagnostic.line]
  cases hpieces : d.pieces with
  | nil => exact not_start_nil
  | cons piece pieces =>
      rw [hpieces] at hstart
      cases piece with
      | lit s =>
          exact quiet_of_start (of_decide_eq_true hstart)
            (List.prefix_append _ _)
      | _ => cases hstart

end IsDiagnostic

/-! ## The lines of a network read back -/

theorem isWord_signedText (n : Int) : IsWord isSpace (signedText n) := by
  have hword := isWord_unsignedText n.natAbs
  rw [signedText]
  split
  · exact IsWord.append (by decide : IsWord isSpace [0x2D]) hword
  · exact hword

theorem colonText_cons (b b' : Byte) (bs : List Byte) :
    colonText (b :: b' :: bs) =
      hexByte b ++ [0x3A] ++ colonText (b' :: bs) := by
  have hsome : (colonHex (b' :: bs)).flatten ≠ [] := by
    intro hnone
    have hlength := length_colonHex (b' :: bs)
    rw [hnone] at hlength
    cases hlength
  rw [colonText, colonHex_flatten_cons, List.dropLast_append_of_ne_nil hsome]
  rfl

theorem forall_mem_colonText {P : Byte → Prop} (hcolon : P 0x3A)
    (hdigit : ∀ n < 16, P (hexDigit n)) (bs : List Byte) :
    ∀ c ∈ colonText bs, P c := by
  induction bs with
  | nil => exact List.forall_mem_nil _
  | cons b bs ih =>
      cases bs with
      | nil => exact forall_mem_hexByte hdigit b
      | cons b' bs =>
          rw [colonText_cons]
          refine List.forall_mem_append.mpr ⟨List.forall_mem_append.mpr
            ⟨forall_mem_hexByte hdigit b, ?_⟩, ih⟩
          exact List.forall_mem_singleton.mpr hcolon

theorem isWord_colonText (b : Byte) (bs : List Byte) :
    IsWord isSpace (colonText (b :: bs)) := by
  have hdigit : ∀ n < 16, isSpace (hexDigit n) = false := by decide
  have hcolon : isSpace 0x3A = false := rfl
  refine ⟨?_, forall_mem_colonText hcolon hdigit _⟩
  cases bs with
  | nil => exact List.cons_ne_nil _ _
  | cons b' bs =>
      rw [colonText_cons]
      exact List.cons_ne_nil _ _

/-- What the page gets of a network, word by word. -/
structure FoundTexts where
  ch : List Byte
  pan : List Byte
  ext : List Byte
  j : List Byte
  lqi : List Byte
  rssi : List Byte

def foundTexts (out : List Byte) : FoundTexts where
  ch := unsignedText (out.getD 0 0).toNat
  pan := ascii "0x" ++ hexWord (out.getD 1 0) (out.getD 2 0)
  ext := colonText (foundExtPanId out)
  j := if out.getD 11 0 ≠ 0 then ascii "YES" else ascii "no"
  lqi := unsignedText (out.getD 14 0).toNat
  rssi := signedText (out.getD 15 0).toInt

def FoundTexts.words (texts : FoundTexts) : List (List Byte) :=
  [texts.ch, texts.pan, texts.ext, texts.j, texts.lqi, texts.rssi]

theorem networkLines_eq (out : List Byte) :
    networkLines out =
      [ascii "  network on channel " ++ (foundTexts out).ch,
        ascii "    pan id          " ++ (foundTexts out).pan,
        ascii "    ext pan id      " ++ (foundTexts out).ext,
        ascii "    allowing join   " ++ (foundTexts out).j,
        ascii "    stack profile   " ++ unsignedText (out.getD 12 0).toNat,
        ascii "    lqi / rssi      " ++ (foundTexts out).lqi ++
          ascii " / " ++ (foundTexts out).rssi ++ ascii " dBm", []] := by
  have hpan : ascii "    pan id          0x" =
      ascii "    pan id          " ++ ascii "0x" := by
    decide +kernel
  rw [networkLines, hpan, List.append_assoc]
  rfl

theorem isWord_foundTexts (out : List Byte) :
    ∀ word ∈ (foundTexts out).words, IsWord isSpace word := by
  have hjoin : IsWord isSpace (foundTexts out).j := by
    dsimp only [foundTexts]
    split
    · decide
    · decide
  have hpan : IsWord isSpace (foundTexts out).pan := by
    apply IsWord.append (by decide)
    exact (isWord_hexByte _).append (isWord_hexByte _)
  simp only [FoundTexts.words, List.forall_mem_cons]
  exact ⟨isWord_unsignedText _, hpan, isWord_colonText _ _, hjoin,
    isWord_unsignedText _, isWord_signedText _, List.forall_mem_nil _⟩

/-- A text in front of a word, with a start a rule looks for and `n` words of
its own. -/
structure IsFront (start front : Line) (n : ℕ) : Prop where
  starts : start <+: front
  ends : front.getLast? = some 0x20
  count : (wordsOf isBlank front).length = n

instance (start front : Line) (n : ℕ) : Decidable (IsFront start front n) :=
  decidable_of_iff (start <+: front ∧ front.getLast? = some 0x20 ∧
      (wordsOf isBlank front).length = n)
    ⟨fun h => ⟨h.1, h.2.1, h.2.2⟩, fun h => ⟨h.starts, h.ends, h.count⟩⟩

theorem isFront_ascii {cs cs' : List Char} {n : ℕ}
    (h : decide (IsFront (cs.map fun c => BitVec.ofNat 8 c.toNat)
      (cs'.map fun c => BitVec.ofNat 8 c.toNat) n) = true) :
    IsFront (ascii (String.ofList cs)) (ascii (String.ofList cs')) n := by
  rw [ascii_ofList, ascii_ofList]
  exact of_decide_eq_true h

theorem isFront_networkLines :
    IsFront (ascii "  network on channel") (ascii "  network on channel ") 3 ∧
      IsFront (ascii "    pan id") (ascii "    pan id          ") 2 ∧
      IsFront (ascii "    ext pan id") (ascii "    ext pan id      ") 3 ∧
      IsFront (ascii "    allowing join") (ascii "    allowing join   ") 2 ∧
      IsFront (ascii "    lqi / rssi") (ascii "    lqi / rssi      ") 3 :=
  ⟨isFront_ascii rfl, isFront_ascii rfl, isFront_ascii rfl, isFront_ascii rfl,
    isFront_ascii rfl⟩

section Words

variable {start front word word' : Line} {n : ℕ}

theorem wordsOf_isBlank (hword : IsWord isSpace word) :
    wordsOf isBlank word = [word] :=
  wordsOf_word (hword.mono fun _ hc => (gap_of_not_isSpace hc).1)

theorem IsFront.wordsOf_append (hfront : IsFront start front n)
    (rest : Line) :
    wordsOf isBlank (front ++ rest) =
      wordsOf isBlank front ++ wordsOf isBlank rest :=
  wordsOf_append_of_getLast? hfront.ends rfl rest

/-- The word behind the text, by its number. -/
theorem IsFront.getD_words (hfront : IsFront start front n)
    (hword : IsWord isSpace word) :
    (wordsOf isBlank (front ++ word)).getD n [] = word := by
  rw [hfront.wordsOf_append, wordsOf_isBlank hword, ← hfront.count,
    List.getD_append_right _ _ _ _ le_rfl, Nat.sub_self]
  rfl

/-- The two words of the line with the link quality. -/
theorem IsFront.getD_words_lqi (hfront : IsFront start front n)
    (hword : IsWord isSpace word) (hword' : IsWord isSpace word') :
    (wordsOf isBlank (front ++ word ++ ascii " / " ++ word' ++
        ascii " dBm")).getD n [] = word ∧
      (wordsOf isBlank (front ++ word ++ ascii " / " ++ word' ++
        ascii " dBm")).getD (n + 2) [] = word' := by
  have hslash : wordsOf isBlank (ascii " / ") = [[0x2F]] := by decide
  have hlast : (ascii " / ").getLast? = some 0x20 := by decide
  have hhead : (ascii " / " ++ word').head? = some 0x20 := by
    rw [List.head?_append, show (ascii " / ").head? = some 0x20 by decide]
    rfl
  have hunit : (ascii " dBm").head? = some 0x20 := by decide
  have hwords : wordsOf isBlank (front ++ word ++ ascii " / " ++ word' ++
      ascii " dBm") =
        wordsOf isBlank front ++ ([word, [0x2F], word'] ++
          wordsOf isBlank (ascii " dBm")) := by
    rw [wordsOf_append_of_head? hunit rfl, List.append_assoc _ (ascii " / "),
      wordsOf_append_of_head? hhead rfl, hfront.wordsOf_append,
      wordsOf_append_of_getLast? hlast rfl, hslash, wordsOf_isBlank hword,
      wordsOf_isBlank hword', List.append_assoc, List.append_assoc]
    rfl
  rw [hwords, ← hfront.count]
  constructor
  · rw [List.getD_append_right _ _ _ _ le_rfl, Nat.sub_self]
    rfl
  · rw [List.getD_append_right _ _ _ _ (Nat.le_add_right _ _),
      Nat.add_sub_cancel_left]
    rfl

end Words

/-! ## The rules -/

section Rules

variable (st : Awk) {line : Line}

theorem awkStep_network (hline : ascii "  network on channel" <+: line) :
    awkStep st line =
      { st with ch := (wordsOf isBlank line).getD 3 [], have' := true } := by
  rw [awkStep, if_pos hline]

variable {st} (hhave : st.have' = true)

include hhave

theorem awkStep_pan (hline : ascii "    pan id" <+: line) :
    awkStep st line =
      { st with pan := (wordsOf isBlank line).getD 2 [] } := by
  have hstarts := awkStarts_pairwise
  simp only [awkStarts, List.pairwise_cons, List.forall_mem_cons] at hstarts
  obtain ⟨⟨hnetwork, -⟩, -⟩ := hstarts
  rw [awkStep, if_neg (hnetwork.not_starting hline), if_pos ⟨hhave, hline⟩]

theorem awkStep_ext (hline : ascii "    ext pan id" <+: line) :
    awkStep st line =
      { st with ext := (wordsOf isBlank line).getD 3 [] } := by
  have hstarts := awkStarts_pairwise
  simp only [awkStarts, List.pairwise_cons, List.forall_mem_cons] at hstarts
  obtain ⟨⟨-, hnetwork, -⟩, ⟨hpan, -⟩, -⟩ := hstarts
  rw [awkStep, if_neg (hnetwork.not_starting hline),
    if_neg fun h => hpan.not_starting hline h.2, if_pos ⟨hhave, hline⟩]

theorem awkStep_joining (hline : ascii "    allowing join" <+: line) :
    awkStep st line =
      { st with j := (wordsOf isBlank line).getD 2 [] } := by
  have hstarts := awkStarts_pairwise
  simp only [awkStarts, List.pairwise_cons, List.forall_mem_cons] at hstarts
  obtain ⟨⟨-, -, hnetwork, -⟩, ⟨-, hpan, -⟩, ⟨hext, -⟩, -⟩ := hstarts
  rw [awkStep, if_neg (hnetwork.not_starting hline),
    if_neg fun h => hpan.not_starting hline h.2,
    if_neg fun h => hext.not_starting hline h.2, if_pos ⟨hhave, hline⟩]

theorem awkStep_lqi (hline : ascii "    lqi / rssi" <+: line) :
    awkStep st line =
      { st with
        printed := st.printed ++ [[0x7C].intercalate
          [st.ch, st.pan, st.ext, st.j, (wordsOf isBlank line).getD 3 [],
            (wordsOf isBlank line).getD 5 []]]
        have' := false } := by
  have hstarts := awkStarts_pairwise
  simp only [awkStarts, List.pairwise_cons, List.forall_mem_cons] at hstarts
  obtain ⟨⟨-, -, -, hnetwork, -⟩, ⟨-, -, hpan, -⟩, ⟨-, hext, -⟩, ⟨hjoin, -⟩,
    -⟩ := hstarts
  rw [awkStep, if_neg (hnetwork.not_starting hline),
    if_neg fun h => hpan.not_starting hline h.2,
    if_neg fun h => hext.not_starting hline h.2,
    if_neg fun h => hjoin.not_starting hline h.2, if_pos ⟨hhave, hline⟩]

end Rules

/-- What the `awk` program prints for a network. -/
def foundRow (out : List Byte) : Line :=
  [0x7C].intercalate (foundTexts out).words

/-- The lines of a network make one row, whatever was read before. -/
theorem foldl_networkLines (st : Awk) (out : List Byte) :
    ((networkLines out).foldl awkStep st).printed =
      st.printed ++ [foundRow out] := by
  have hwords := isWord_foundTexts out
  simp only [FoundTexts.words, List.forall_mem_cons] at hwords
  obtain ⟨hch, hpan, hext, hjoin, hlqi, hrssi, -⟩ := hwords
  obtain ⟨hchFront, hpanFront, hextFront, hjoinFront, hlqiFront⟩ :=
    isFront_networkLines
  obtain ⟨hlqiWord, hrssiWord⟩ := hlqiFront.getD_words_lqi hlqi hrssi
  have hlonger {start front : Line} (hfront : start <+: front) (rest : Line) :
      start <+: front ++ rest := hfront.trans (List.prefix_append front rest)
  have hquiet : ∀ start ∈ awkStarts,
      ¬start <+: ascii "    stack profile   " ++
        unsignedText (out.getD 12 0).toNat :=
    quiet_of_start (diverge_awkStarts rfl rfl) (List.prefix_append _ _)
  rw [networkLines_eq]
  simp only [List.foldl_cons, List.foldl_nil]
  rw [awkStep_network st (hlonger hchFront.starts _),
    awkStep_pan rfl (hlonger hpanFront.starts _),
    awkStep_ext rfl (hlonger hextFront.starts _),
    awkStep_joining rfl (hlonger hjoinFront.starts _),
    awkStep_of_quiet _ hquiet,
    awkStep_lqi rfl
      (hlonger (hlonger (hlonger (hlonger hlqiFront.starts _) _) _) _),
    awkStep_of_quiet _ not_start_nil, hchFront.getD_words hch,
    hpanFront.getD_words hpan, hextFront.getD_words hext,
    hjoinFront.getD_words hjoin, hlqiWord, hrssiWord]
  rfl

end EzspSpi
