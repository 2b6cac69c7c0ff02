import EzspSpi.Router.ScanText

/-!
# The page of a scan

The networks on the page are those of the callbacks, one after the other, with
their values, however the lines of the scan are mixed with the other lines of
the tool; but a scan ends with its 240th poll.
-/

namespace EzspSpi

open Program

/-! ## The text read back -/

theorem foldl_quiet (st : Awk) {lines : List Line}
    (hquiet : ∀ line ∈ lines, ∀ start ∈ awkStarts, ¬start <+: line) :
    lines.foldl awkStep st = st := by
  induction lines with
  | nil => rfl
  | cons line lines ih =>
      obtain ⟨hline, hlines⟩ := List.forall_mem_cons.mp hquiet
      rw [List.foldl_cons, awkStep_of_quiet st hline, ih hlines]

theorem completeLine_quiet (found : ℕ) (out : List Byte) :
    ∀ start ∈ awkStarts, ¬start <+: completeLine found out := by
  have hlonger {start front : Line} (hfront : start <+: front) (rest : Line) :
      start <+: front ++ rest := hfront.trans (List.prefix_append front rest)
  rw [completeLine]
  split
  · have hdiverge : ∀ start ∈ awkStarts,
        Diverge start (ascii "  scan complete: ") := diverge_awkStarts rfl rfl
    exact quiet_of_start hdiverge (hlonger (List.prefix_append _ _) _)
  · have hdiverge : ∀ start ∈ awkStarts,
        Diverge start (ascii "  scan failed on channel ") :=
      diverge_awkStarts rfl rfl
    exact quiet_of_start hdiverge (hlonger (hlonger (hlonger (hlonger (hlonger
      (List.prefix_append _ _) _) _) _) _) _)

theorem nothingHeard_quiet (found : ℕ) :
    ∀ line ∈ nothingHeard found, ∀ start ∈ awkStarts, ¬start <+: line := by
  rw [nothingHeard]
  split
  · rw [List.forall_mem_singleton]
    exact quiet_of_start (diverge_awkStarts rfl rfl) (List.prefix_append _ _)
  · exact List.forall_mem_nil _

/-- One row for each network that so many polls bring. -/
theorem foldl_scanText (st : Awk) (polls found : ℕ) (out : List Byte)
    (polled : List Polled) :
    ((scanText polls found out polled).foldl awkStep st).printed =
      st.printed ++ (networksHeard out (polled.take polls)).map foundRow := by
  induction polls generalizing st found out polled with
  | zero =>
      rw [scanText, foldl_quiet st (nothingHeard_quiet found)]
      exact (List.append_nil _).symm
  | succ polls ih =>
      cases polled with
      | nil =>
          rw [scanText, foldl_quiet st (nothingHeard_quiet found)]
          exact (List.append_nil _).symm
      | cons result polled =>
          obtain ⟨id, payload⟩ := result
          rw [scanText, List.take_succ_cons, networksHeard]
          by_cases hfound : id = ezspNetworkFoundHandler
          · rw [if_pos hfound, if_pos hfound, List.foldl_append, ih,
              foldl_networkLines, List.append_assoc]
            rfl
          · rw [if_neg hfound, if_neg hfound]
            by_cases hcomplete : id = ezspScanCompleteHandler
            · rw [if_pos hcomplete, if_pos hcomplete, List.foldl_cons,
                awkStep_of_quiet st (completeLine_quiet found _),
                foldl_quiet st (nothingHeard_quiet found)]
              exact (List.append_nil _).symm
            · rw [if_neg hcomplete, if_neg hcomplete]
              exact ih st found _ polled

private theorem isOneLine_ite {c : Prop} [Decidable c] {s s' : String}
    (h : IsOneLine (ascii s)) (h' : IsOneLine (ascii s')) :
    IsOneLine (ascii (if c then s else s')) := by
  split
  · exact h
  · exact h'

theorem isOneLine_emberStatusName (s : Byte) :
    IsOneLine (ascii (emberStatusName s)) := by
  rw [emberStatusName]
  repeat refine isOneLine_ite (isOneLine_ascii rfl) ?_
  exact isOneLine_ascii rfl

theorem networkLines_plain (out : List Byte) :
    ∀ line ∈ networkLines out, IsOneLine line := by
  have hword : ∀ word ∈ (foundTexts out).words, IsOneLine word :=
    fun word h => isOneLine_of_isWord (isWord_foundTexts out word h)
  simp only [FoundTexts.words, List.forall_mem_cons] at hword
  obtain ⟨hch, hpan, hext, hjoin, hlqi, hrssi, -⟩ := hword
  rw [networkLines_eq]
  simp only [List.forall_mem_cons, isOneLine_append, isOneLine_unsignedText, hch,
    hpan, hext, hjoin, hlqi, hrssi, and_true]
  and_intros <;> first
    | exact isOneLine_ascii rfl
    | exact List.forall_mem_nil _

theorem completeLine_plain (found : ℕ) (out : List Byte) :
    IsOneLine (completeLine found out) := by
  rw [completeLine]
  split
  · simp only [isOneLine_append, isOneLine_unsignedText, and_true]
    exact ⟨isOneLine_ascii rfl, isOneLine_ascii rfl⟩
  · simp only [isOneLine_append, isOneLine_unsignedText, isOneLine_hexByte,
      isOneLine_emberStatusName, and_true]
    and_intros <;> exact isOneLine_ascii rfl

theorem nothingHeard_plain (found : ℕ) :
    ∀ line ∈ nothingHeard found, IsOneLine line := by
  rw [nothingHeard]
  split
  · rw [List.forall_mem_singleton, isOneLine_append]
    exact ⟨isOneLine_ascii rfl, isOneLine_ascii rfl⟩
  · exact List.forall_mem_nil _

theorem scanText_plain (polls found : ℕ) (out : List Byte)
    (polled : List Polled) :
    ∀ line ∈ scanText polls found out polled, IsOneLine line := by
  induction polls generalizing found out polled with
  | zero => exact nothingHeard_plain found
  | succ polls ih =>
      cases polled with
      | nil => exact nothingHeard_plain found
      | cons result polled =>
          obtain ⟨id, payload⟩ := result
          rw [scanText]
          split
          · exact List.forall_mem_append.mpr
              ⟨networkLines_plain _, ih _ _ polled⟩
          · split
            · exact List.forall_mem_cons.mpr
                ⟨completeLine_plain found _, nothingHeard_plain found⟩
            · exact ih found _ polled

/-- All but empty lines at the end are read back. -/
theorem exists_commandLines {lines : List Line}
    (hlines : ∀ line ∈ lines, IsOneLine line) :
    ∃ n, lines ++ [[]] =
      commandLines (unlines 0x0A lines) ++ List.replicate n [] := by
  obtain ⟨n, hn⟩ := exists_splitOnP_eq_append isNewline (unlines 0x0A lines)
  have hnewline : isNewline 0x0A = true := rfl
  rw [splitOnP_unlines hnewline hlines] at hn
  exact ⟨n, hn⟩

theorem foldl_commandLines {β : Type} {step : β → Line → β}
    (hempty : ∀ s, step s [] = s) {lines : List Line}
    (hlines : ∀ line ∈ lines, IsOneLine line) (s : β) :
    (commandLines (unlines 0x0A lines)).foldl step s =
      lines.foldl step s := by
  have hreplicate (n : ℕ) (s : β) :
      (List.replicate n ([] : Line)).foldl step s = s := by
    induction n with
    | zero => rfl
    | succ n ih => rw [List.replicate_succ, List.foldl_cons, hempty, ih]
  obtain ⟨n, hn⟩ := exists_commandLines hlines
  have hfold := congrArg (List.foldl step s) hn
  rw [List.foldl_append, List.foldl_append, hreplicate] at hfold
  rw [← hfold]
  exact hempty _

theorem filterMap_commandLines {α : Type} {row? : Line → Option α}
    (hempty : row? [] = none) {lines : List Line}
    (hlines : ∀ line ∈ lines, IsOneLine line) :
    (commandLines (unlines 0x0A lines)).filterMap row? =
      lines.filterMap row? := by
  obtain ⟨n, hn⟩ := exists_commandLines hlines
  exact filterMap_eq_of_padded hempty hn

/-! ## The rows read back -/

/-- The record of a network, by what stands in the buffer. -/
def ScanRecord.ofFound (out : List Byte) : ScanRecord where
  channel := (out.getD 0 0).toNat
  panId := ascii "0x" ++ hexWord (out.getD 1 0) (out.getD 2 0)
  extPanId := colonText (foundExtPanId out)
  joinable := decide (out.getD 11 0 ≠ 0)
  lqi := (out.getD 14 0).toNat
  rssi := (out.getD 15 0).toInt

theorem jsonInt_signedText (n : Int) : jsonInt (signedText n) = n := by
  have hsigned := signed_signedText n []
  have hread : number 10 (unsignedText n.natAbs ++ []) = n.natAbs :=
    number_unsignedText _ fun _ h => absurd h (Option.not_mem_none _)
  rw [List.append_nil] at hsigned
  rw [jsonInt, hsigned]
  dsimp only
  rw [hread]
  by_cases hneg : n < 0
  · rw [decide_eq_true hneg, if_pos rfl]
    omega
  · rw [decide_eq_false hneg, if_neg Bool.false_ne_true]
    omega

theorem jsonInt_unsignedText (n : ℕ) : jsonInt (unsignedText n) = n := by
  have hpos : ¬(n : Int) < 0 := by omega
  have hread := jsonInt_signedText n
  rwa [signedText, if_neg hpos, Int.natAbs_natCast] at hread

theorem foundTexts_barless (out : List Byte) :
    ∀ word ∈ (foundTexts out).words, ∀ c ∈ word, isBar c = false := by
  have hdigit : ∀ d < 10,
      isBar (BitVec.ofNat 8 d.digitChar.toNat) = false := by decide
  have hhex : ∀ n < 16, isBar (hexDigit n) = false := by decide
  have hcolon : isBar 0x3A = false := rfl
  have hsign : isBar 0x2D = false := rfl
  have hpan : ∀ c ∈ (foundTexts out).pan, isBar c = false := by
    refine List.forall_mem_append.mpr ⟨by decide, ?_⟩
    exact List.forall_mem_append.mpr
      ⟨forall_mem_hexByte hhex _, forall_mem_hexByte hhex _⟩
  have hjoin : ∀ c ∈ (foundTexts out).j, isBar c = false := by
    dsimp only [foundTexts]
    split
    · decide
    · decide
  simp only [FoundTexts.words, List.forall_mem_cons]
  exact ⟨forall_mem_unsignedText hdigit _, hpan,
    forall_mem_colonText hcolon hhex _, hjoin, forall_mem_unsignedText hdigit _,
    forall_mem_signedText hsign hdigit _, List.forall_mem_nil _⟩

theorem scanRecord?_foundRow (out : List Byte) :
    scanRecord? (foundRow out) = some (ScanRecord.ofFound out) := by
  have hbar : ∀ word ∈ (foundTexts out).words, (0x7C : Byte) ∉ word := by
    intro word hword hmem
    exact absurd (foundTexts_barless out word hword _ hmem) (by decide)
  have hsplit : (foundRow out).splitOnP isBar = (foundTexts out).words :=
    List.splitOn_intercalate 0x7C hbar (List.cons_ne_nil _ _)
  have hch : (foundTexts out).ch ≠ [] := (isWord_unsignedText _).ne_nil
  have hjoin : (foundTexts out).j = ascii "YES" ↔ out.getD 11 0 ≠ 0 := by
    dsimp only [foundTexts]
    by_cases hflag : out.getD 11 0 ≠ 0
    · rw [if_pos hflag]
      exact iff_of_true rfl hflag
    · rw [if_neg hflag]
      exact iff_of_false (by decide) hflag
  rw [scanRecord?, hsplit]
  refine (if_neg hch).trans (congrArg some ?_)
  rw [ScanRecord.ofFound, ScanRecord.mk.injEq]
  refine ⟨jsonInt_unsignedText _, rfl, rfl, decide_eq_decide.mpr hjoin,
    jsonInt_unsignedText _, ?_⟩
  exact (congrArg jsonInt List.intercalate_singleton).trans
    (jsonInt_signedText _)

theorem foundRow_plain (out : List Byte) : IsOneLine (foundRow out) := by
  intro c hc
  rcases mem_intercalate hc with rfl | ⟨word, hword, hmem⟩
  · rfl
  · exact isOneLine_of_isWord (isWord_foundTexts out word hword) c hmem

/-! ## The networks of the page -/

/-- So many polls of a scan, read back from between the other lines. -/
theorem emitScan_interleaved {polls found : ℕ} {out : List Byte}
    {polled : List Polled} {output : List Line}
    (houtput : Interleaved IsDiagnostic (scanText polls found out polled)
      output) :
    emitScan (unlines 0x0A output) =
      (networksHeard out (polled.take polls)).map ScanRecord.ofFound := by
  have hempty (st : Awk) : awkStep st [] = st :=
    awkStep_of_quiet st not_start_nil
  have hplain : ∀ line ∈ output, IsOneLine line :=
    houtput.forall_mem (fun _ h => h.isOneLine)
      (scanText_plain polls found out polled)
  have hskip (st : Awk) (line : Line) (h : IsDiagnostic line) :
      awkStep st line = st := awkStep_of_quiet st h.quiet
  have hrows : ∀ row ∈ (networksHeard out (polled.take polls)).map foundRow,
      IsOneLine row := by
    intro row hrow
    obtain ⟨heard, -, rfl⟩ := List.mem_map.mp hrow
    exact foundRow_plain heard
  have hread : scanRecord? ∘ foundRow = fun heard =>
      some (ScanRecord.ofFound heard) := funext scanRecord?_foundRow
  rw [emitScan, foldl_commandLines hempty hplain, houtput.foldl_eq hskip,
    foldl_scanText]
  dsimp only [Awk.init]
  rw [List.nil_append, filterMap_commandLines rfl hrows, List.filterMap_map,
    hread]
  exact congrFun List.filterMap_eq_map' _

/-! ## What a record tells -/

private theorem hexDigit_injective {n n' : ℕ} (hn : n < 16) (hn' : n' < 16)
    (h : hexDigit n = hexDigit n') : n = n' := by
  have hall : ∀ n < 16, ∀ n' < 16, hexDigit n = hexDigit n' → n = n' := by
    decide
  exact hall n hn n' hn' h

theorem hexByte_injective : Function.Injective hexByte := by
  intro b b' h
  have hb : b.toNat < 256 := b.isLt
  have hb' : b'.toNat < 256 := b'.isLt
  rw [hexByte, hexByte, List.cons_eq_cons, List.cons_eq_cons] at h
  have hhigh := hexDigit_injective (by omega) (by omega) h.1
  have hlow := hexDigit_injective (by omega) (by omega) h.2.1
  exact BitVec.eq_of_toNat_eq (by omega)

/-- Two records are the same only for the same network, heard alike. -/
theorem ScanRecord.ofFound_eq_iff (out out' : List Byte) :
    ScanRecord.ofFound out = ScanRecord.ofFound out' ↔
      out.getD 0 0 = out'.getD 0 0 ∧
      (out.getD 1 0 = out'.getD 1 0 ∧ out.getD 2 0 = out'.getD 2 0) ∧
      foundExtPanId out = foundExtPanId out' ∧
      (out.getD 11 0 ≠ 0 ↔ out'.getD 11 0 ≠ 0) ∧
      out.getD 14 0 = out'.getD 14 0 ∧ out.getD 15 0 = out'.getD 15 0 := by
  have hnumber (b b' : Byte) :
      (b.toNat : Int) = (b'.toNat : Int) ↔ b = b' := by
    rw [Int.natCast_inj, BitVec.toNat_inj]
  have hword : ascii "0x" ++ hexWord (out.getD 1 0) (out.getD 2 0) =
      ascii "0x" ++ hexWord (out'.getD 1 0) (out'.getD 2 0) ↔
        out.getD 1 0 = out'.getD 1 0 ∧ out.getD 2 0 = out'.getD 2 0 := by
    constructor
    · intro h
      obtain ⟨hhigh, hlow⟩ := List.append_inj (List.append_cancel_left h) rfl
      exact ⟨hexByte_injective hlow, hexByte_injective hhigh⟩
    · rintro ⟨hlow, hhigh⟩
      rw [hlow, hhigh]
  have hext : colonText (foundExtPanId out) =
      colonText (foundExtPanId out') ↔
        foundExtPanId out = foundExtPanId out' := by
    constructor
    · intro h
      have hlength (out : List Byte) : (foundExtPanId out).length = 8 := rfl
      have hparse := parseExtPanId_colonText (hlength out)
      rw [h, parseExtPanId_colonText (hlength out')] at hparse
      exact (Except.ok.inj hparse).symm
    · exact congrArg colonText
  rw [ScanRecord.ofFound, ScanRecord.ofFound, ScanRecord.mk.injEq, hnumber,
    hword, hext, decide_eq_decide, hnumber, BitVec.toInt_inj]

/-! ## The loop that polls -/

section Loop

variable {σ : Type} [Kernel σ] (g : Globals) (p : Pins)

/-- What the polls of a scan bring until it is complete. -/
def scanPolled : (polls : ℕ) → Router → Host σ (List Polled)
  | 0, _ => pure []
  | polls + 1, r => do
      let (r, id, payload) ← ezspPollCallback g p r 64
      if id = ezspScanCompleteHandler then pure [(id, payload)]
      else do
        let later ← scanPolled polls r
        pure ((id, payload) :: later)

/-- The loop of `cmd_scan`: the number of networks it has found, and the lines
it prints, with the one that may follow it. -/
def scanRounds : (polls found : ℕ) → Router → (out : List Byte) →
    Host σ (ℕ × List Line)
  | 0, found, _, _ => pure (found, nothingHeard found)
  | polls + 1, found, r, out => do
      let (r, id, payload) ← ezspPollCallback g p r 64
      let out := overwrite out 0 payload
      if id = ezspNetworkFoundHandler then do
        let (found, later) ← scanRounds polls (found + 1) r out
        pure (found, networkLines out ++ later)
      else if id = ezspScanCompleteHandler then
        pure (found, completeLine found out :: nothingHeard found)
      else scanRounds polls found r out

/-- The rounds print what the polls bring, and count the networks. -/
theorem scanRounds_eq (polls found : ℕ) (r : Router) (out : List Byte) :
    (scanRounds g p polls found r out : Host σ (ℕ × List Line)) =
      scanPolled g p polls r >>= fun polled =>
        pure (found + (networksHeard out polled).length,
          scanText polls found out polled) := by
  induction polls generalizing found r out with
  | zero => rfl
  | succ polls ih =>
      rw [scanRounds, scanPolled, bind_assoc]
      congr 1
      funext result
      obtain ⟨r', id, payload⟩ := result
      dsimp only
      by_cases hfound : id = ezspNetworkFoundHandler
      · have hnot : id ≠ ezspScanCompleteHandler := by
          rw [hfound]
          decide
        rw [if_pos hfound, if_neg hnot, ih, bind_assoc, bind_assoc]
        simp only [pure_bind, scanText, networksHeard, if_pos hfound,
          List.length_cons, Nat.add_assoc, Nat.add_comm 1]
      · rw [if_neg hfound]
        by_cases hcomplete : id = ezspScanCompleteHandler
        · rw [if_pos hcomplete, if_pos hcomplete, pure_bind, scanText,
            networksHeard, if_neg hfound, if_neg hfound, if_pos hcomplete,
            if_pos hcomplete, List.length_nil, Nat.add_zero]
        · rw [if_neg hcomplete, if_neg hcomplete, ih, bind_assoc]
          simp only [pure_bind, scanText, networksHeard, if_neg hfound,
            if_neg hcomplete]

theorem scanWindow_eq (polls : ℕ) (r : Router) (out : List Byte) :
    (scanWindow g p polls r out : Host σ (List Beacon)) =
      scanPolled g p polls r >>= fun polled =>
        pure ((networksHeard out polled).map beaconOf) := by
  induction polls generalizing r out with
  | zero => rfl
  | succ polls ih =>
      rw [scanWindow, scanPolled, bind_assoc]
      congr 1
      funext result
      obtain ⟨r', id, payload⟩ := result
      dsimp only
      by_cases hfound : id = ezspNetworkFoundHandler
      · have hnot : id ≠ ezspScanCompleteHandler := by
          rw [hfound]
          decide
        rw [if_pos hfound, if_neg hnot, ih, bind_assoc, bind_assoc]
        simp only [pure_bind, networksHeard, if_pos hfound, List.map_cons]
      · rw [if_neg hfound]
        by_cases hcomplete : id = ezspScanCompleteHandler
        · rw [if_pos hcomplete, if_pos hcomplete, pure_bind, networksHeard,
            if_neg hfound, if_pos hcomplete]
          rfl
        · rw [if_neg hcomplete, if_neg hcomplete, ih, bind_assoc]
          simp only [pure_bind, networksHeard, if_neg hfound,
            if_neg hcomplete]

theorem scanPolled_length (polls : ℕ) (r : Router) :
    Yields (fun polled : List Polled => polled.length ≤ polls)
      (scanPolled g p polls r : Host σ (List Polled)) := by
  induction polls generalizing r with
  | zero => exact Yields.pure (Nat.le_refl 0)
  | succ polls ih =>
      apply Yields.after
      rintro ⟨r', id, payload⟩
      apply Yields.ite
      · exact fun _ => Yields.pure (Nat.succ_le_succ (Nat.zero_le polls))
      · exact fun _ => (ih r').bind fun later hlater =>
          Yields.pure (Nat.succ_le_succ hlater)

/-- In whatever surroundings, the page has the networks of the callbacks that
the loop has polled. -/
theorem scanRounds_page {r : Router} {out : List Byte} {s : σ} {found : ℕ}
    {lines output : List Line}
    (hlines : (scanRounds g p 240 0 r out s).outcome = .done (found, lines))
    (houtput : Interleaved IsDiagnostic lines output) :
    ∃ polled, (scanPolled g p 240 r s).outcome = .done polled ∧
      emitScan (unlines 0x0A output) =
        (networksHeard out polled).map ScanRecord.ofFound := by
  rw [scanRounds_eq, bind_apply] at hlines
  cases hpolled : (scanPolled g p 240 r s).outcome with
  | halt why =>
      rw [Run.andThen_of_halt hpolled] at hlines
      cases hlines
  | done polled =>
      rw [Run.andThen_of_done hpolled] at hlines
      cases hlines
      have hlength := (scanPolled_length g p 240 r).value s polled hpolled
      refine ⟨polled, rfl, ?_⟩
      rw [emitScan_interleaved houtput, List.take_of_length_le hlength]

end Loop

/-! ## Every scan -/

/-- The page has the networks that the 240 polls of a scan bring before it is
complete, one after the other and with their values, whatever lines the tool
prints in between. -/
theorem emitScan_scanText (out : List Byte) (polled : List Polled)
    {output : List Line}
    (houtput : Interleaved IsDiagnostic (scanText 240 0 out polled) output) :
    emitScan (unlines 0x0A output) =
      (networksHeard out (polled.take 240)).map ScanRecord.ofFound :=
  emitScan_interleaved houtput

/-- Two networks, with a poll that brings nothing in between. -/
def twoNetworks : List Polled :=
  [(ezspNetworkFoundHandler, [0x0B, 0x62, 0x1A, 0x01, 0x02, 0x03, 0x04, 0x05,
      0x06, 0x07, 0x08, 0x01, 0x02, 0x00, 0xC8, 0xC0]),
    (0x00, []),
    (ezspNetworkFoundHandler, [0x19, 0xFE, 0xCA, 0xFF, 0xFF, 0xFF, 0xFF, 0xFF,
      0xFF, 0xFF, 0xFF, 0x00, 0x02, 0x00, 0xFF, 0x05]),
    (ezspScanCompleteHandler, [0x1A, 0x00])]

theorem emitScan_scanText_two :
    let text := scanText 240 0 (List.replicate 64 0) twoNetworks
    let output := Diagnostic.noWakeAck.line :: text
    Interleaved IsDiagnostic text output ∧
      emitScan (unlines 0x0A output) =
        [⟨11, ascii "0x1A62", ascii "01:02:03:04:05:06:07:08", true, 200, -64⟩,
          ⟨25, ascii "0xCAFE", ascii "FF:FF:FF:FF:FF:FF:FF:FF", false, 255,
            5⟩] := by
  have houtput : Interleaved IsDiagnostic
      (scanText 240 0 (List.replicate 64 0) twoNetworks)
      (Diagnostic.noWakeAck.line ::
        scanText 240 0 (List.replicate 64 0) twoNetworks) :=
    Interleaved.other ⟨_, rfl⟩ (Interleaved.refl _)
  exact ⟨houtput, (emitScan_scanText _ _ houtput).trans (by decide +kernel)⟩

/-- Of 241 networks in a row the last is lost: the scan has ended before. -/
theorem scan_cut_short :
    ¬∀ (networks : List (List Byte)) (complete : List Byte)
      (output : List Line),
      let polled := networks.map (fun payload =>
        (ezspNetworkFoundHandler, payload)) ++
          [(ezspScanCompleteHandler, complete)]
      Interleaved IsDiagnostic
        (scanText 240 0 (List.replicate 64 0) polled) output →
      emitScan (unlines 0x0A output) =
        (networksHeard (List.replicate 64 0) polled).map
          ScanRecord.ofFound := by
  intro hall
  have hpage := hall (List.replicate 241 (List.replicate 16 0x00)) [0x1A, 0x00]
    _ (Interleaved.refl _)
  rw [emitScan_interleaved (Interleaved.refl _)] at hpage
  have hlength := congrArg List.length hpage
  rw [List.length_map, List.length_map] at hlength
  exact absurd hlength (by decide +kernel)

end EzspSpi
