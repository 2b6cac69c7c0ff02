import EzspSpi.Router.Dedupe
import EzspSpi.Router.InitScript
import EzspSpi.Router.Sessions

/-!
# The button of the scan page

What a click on a row of the scan page sets in motion.  The page hands the
network to the backend, which writes it into the configuration, from which the
init script puts together the command line of `cmd_join`.
-/

namespace EzspSpi

open Program

/-! ## From the page to the configuration -/

/-- A number in base 16 may start with `0x`. -/
def withoutPrefix : List Byte → List Byte
  | 0x30 :: x :: rest =>
      if x = 0x78 ∨ x = 0x58 then rest else 0x30 :: x :: rest
  | rest => rest

/-- `parseInt(text, 16)`, none for a NaN.  From 2^53 on it would not be
exact. -/
def parseIntHex (text : List Byte) : Option Int :=
  let (negative, rest) := signed text
  let rest := withoutPrefix rest
  if (rest.head?.bind digitValue).any (· < 16) then
    some (if negative then -(number 16 rest : ℕ) else (number 16 rest : ℕ))
  else none

/-- `String(n)`. -/
def stringOf : Option Int → List Byte
  | none => ascii "NaN"
  | some n => signedText n

def Uci.set (u : Uci) (name option : String) (value : List Byte) : Uci :=
  fun name' option' =>
    if name' = name ∧ option' = option then value else u name' option'

/-- The configuration that `join` of the backend leaves. -/
def rpcJoin (u : Uci) (channel panId : List Byte) : Uci :=
  if channel ≠ [] ∧ panId ≠ [] then
    (u.set "network" "channel" channel).set "network" "pan_id" panId
  else u

/-- `joinNetwork` for a row of the page. -/
def ScanEntry.joinNetwork (e : ScanEntry) (u : Uci) : Uci :=
  rpcJoin u (stringOf (some e.channel)) (stringOf (parseIntHex e.panId))

section Written

variable (u : Uci) (channel panId : List Byte)

@[simp]
theorem rpcJoin_radio : rpcJoin u channel panId "radio" = u "radio" := by
  funext option
  rw [rpcJoin]
  split
  · simp [Uci.set]
  · rfl

variable {channel panId}

theorem rpcJoin_network (hchannel : channel ≠ []) (hpanId : panId ≠ []) :
    rpcJoin u channel panId "network" "channel" = channel ∧
      rpcJoin u channel panId "network" "pan_id" = panId := by
  rw [rpcJoin, if_pos ⟨hchannel, hpanId⟩]
  simp [Uci.set]

end Written

theorem radioSettings_congr {u u' : Uci} (h : u "radio" = u' "radio") :
    radioSettings u = radioSettings u' := by
  have honly (u : Uci) : radioSettings u = radioSettings fun _ => u "radio" :=
    rfl
  rw [honly u, honly u', h]

/-! ## Numbers read back -/

theorem unsignedText_pos {n : ℕ} (hn : 0 < n) : ∃ d < 10, 0 < d ∧ ∃ rest,
    unsignedText n = BitVec.ofNat 8 d.digitChar.toNat :: rest := by
  induction n using Nat.base_induction 10 (by decide) with
  | single d hd => exact ⟨d, hd, hn, [], unsignedText_of_lt hd⟩
  | digit n d hd hn' ih =>
      obtain ⟨d', hd', hpos, rest, htext⟩ := ih hn'
      rw [unsignedText_append hn' hd, htext]
      exact ⟨d', hd', hpos, rest ++ unsignedText d, rfl⟩

/-- A decimal number does not look like an octal one. -/
theorem strtoul_unsignedText {n : ℕ} (hn : n < 2 ^ 32) :
    strtoul (unsignedText n) = BitVec.ofNat 32 n := by
  rcases Nat.eq_zero_or_pos n with rfl | hpos
  · decide
  have hsigned : signed (unsignedText n) = (false, unsignedText n) := by
    have h := signed_signedText n []
    rwa [List.append_nil, List.append_nil, signedText, if_neg (by omega),
      Int.natAbs_natCast, decide_eq_false (by omega)] at h
  have hradix : radix (unsignedText n) = (10, unsignedText n) := by
    obtain ⟨d, hd, hd', rest, htext⟩ := unsignedText_pos hpos
    rw [htext]
    interval_cases d <;> rfl
  have hnumber : number 10 (unsignedText n ++ []) = n :=
    number_unsignedText n fun _ h => absurd h (Option.not_mem_none _)
  rw [List.append_nil] at hnumber
  rw [strtoul, hsigned]
  dsimp only
  rw [hradix]
  dsimp only
  rw [hnumber, unsignedLong, if_neg (by omega), if_neg Bool.false_ne_true]

theorem number_hexDigit {acc n : ℕ} (hn : n < 16) (rest : List Byte) :
    number.go 16 acc (hexDigit n :: rest) =
      number.go 16 (acc * 16 + n) rest := by
  rw [number.go, digitValue_hexDigit hn]
  exact if_pos hn

/-- A pan id in hexadecimal is read as the number it is. -/
theorem parseIntHex_hexWord (low high : Byte) :
    parseIntHex (ascii "0x" ++ hexWord low high) =
      some ((high.toNat * 256 + low.toNat : ℕ) : Int) := by
  have hlow : low.toNat < 256 := low.isLt
  have hhigh : high.toNat < 256 := high.isLt
  have hword : hexWord low high = [hexDigit (high.toNat / 16),
      hexDigit (high.toNat % 16), hexDigit (low.toNat / 16),
      hexDigit (low.toNat % 16)] := rfl
  have hnumber : number 16 (hexWord low high) =
      high.toNat * 256 + low.toNat := by
    rw [hword, number, number_hexDigit (by omega), number_hexDigit (by omega),
      number_hexDigit (by omega), number_hexDigit (by omega), number.go]
    omega
  have hdigits : ((hexWord low high).head?.bind digitValue).any (· < 16) =
      true := by
    have hfirst : high.toNat / 16 < 16 := by omega
    rw [hword, List.head?_cons, Option.bind_some, digitValue_hexDigit hfirst]
    exact decide_eq_true hfirst
  have hsigned : signed (ascii "0x" ++ hexWord low high) =
      (false, 0x30 :: 0x78 :: hexWord low high) := rfl
  have hlead : withoutPrefix (0x30 :: 0x78 :: hexWord low high) =
      hexWord low high := rfl
  rw [parseIntHex, hsigned]
  dsimp only
  rw [hlead, if_pos hdigits, if_neg Bool.false_ne_true, hnumber]

theorem toNat_le16 (out : List Byte) (at' : ℕ) :
    (le16 out at').toNat =
      (out.getD (at' + 1) 0).toNat * 256 + (out.getD at' 0).toNat := by
  have hlow : (out.getD at' 0).toNat < 2 ^ 8 := (out.getD at' 0).isLt
  have hhigh : (out.getD (at' + 1) 0).toNat < 2 ^ 8 :=
    (out.getD (at' + 1) 0).isLt
  have hshift : (out.getD (at' + 1) 0).toNat <<< 8 =
      (out.getD (at' + 1) 0).toNat * 256 := Nat.shiftLeft_eq _ 8
  have hor := Nat.shiftLeft_add_eq_or_of_lt hlow (out.getD (at' + 1) 0).toNat
  rw [le16, BitVec.toNat_or, BitVec.toNat_shiftLeft, BitVec.toNat_setWidth,
    BitVec.toNat_setWidth, Nat.mod_eq_of_lt (by omega),
    Nat.mod_eq_of_lt (a := (out.getD (at' + 1) 0).toNat) (by omega),
    Nat.mod_eq_of_lt (by omega), Nat.or_comm, ← hor, hshift]

/-! ## The command line of a row -/

/-- What `main` reads after a click on a row that stands for these bytes of a
`networkFoundHandler`. -/
def clickedSettings (u : Uci) (heard : List Byte) : Settings :=
  radioSettings u { defaultSettings with
    router.channel := (heard.getD 0 0).setWidth 32
    router.panId := le16 heard 1
    router.havePanId := true }

theorem parseArgs_click {u : Uci} (hu : u.Plain)
    (hmode : configGet u "radio" "mode" (ascii "router") ≠ ascii "bridge")
    {e : ScanEntry} {heard : List Byte}
    (he : e.network = (ScanRecord.ofFound heard).network) :
    ∃ words, joinWords (e.joinNetwork u) = some words ∧
      parseArgs words = .ok (clickedSettings u heard, none) := by
  obtain ⟨hchannel, hpanId⟩ := Prod.mk.inj he
  have hclick : e.joinNetwork u = rpcJoin u
      (unsignedText (heard.getD 0 0).toNat)
      (unsignedText (le16 heard 1).toNat) := by
    have hread : parseIntHex e.panId = some ((le16 heard 1).toNat : Int) := by
      rw [toNat_le16]
      exact (congrArg parseIntHex hpanId).trans (parseIntHex_hexWord _ _)
    have htext (n : ℕ) : stringOf (some (n : Int)) = unsignedText n := by
      rw [stringOf, signedText, if_neg (by omega), Int.natAbs_natCast]
    rw [ScanEntry.joinNetwork, hread, htext, hchannel]
    exact congrArg (rpcJoin u · _) (htext _)
  have hset (n : ℕ) : unsignedText n ≠ [] := (isWord_unsignedText n).ne_nil
  obtain ⟨hchannel', hpanId'⟩ := rpcJoin_network u
    (hset (heard.getD 0 0).toNat) (hset (le16 heard 1).toNat)
  have hradio : (e.joinNetwork u) "radio" = u "radio" := by
    rw [hclick]
    exact rpcJoin_radio u _ _
  have hplain : (e.joinNetwork u).Plain := by
    intro option
    rw [hradio]
    exact hu option
  have hwords : ∃ words, joinWords (e.joinNetwork u) = some words := by
    refine ⟨_, if_neg ?_ |>.trans (if_neg ?_)⟩
    · rw [configGet, hradio]
      exact hmode
    · rw [hclick, hchannel', hpanId', not_or]
      exact ⟨hset _, hset _⟩
  obtain ⟨words, hwords⟩ := hwords
  refine ⟨words, hwords, ?_⟩
  have hparse := parseArgs_joinWords hplain hwords
  have hch : strtoul (unsignedText (heard.getD 0 0).toNat) =
      (heard.getD 0 0).setWidth 32 := by
    have hlt : (heard.getD 0 0).toNat < 256 := (heard.getD 0 0).isLt
    rw [strtoul_unsignedText (by omega)]
    apply BitVec.eq_of_toNat_eq
    rw [BitVec.toNat_ofNat, BitVec.toNat_setWidth]
  have hpan : (strtoul (unsignedText (le16 heard 1).toNat)).setWidth 16 =
      le16 heard 1 := by
    have hlt : (le16 heard 1).toNat < 65536 := (le16 heard 1).isLt
    rw [strtoul_unsignedText (by omega)]
    apply BitVec.eq_of_toNat_eq
    rw [BitVec.toNat_setWidth, BitVec.toNat_ofNat]
    omega
  rw [radioSettings_congr hradio, hclick, hchannel', hpanId', hch, hpan]
    at hparse
  exact hparse

/-! ## The network that is joined -/

/-- Every network that is joined is the one of these bytes. -/
def JoinsHeard (heard : List Byte) (frameId : Byte) (params : List Byte) :
    Prop :=
  frameId = ezspJoinNetwork → ∃ ext power nwkUpdateId, params =
    0x02 :: ext ++ [heard.getD 1 0, heard.getD 2 0, power, heard.getD 0 0,
      0x00, 0x00, 0x00, nwkUpdateId, 0, 0, 0, 0]

theorem joinsHeard_of_sends {ids : List Byte} {u : Uci} {heard : List Byte}
    {frameId : Byte} {params : List Byte}
    (h : Sends ids (clickedSettings u heard).router frameId params) :
    JoinsHeard heard frameId params := by
  intro hid
  obtain ⟨r, nwkUpdateId, hparams⟩ := h.join hid
  obtain ⟨hlow, hhigh⟩ := le16_halves (heard.getD 1 0) (heard.getD 2 0)
  have hchannel : ((heard.getD 0 0).setWidth 32).setWidth 8 =
      heard.getD 0 0 := BitVec.setWidth_setWidth_of_le _ (by decide)
  refine ⟨r.extPanId.take 8,
    (clickedSettings u heard).router.txPower.setWidth 8, nwkUpdateId,
    hparams.trans ?_⟩
  rw [joinParams]
  dsimp only [clickedSettings, radioSettings]
  rw [hchannel, le16, hlow, hhigh]

/-- The row of a scan that is clicked on stands for a network that the scan has
heard, with an open device if the row says open.  It is this network that
`cmd_join` is started for, and no other that it ever joins. -/
theorem click_joins_heard {polls found : ℕ} {out : List Byte}
    {polled : List Polled} {output : List Line}
    (houtput : Interleaved IsDiagnostic (scanText polls found out polled)
      output)
    {e : ScanEntry}
    (he : e ∈ ScanRecord.dedupe (emitScan (unlines 0x0A output)))
    {u : Uci} (hu : u.Plain)
    (hmode : configGet u "radio" "mode" (ascii "router") ≠ ascii "bridge") :
    ∃ heard ∈ networksHeard out (polled.take polls),
      (e.joinable = true → heard.getD 11 0 ≠ 0) ∧
      ∃ words s, joinWords (e.joinNetwork u) = some words ∧
        parseArgs words = .ok (s, none) ∧
        ∀ {σ : Type} [Kernel σ] (g : Globals) (p : Pins) (r : Router)
          (scanOut out : List Byte) (k : σ),
          Along (sessionRule r.seq (JoinsHeard heard)) []
            (cmdJoin g s.router p scanOut out r k).trace := by
  have hsum := ScanRecord.summarizes_dedupe (emitScan (unlines 0x0A output))
  have hsums := hsum.sums e he
  have hrecord : ∃ n ∈ recordsOf e.network (emitScan (unlines 0x0A output)),
      e.joinable = true → n.joinable = true := by
    by_cases hjoin : e.joinable = true
    · obtain ⟨n, hn, hopen⟩ := hsums.joinable.mp hjoin
      exact ⟨n, hn, fun _ => hopen⟩
    · obtain ⟨n, hn, -⟩ := hsums.heard
      exact ⟨n, hn, fun h => absurd h hjoin⟩
  obtain ⟨n, hn, hopen⟩ := hrecord
  obtain ⟨hmem, hnetwork⟩ := List.mem_filter.mp hn
  rw [emitScan_interleaved houtput] at hmem
  obtain ⟨heard, hheard, rfl⟩ := List.mem_map.mp hmem
  obtain ⟨words, hwords, hparse⟩ := parseArgs_click hu hmode
    (of_decide_eq_true hnetwork).symm
  refine ⟨heard, hheard, ?_, words, clickedSettings u heard, hwords, hparse,
    ?_⟩
  · exact fun hjoin => of_decide_eq_true (hopen hjoin)
  · intro σ _ g p r scanOut out k
    let join : RadioCommand := .flow (.join scanOut out)
    have hsends := (Conduct.program (opens_inSession g p
      (clickedSettings u heard).router r) join (conduct_inSession r.seq _) k).1
    exact hsends.mono fun h e hrule tx htx =>
      (hrule tx htx).mono fun frameId params => joinsHeard_of_sends

/-- An open network on channel 25. -/
def oneNetwork : List Polled :=
  [(ezspNetworkFoundHandler,
    [25, 0x38, 0x13, 1, 2, 3, 4, 5, 6, 7, 8, 1, 2, 0, 200, 0xC0])]

theorem click_joins_heard_one :
    ∃ heard ∈ networksHeard (List.replicate 64 0) oneNetwork,
      heard.getD 11 0 ≠ 0 ∧
      ∃ words s, joinWords ((ScanEntry.first (ScanRecord.ofFound heard))
          |>.joinNetwork (Uci.ofOptions shippedOptions)) = some words ∧
        parseArgs words = .ok (s, none) := by
  have hlines : Interleaved IsDiagnostic
      (scanText 240 0 (List.replicate 64 0) oneNetwork)
      (scanText 240 0 (List.replicate 64 0) oneNetwork) :=
    Interleaved.refl _
  have hrow : ScanEntry.first (ScanRecord.ofFound
      (overwrite (List.replicate 64 0) 0 (oneNetwork.head!).2)) ∈
      ScanRecord.dedupe (emitScan (unlines 0x0A
        (scanText 240 0 (List.replicate 64 0) oneNetwork))) := by
    rw [emitScan_interleaved hlines]
    exact List.mem_singleton_self _
  obtain ⟨heard, hheard, hopen, words, s, hwords, hparse, -⟩ :=
    click_joins_heard hlines hrow plain_shipped (by decide)
  obtain rfl := List.mem_singleton.mp hheard
  exact ⟨_, List.mem_singleton_self _, hopen (by decide), words, s, hwords,
    hparse⟩

end EzspSpi
