import EzspSpi.Ash.Grammar
import EzspSpi.Core.ShiftRegister

/-!
# What the frame check catches

`ash_crc` is a shift register, fed the bits of a frame with the highest bit of
each byte first.  A frame that passes the check leaves it empty, so a frame
with a burst of up to 16 bits in it does not pass.
-/

namespace EzspSpi

open Program ShiftRegister

variable {σ : Type} [Kernel σ] (g : Globals)

/-- The generator of the CRC without its highest term. -/
def ashCrcPoly : BitVec 16 := 0x1021

/-- The bits of some bytes in the order in which the CRC takes them. -/
def bitsOf (bytes : List Byte) : List Bool := bytes.flatMap highFirst

@[simp]
theorem bitsOf_cons (c : Byte) (bytes : List Byte) :
    bitsOf (c :: bytes) = highFirst c ++ bitsOf bytes := rfl

@[simp]
theorem bitsOf_append (bytes bytes' : List Byte) :
    bitsOf (bytes ++ bytes') = bitsOf bytes ++ bitsOf bytes' :=
  List.flatMap_append

theorem length_bitsOf (bytes : List Byte) :
    (bitsOf bytes).length = 8 * bytes.length := by
  induction bytes with
  | nil => rfl
  | cons c bytes ih =>
      rw [bitsOf_cons, List.length_append, length_highFirst, ih,
        List.length_cons]
      omega

theorem bitsOf_injective : Function.Injective bitsOf := by
  intro bytes bytes' heq
  induction bytes generalizing bytes' with
  | nil =>
      have hlen := congrArg List.length heq
      rw [length_bitsOf, length_bitsOf, List.length_nil] at hlen
      exact (List.eq_nil_of_length_eq_zero (by omega)).symm
  | cons c bytes ih =>
      cases bytes' with
      | nil =>
          have hlen := congrArg List.length heq
          rw [length_bitsOf, length_bitsOf, List.length_cons,
            List.length_nil] at hlen
          omega
      | cons c' bytes' =>
          have hlen : (highFirst c).length = (highFirst c').length := by simp
          obtain ⟨hhead, htail⟩ := List.append_inj heq hlen
          rw [highFirst_injective hhead, ih htail]

/-! ## The CRC is a shift register -/

theorem ashCrcShift_eq (crc : BitVec 16) :
    ashCrcShift crc = feed ashCrcPoly crc false := by
  have htop : (crc &&& 0x8000 ≠ 0) ↔ crc.msb = true := by
    have hbit : (0x8000 : BitVec 16) = BitVec.twoPow 16 15 := by decide
    rw [hbit, BitVec.and_twoPow, BitVec.msb_eq_getLsbD_last]
    cases crc.getLsbD 15 <;> decide
  simp only [ashCrcShift, feed, reduction, Bool.xor_false, htop]
  split
  · rfl
  · exact (BitVec.xor_zero).symm

private theorem run_byte_alone : ∀ c : Byte,
    run ashCrcPoly (c.setWidth 16 <<< 8) (List.replicate 8 false) =
      run ashCrcPoly 0 (highFirst c) := by
  decide +kernel

theorem ashCrcByte_eq (crc : BitVec 16) (c : Byte) :
    ashCrcByte crc c = run ashCrcPoly crc (highFirst c) := by
  have hshifts (r : BitVec 16) :
      ashCrcShift^[8] r = run ashCrcPoly r (List.replicate 8 false) := by
    rw [funext ashCrcShift_eq]
    rfl
  have hzeros : List.zipWith xor (List.replicate 8 false)
      (List.replicate 8 false) = List.replicate 8 false := rfl
  have hbits : List.zipWith xor (List.replicate 8 false) (highFirst c) =
      highFirst c := by
    simp [highFirst, List.range_succ]
  have hlen : (List.replicate 8 false).length = (highFirst c).length := by simp
  have hcrc : crc ^^^ 0 = crc := BitVec.xor_zero
  rw [ashCrcByte, hshifts, ← hzeros, run_xor _ _ _ rfl, run_byte_alone,
    ← run_xor _ _ _ hlen, hcrc, hbits]

theorem ashCrc_eq (d : List Byte) :
    ashCrc d = run ashCrcPoly 0xFFFF (bitsOf d) := by
  rw [ashCrc]
  generalize (0xFFFF : BitVec 16) = crc
  induction d generalizing crc with
  | nil => rfl
  | cons c d ih =>
      rw [List.foldl_cons, ih, ashCrcByte_eq, bitsOf_cons, run_append]

/-- The bytes that follow a frame carry the register it leaves. -/
theorem bitsOf_ashTail (f : List Byte) :
    bitsOf (ashTail f) = highFirst (ashCrc f) := by
  generalize hcrc : ashCrc f = crc
  simp only [ashTail, hcrc]
  simp [bitsOf, highFirst, List.range_succ]

/-- A run of bytes passes the check exactly if it leaves the register
empty. -/
theorem ashChecked_iff_ashCrc {rx : List Byte} (hlen : 3 ≤ rx.length) :
    ashChecked rx = true ↔ ashCrc rx = 0 := by
  have hsplit : bitsOf rx = bitsOf (rx.take (rx.length - 2)) ++
      bitsOf (rx.drop (rx.length - 2)) := by
    rw [← bitsOf_append, List.take_append_drop]
  have hsixteen : (bitsOf (rx.drop (rx.length - 2))).length = 16 := by
    rw [length_bitsOf, List.length_drop]
    omega
  have hconstant : ashCrcPoly.getLsbD 0 = true := by decide
  rw [ashChecked_iff hlen, ashCrc_eq rx, hsplit, run_append, ← ashCrc_eq,
    run_eq_zero_iff hconstant hsixteen, ← bitsOf_ashTail]
  exact bitsOf_injective.eq_iff.symm

/-- The frame check catches every short burst.  If a FLAG after the run `w`
hands on a frame, it hands on none after a run of the same length that differs
from `w` only within some 16 consecutive bits, wherever these are, and the CRC
of `w` with its last two bytes is zero. -/
theorem bridgeFeed_catches_bursts (b b' : Bridge) (s s' : σ)
    (haccepted : handed (bridgeFeed g b [ashFlag] s).trace ≠ [])
    (hlen : b'.rx.length = b.rx.length) (hne : b'.rx ≠ b.rx) (start : ℕ)
    (hwithin : DifferWithin start 16 (bitsOf b.rx) (bitsOf b'.rx)) :
    handed (bridgeFeed g b' [ashFlag] s').trace = [] ∧ ashCrc b.rx = 0 := by
  have hflag (b : Bridge) (s : σ) :
      handed (bridgeFeed g b [ashFlag] s).trace =
        (checkedFrame b.rx).toList := by
    have hfeed : (bridgeFeed g b [ashFlag] : Host σ Bridge) =
        bridgeFlag g b := bind_pure (bridgeFlag g b)
    rw [hfeed, handed_bridgeFlag]
  rw [hflag, checkedFrame_eq] at haccepted
  have hpassed : 3 ≤ b.rx.length ∧ ashChecked b.rx = true := by
    by_contra hnot
    rw [if_neg hnot] at haccepted
    exact haccepted rfl
  have hzero := (ashChecked_iff_ashCrc hpassed.1).mp hpassed.2
  refine ⟨?_, hzero⟩
  have hconstant : ashCrcPoly.getLsbD 0 = true := by decide
  have hbits : (bitsOf b.rx).length = (bitsOf b'.rx).length := by
    rw [length_bitsOf, length_bitsOf, hlen]
  have hother := run_ne_of_differWithin hconstant hbits
    (fun heq => hne (bitsOf_injective heq).symm) hwithin 0xFFFF
  rw [← ashCrc_eq, ← ashCrc_eq, hzero] at hother
  rw [hflag, checkedFrame_eq, if_neg]
  · rfl
  · rintro ⟨hlong, hchecked⟩
    exact hother ((ashChecked_iff_ashCrc hlong).mp hchecked).symm

/-- A burst of 16 bits that begins in the last byte of a frame and ends in the
last byte of its CRC. -/
theorem bridgeFeed_catches_bursts_straddling :
    handed (bridgeFeed ⟨⟨512, true⟩, true⟩
      { bridgeInit ⟨3, 4, 5, 7, 6⟩ 8 with
        rx := [0x25, 0x7E, 0x1A, 0x3C, 0x2C] } [ashFlag]
      (⟨[], [], [], []⟩ : Playback)).trace = [] ∧
    ashCrc [0x25, 0x7E, 0x11, 0x88, 0xEC] = 0 := by
  have hwithin : DifferWithin 20 16 (bitsOf [0x25, 0x7E, 0x11, 0x88, 0xEC])
      (bitsOf [0x25, 0x7E, 0x1A, 0x3C, 0x2C]) := by
    have hfirst : ∀ i < 40, i < 20 ∨ 20 + 16 ≤ i →
        (bitsOf [0x25, 0x7E, 0x11, 0x88, 0xEC])[i]? =
          (bitsOf [0x25, 0x7E, 0x1A, 0x3C, 0x2C])[i]? := by
      decide +kernel
    intro i hi
    by_cases hin : i < 40
    · exact hfirst i hin hi
    · rw [List.getElem?_eq_none (not_lt.mp hin),
        List.getElem?_eq_none (not_lt.mp hin)]
  exact bridgeFeed_catches_bursts ⟨⟨512, true⟩, true⟩
    { bridgeInit ⟨3, 4, 5, 7, 6⟩ 8 with rx := [0x25, 0x7E, 0x11, 0x88, 0xEC] }
    { bridgeInit ⟨3, 4, 5, 7, 6⟩ 8 with rx := [0x25, 0x7E, 0x1A, 0x3C, 0x2C] }
    (⟨[], [], [], []⟩ : Playback) (⟨[], [], [], []⟩ : Playback)
    (by decide +kernel) rfl (by decide) 20 hwithin

end EzspSpi
