import EzspSpi.Board.Settings
import Mathlib.Tactic.IntervalCases

/-!
# Texts of the control interface

What `snprintf` makes of the formats that occur, the names of codes, and the
reply buffer that text is appended to.
-/

namespace EzspSpi

/-- `%u`. -/
def unsignedText (n : ℕ) : List Byte :=
  (Nat.toDigits 10 n).map fun c => BitVec.ofNat 8 c.toNat

/-- `%d` and `%ld`. -/
def signedText (n : Int) : List Byte :=
  if n < 0 then 0x2D :: unsignedText n.natAbs else unsignedText n.natAbs

/-- A digit of `%X`. -/
def hexDigit (n : ℕ) : Byte :=
  if n < 10 then BitVec.ofNat 8 (0x30 + n) else BitVec.ofNat 8 (0x37 + n)

/-- `%02X`. -/
def hexByte (b : Byte) : List Byte :=
  [hexDigit (b.toNat / 16), hexDigit (b.toNat % 16)]

/-- `%04X` of two bytes, the low one first. -/
def hexWord (low high : Byte) : List Byte := hexByte high ++ hexByte low

/-- `snprintf(buf, max, ..)` with a text. -/
def snprintf (max : ℕ) (text : List Byte) : List Byte := text.take (max - 1)

/-- Bytes as `%02X`, each with the colon or the end of the line after it. -/
def colonHex : List Byte → List (List Byte)
  | [] => []
  | [b] => [hexByte b ++ ascii "\n"]
  | b :: bytes => (hexByte b ++ ascii ":") :: colonHex bytes

/-- A buffer with the text written so far, and `at`. -/
structure Reply where
  text : List Byte
  at' : ℕ
  deriving DecidableEq, Repr

def Reply.empty : Reply := ⟨[], 0⟩

/-- `at += snprintf(buf + at, max - at, ..)`.  Past the end of the buffer the
size wraps around, and there is no telling what is written. -/
def Reply.print (max : ℕ) (reply : Reply) (text : List Byte) : Reply where
  text :=
    if reply.at' < max then
      reply.text.take reply.at' ++ text.take (max - reply.at' - 1)
    else reply.text
  at' := reply.at' + text.length

/-! ## Lengths -/

theorem length_unsignedText {n digits : ℕ} (hdigits : 0 < digits)
    (hn : n < 10 ^ digits) : (unsignedText n).length ≤ digits := by
  rw [unsignedText, List.length_map]
  exact (Nat.length_toDigits_le_iff (by decide) hdigits).mpr hn

theorem length_unsignedText_byte (b : Byte) :
    (unsignedText b.toNat).length ≤ 3 := by
  have hb : b.toNat < 256 := b.isLt
  exact length_unsignedText (by decide) (by omega)

theorem length_signedText {n : Int} {digits : ℕ} (hdigits : 0 < digits)
    (hn : n.natAbs < 10 ^ digits) : (signedText n).length ≤ digits + 1 := by
  have hlength := length_unsignedText hdigits hn
  rw [signedText]
  split
  · rw [List.length_cons]
    omega
  · rename_i hpos
    have habs : n.natAbs = n.toNat := by omega
    omega

@[simp]
theorem length_hexByte (b : Byte) : (hexByte b).length = 2 := rfl

@[simp]
theorem length_hexWord (low high : Byte) :
    (hexWord low high).length = 4 := rfl

/-- Each byte takes three characters. -/
theorem length_colonHex (bytes : List Byte) :
    (colonHex bytes).flatten.length = 3 * bytes.length := by
  induction bytes with
  | nil => rfl
  | cons b bytes ih =>
      cases bytes with
      | nil => rfl
      | cons b' bytes =>
          have hcons : colonHex (b :: b' :: bytes) =
              (hexByte b ++ ascii ":") :: colonHex (b' :: bytes) := rfl
          have hfirst : (hexByte b ++ ascii ":").length = 3 := rfl
          rw [hcons, List.flatten_cons, List.length_append, ih, hfirst]
          simp only [List.length_cons]
          omega

/-! ## Numbers read back -/

theorem unsignedText_of_lt {n : ℕ} (hn : n < 10) :
    unsignedText n = [BitVec.ofNat 8 n.digitChar.toNat] := by
  rw [unsignedText, Nat.toDigits_of_lt_base hn]
  rfl

theorem unsignedText_append {n d : ℕ} (hn : 0 < n) (hd : d < 10) :
    unsignedText (10 * n + d) = unsignedText n ++ unsignedText d := by
  rw [unsignedText, ← Nat.toDigits_append_toDigits (by decide) hn hd,
    List.map_append]
  rfl

private theorem digitValue_digitChar {d : ℕ} (hd : d < 10) :
    digitValue (BitVec.ofNat 8 d.digitChar.toNat) = some d := by
  interval_cases d <;> rfl

private theorem go_digit (acc : ℕ) {d : ℕ} (hd : d < 10) (rest : List Byte) :
    number.go 10 acc (unsignedText d ++ rest) =
      number.go 10 (acc * 10 + d) rest := by
  rw [unsignedText_of_lt hd, List.singleton_append, number.go,
    digitValue_digitChar hd]
  exact if_pos hd

private theorem go_unsignedText (n : ℕ) (rest : List Byte) :
    number.go 10 0 (unsignedText n ++ rest) = number.go 10 n rest := by
  induction n using Nat.base_induction 10 (by decide) generalizing rest with
  | single d hd => rw [go_digit 0 hd, Nat.zero_mul, Nat.zero_add]
  | digit n d hd hn ih =>
      rw [unsignedText_append hn hd, List.append_assoc, ih, go_digit n hd,
        Nat.mul_comm]

/-- A number is read up to what follows it. -/
theorem number_unsignedText (n : ℕ) {rest : List Byte}
    (hrest : ∀ c ∈ rest.head?, digitValue c = none) :
    number 10 (unsignedText n ++ rest) = n := by
  rw [number, go_unsignedText]
  cases rest with
  | nil => rfl
  | cons c rest => rw [number.go, hrest c rfl]

/-- It starts with a digit. -/
theorem unsignedText_cons (n : ℕ) : ∃ d < 10, ∃ rest,
    unsignedText n = BitVec.ofNat 8 d.digitChar.toNat :: rest := by
  induction n using Nat.base_induction 10 (by decide) with
  | single d hd => exact ⟨d, hd, [], unsignedText_of_lt hd⟩
  | digit n d hd hn ih =>
      obtain ⟨d', hd', rest, hn'⟩ := ih
      rw [unsignedText_append hn hd, hn']
      exact ⟨d', hd', rest ++ unsignedText d, rfl⟩

/-- What is true of every digit is true of every character of a number. -/
theorem forall_mem_unsignedText {P : Byte → Prop}
    (hdigit : ∀ d < 10, P (BitVec.ofNat 8 d.digitChar.toNat)) (n : ℕ) :
    ∀ c ∈ unsignedText n, P c := by
  induction n using Nat.base_induction 10 (by decide) with
  | single d hd =>
      rw [unsignedText_of_lt hd]
      exact List.forall_mem_singleton.mpr (hdigit d hd)
  | digit n d hd hn ih =>
      rw [unsignedText_append hn hd, unsignedText_of_lt hd]
      exact List.forall_mem_append.mpr
        ⟨ih, List.forall_mem_singleton.mpr (hdigit d hd)⟩

theorem forall_mem_signedText {P : Byte → Prop} (hsign : P 0x2D)
    (hdigit : ∀ d < 10, P (BitVec.ofNat 8 d.digitChar.toNat)) (n : Int) :
    ∀ c ∈ signedText n, P c := by
  have hdigits := forall_mem_unsignedText hdigit n.natAbs
  rw [signedText]
  split
  · exact List.forall_mem_cons.mpr ⟨hsign, hdigits⟩
  · exact hdigits

theorem forall_mem_hexByte {P : Byte → Prop}
    (hdigit : ∀ n < 16, P (hexDigit n)) (b : Byte) :
    ∀ c ∈ hexByte b, P c := by
  have hb : b.toNat < 256 := b.isLt
  rw [hexByte, List.forall_mem_cons, List.forall_mem_singleton]
  exact ⟨hdigit _ (by omega), hdigit _ (by omega)⟩

/-- The sign is read, and what follows it is left. -/
theorem signed_signedText (n : Int) (rest : List Byte) :
    signed (signedText n ++ rest) =
      (decide (n < 0), unsignedText n.natAbs ++ rest) := by
  rw [signedText]
  by_cases hneg : n < 0
  · rw [if_pos hneg, decide_eq_true hneg]
    rfl
  · rw [if_neg hneg, decide_eq_false hneg]
    obtain ⟨d, hd, tail, htail⟩ := unsignedText_cons n.natAbs
    rw [htail]
    interval_cases d <;> rfl

/-- `strtol` reads back what `%d` wrote. -/
theorem strtolDecimal_signedText (n : BitVec 32) {rest : List Byte}
    (hrest : ∀ c ∈ rest.head?, digitValue c = none) :
    strtolDecimal (signedText n.toInt ++ rest) = n := by
  have hlow : -2 ^ 31 ≤ n.toInt := BitVec.le_toInt n
  have hhigh : n.toInt < 2 ^ 31 := BitVec.toInt_lt
  rw [strtolDecimal, signed_signedText]
  dsimp only
  rw [number_unsignedText _ hrest]
  by_cases hneg : n.toInt < 0
  · have hmin : min n.toInt.natAbs (2 ^ 31) = n.toInt.natAbs := by omega
    have hneg' : -(n.toInt.natAbs : Int) = n.toInt := by omega
    rw [decide_eq_true hneg, if_pos rfl, hmin, ← BitVec.ofInt_natCast,
      ← BitVec.ofInt_neg, hneg', BitVec.ofInt_toInt]
  · have hmin : min n.toInt.natAbs (2 ^ 31 - 1) = n.toInt.natAbs := by omega
    have hpos : (n.toInt.natAbs : Int) = n.toInt := by omega
    rw [decide_eq_false hneg, if_neg Bool.false_ne_true, hmin,
      ← BitVec.ofInt_natCast, hpos, BitVec.ofInt_toInt]

/-- `strtoul` reads back what `%u` wrote. -/
theorem strtoulDecimal_unsignedText (n : BitVec 32) {rest : List Byte}
    (hrest : ∀ c ∈ rest.head?, digitValue c = none) :
    strtoulDecimal (unsignedText n.toNat ++ rest) = n := by
  have hsigned := signed_signedText n.toNat rest
  have hpos : ¬(n.toNat : Int) < 0 := by omega
  have hlt : ¬n.toNat ≥ 2 ^ 32 := not_le.mpr n.isLt
  rw [signedText, if_neg hpos, Int.natAbs_natCast] at hsigned
  rw [strtoulDecimal, hsigned, decide_eq_false hpos]
  dsimp only
  rw [number_unsignedText _ hrest, unsignedLong, if_neg hlt,
    if_neg Bool.false_ne_true, BitVec.ofNat_toNat, BitVec.setWidth_eq]

theorem unsignedText_injective : Function.Injective unsignedText := by
  intro n n' htext
  have hread (k : ℕ) : number 10 (unsignedText k ++ []) = k :=
    number_unsignedText k (fun _ h => absurd h (Option.not_mem_none _))
  rw [← hread n, htext, hread]

theorem signedText_injective : Function.Injective signedText := by
  intro n n' htext
  have hread := signed_signedText n []
  rw [htext, signed_signedText, List.append_nil, List.append_nil] at hread
  obtain ⟨hsign, habs⟩ := Prod.mk.inj hread
  have habs' := unsignedText_injective habs
  have hsign' := decide_eq_decide.mp hsign
  omega

/-! ## Names -/

def emberStatusName (s : Byte) : String :=
  if s = 0x00 then "success"
  else if s = 0x90 then "network up"
  else if s = 0x91 then "network down"
  else if s = 0x93 then "not joined"
  else if s = 0x94 then "join failed"
  else if s = 0x96 then "move failed"
  else if s = 0x98 then "cannot join as router"
  else if s = 0x99 then "node id changed"
  else if s = 0x9A then "pan id changed"
  else if s = 0xAB then "no beacons heard"
  else if s = 0xAC then "received key in the clear"
  else if s = 0xAD then "no network key received"
  else if s = 0xAE then "no link key received"
  else if s = 0xAF then "preconfigured key required"
  else "see EmberStatus"

def networkStateName (s : Byte) : String :=
  if s = 0x00 then "no network"
  else if s = 0x01 then "joining"
  else if s = 0x02 then "joined"
  else if s = 0x03 then "joined, no parent"
  else if s = 0x04 then "leaving"
  else "unknown"

def nodeTypeName (t : Byte) : String :=
  if t = 0x00 then "unknown"
  else if t = 0x01 then "coordinator"
  else if t = 0x02 then "router"
  else if t = 0x03 then "end device"
  else if t = 0x04 then "sleepy end device"
  else "unrecognised"

end EzspSpi
