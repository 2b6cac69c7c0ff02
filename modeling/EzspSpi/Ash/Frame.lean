import EzspSpi.Core.ByteStuffing
import EzspSpi.Host.Kernel

/-!
# ASH frames on the wire

The frame check, the payload mask and the byte encoding of `bridge.c`.
-/

namespace EzspSpi

open Program

/-- One step of the mask generator: the register shifted right, with the taps
`0xB8` on an outgoing one. -/
def ashRandStep (r : Byte) : Byte :=
  if r &&& 1 ≠ 0 then (r >>> 1) ^^^ 0xB8 else r >>> 1

/-- The table `ash_rand` as `ash_rand_init` fills it. -/
def ashRand : List Byte := List.iterate ashRandStep 0x42 256

/-- A DATA payload XORed with the table, which masks and unmasks it. -/
def ashMask (payload : List Byte) : List Byte :=
  payload.mapIdx fun i c => c ^^^ ashRand.getD i 0

/-- One bit of the CRC register. -/
def ashCrcShift (crc : BitVec 16) : BitVec 16 :=
  if crc &&& 0x8000 ≠ 0 then (crc <<< 1) ^^^ 0x1021 else crc <<< 1

def ashCrcByte (crc : BitVec 16) (c : Byte) : BitVec 16 :=
  ashCrcShift^[8] (crc ^^^ (c.setWidth 16 <<< 8))

/-- CRC-16/CCITT-FALSE. -/
def ashCrc (d : List Byte) : BitVec 16 := d.foldl ashCrcByte 0xFFFF

/-- The two CRC bytes of a frame, high byte first. -/
def ashTail (frame : List Byte) : List Byte :=
  [(ashCrc frame >>> 8).setWidth 8, (ashCrc frame &&& 0xFF).setWidth 8]

/-- The bytes that are escaped on the wire. -/
def ashReserved (c : Byte) : Bool :=
  c = ashFlag ∨ c = ashEsc ∨ c = ashXon ∨ c = ashXoff ∨ c = ashSub ∨
    c = ashCancel

/-- Flow control, which a receiver drops wherever it stands. -/
def ashFlow (c : Byte) : Bool := c = ashXon ∨ c = ashXoff

/-- What `ash_send` writes for a frame. -/
def ashEncode (frame : List Byte) : List Byte :=
  (frame ++ ashTail frame).flatMap
    (fun c => if ashReserved c then [ashEsc, c ^^^ 0x20] else [c]) ++ [ashFlag]

/-! ## Masking -/

@[simp]
theorem length_ashMask (payload : List Byte) :
    (ashMask payload).length = payload.length := by
  simp [ashMask]

@[simp]
theorem ashMask_ashMask (payload : List Byte) :
    ashMask (ashMask payload) = payload := by
  apply List.ext_getElem
  · rw [length_ashMask, length_ashMask]
  · intro i _ _
    simp only [ashMask, List.getElem_mapIdx, BitVec.xor_assoc,
      BitVec.xor_self, BitVec.xor_zero]

/-! ## Escaping -/

/-- ASH stuffing: `0x7D` escapes, and an operand is sent with bit 5
flipped. -/
def ashScheme : ByteStuffing.Scheme Byte where
  esc := ashEsc
  flip c := c ^^^ 0x20
  reserved := ashReserved
  flip_flip c := by
    rw [BitVec.xor_assoc, BitVec.xor_self, BitVec.xor_zero]
  reserved_esc := by decide
  flip_free := by decide

theorem ashEncode_eq_stuff (frame : List Byte) :
    ashEncode frame =
      ByteStuffing.stuff ashScheme (frame ++ ashTail frame) ++ [ashFlag] := rfl

/-- Before its last byte an encoding has no reserved byte other than the
escape. -/
theorem ashReserved_of_mem_stuff {text : List Byte} {c : Byte}
    (hc : c ∈ ByteStuffing.stuff ashScheme text) :
    c = ashEsc ∨ ashReserved c = false := by
  by_cases hesc : c = ashEsc
  · exact Or.inl hesc
  · exact Or.inr (ByteStuffing.reserved_of_mem_stuff ashScheme hc hesc)

private theorem not_delimiter_of_not_reserved :
    ∀ c : Byte, ashReserved c = false →
      c ≠ ashFlag ∧ c ≠ ashCancel ∧ c ≠ ashSub ∧ ashFlow c = false := by
  decide

/-- A stuffed text has none of the bytes that end or void a frame. -/
theorem not_delimiter_of_mem_stuff {text : List Byte} {c : Byte}
    (hc : c ∈ ByteStuffing.stuff ashScheme text) :
    c ≠ ashFlag ∧ c ≠ ashCancel ∧ c ≠ ashSub ∧ ashFlow c = false := by
  rcases ashReserved_of_mem_stuff hc with rfl | hfree
  · decide
  · exact not_delimiter_of_not_reserved c hfree

theorem ashEncode_injective : Function.Injective ashEncode := by
  intro frame frame' heq
  rw [ashEncode_eq_stuff, ashEncode_eq_stuff] at heq
  have htext : frame ++ ashTail frame = frame' ++ ashTail frame' :=
    ByteStuffing.stuff_injective ashScheme (List.append_cancel_right heq)
  have htails : (ashTail frame).length = (ashTail frame').length := rfl
  exact (List.append_inj' htext htails).1

end EzspSpi
