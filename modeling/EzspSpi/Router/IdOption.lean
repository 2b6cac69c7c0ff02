import EzspSpi.Router.Text
import Mathlib.Data.List.TakeWhile

/-!
# The extended pan id on the command line

`parse_ext_pan_id` reads eight bytes in either of the two forms that people have
at hand.  It stops behind the eighth, whatever follows, so that a list of up to
eight bytes is taken exactly if it has eight, and a longer one is cut.
-/

namespace EzspSpi

/-! ## `strtoul` with the end -/

def isDigitOf (base : ℕ) (c : Byte) : Bool := (digitValue c).any (· < base)

/-- The `0x` that may stand in front of a number to base 16. -/
def skipRadix (s : List Byte) : List Byte :=
  match s with
  | 0x30 :: x :: c :: s' =>
      if (x = 0x78 ∨ x = 0x58) ∧ isDigitOf 16 c then c :: s' else s
  | _ => s

/-- `strtoul(s, &end, base)` for the bases 10 and 16: the value, and what starts
at `end`. -/
def strtoulEnd (base : ℕ) (s : List Byte) : BitVec 32 × List Byte :=
  let (minus, digits) := signed s
  let digits := if base = 16 then skipRadix digits else digits
  if digits.head?.any (isDigitOf base) then
    (unsignedLong minus (number base digits), digits.dropWhile (isDigitOf base))
  else (0, s)

/-! ## `parse_ext_pan_id` -/

/-- What is skipped in front of a number. -/
def isIdSeparator (c : Byte) : Bool :=
  c = 0x20 || c = 0x5B || c = 0x2C || c = 0x3A

/-- The loop, with the bytes stored so far and the number of those that there
is still room for. -/
def extPanIdLoop (base : ℕ) : (left : ℕ) → (q ids : List Byte) →
    Except (List Byte) (List Byte)
  | 0, _, ids => .ok ids
  | left + 1, q, ids =>
      if q = [] then .ok ids
      else
        let q := q.dropWhile isIdSeparator
        if q = [] then .ok ids
        else
          let (v, stop) := strtoulEnd base q
          if stop = q then .ok ids
          else if v > 0xFF then
            .error (ascii "--ext-pan-id byte " ++ unsignedText v.toNat ++
              ascii " out of range")
          else extPanIdLoop base left stop (ids ++ [v.setWidth 8])

/-- `parse_ext_pan_id`: what `cfg.ext_pan_id` becomes, or the message it dies
with. -/
def parseExtPanId (s : List Byte) : Except (List Byte) (List Byte) := do
  let base := if 0x3A ∈ s then 16 else 10
  let ids ← extPanIdLoop base 8 s []
  if ids.length ≠ 8 then
    .error (ascii "--ext-pan-id needs 8 bytes, parsed " ++
      unsignedText ids.length)
  else .ok ids

/-! ## Lists of bytes as they are written -/

/-- The byte as a number to this base. -/
structure Numeral (base : ℕ) (b : Byte) (word : List Byte) : Prop where
  ne_nil : word ≠ []
  digits : ∀ c ∈ word, isDigitOf base c = true
  value : number base word = b.toNat

/-- The bytes as numbers with one of these gaps between them. -/
inductive Listed (IsNumeral : Byte → List Byte → Prop)
    (Gap : List Byte → Prop) : List Byte → List Byte → Prop where
  | nil : Listed IsNumeral Gap [] []
  | single {b : Byte} {word : List Byte} (hword : IsNumeral b word) :
      Listed IsNumeral Gap [b] word
  | cons {b b' : Byte} {bs word gap text : List Byte}
      (hword : IsNumeral b word) (hgap : Gap gap)
      (htext : Listed IsNumeral Gap (b' :: bs) text) :
      Listed IsNumeral Gap (b :: b' :: bs) (word ++ gap ++ text)

/-- Two digits to base 16. -/
def HexPair (b : Byte) (word : List Byte) : Prop :=
  Numeral 16 b word ∧ word.length = 2

/-- A comma, and any number of spaces. -/
def CommaGap (gap : List Byte) : Prop :=
  ∃ spaces, gap = 0x2C :: List.replicate spaces 0x20

/-- Either of the two forms: at least two bytes to base 16 with colons, or any
number of them to base 10 with commas, after an opening bracket or none. -/
inductive WrittenId : List Byte → List Byte → Prop where
  | hex {bs text : List Byte} (hlength : 2 ≤ bs.length)
      (htext : Listed HexPair (· = [0x3A]) bs text) : WrittenId bs text
  | decimal {bs text : List Byte}
      (htext : Listed (Numeral 10) CommaGap bs text) : WrittenId bs text
  | bracketed {bs text : List Byte}
      (htext : Listed (Numeral 10) CommaGap bs text) :
      WrittenId bs (0x5B :: text)

/-! ## One number -/

private theorem number_go_append {base : ℕ} {word rest : List Byte}
    (hword : ∀ c ∈ word, isDigitOf base c = true)
    (hrest : ∀ c ∈ rest.head?, isDigitOf base c = false) (acc : ℕ) :
    number.go base acc (word ++ rest) = number.go base acc word := by
  induction word generalizing acc with
  | nil =>
      cases rest with
      | nil => rfl
      | cons c rest =>
          have hc := hrest c rfl
          rw [isDigitOf] at hc
          rw [List.nil_append, number.go, number.go]
          cases hvalue : digitValue c with
          | none => rfl
          | some d =>
              rw [hvalue] at hc
              exact if_neg (of_decide_eq_false hc)
  | cons c word ih =>
      have hc := hword c List.mem_cons_self
      have hlater := ih fun c' h => hword c' (List.mem_cons_of_mem c h)
      rw [isDigitOf] at hc
      rw [List.cons_append, number.go, number.go]
      cases hvalue : digitValue c with
      | none => rfl
      | some d =>
          rw [hvalue] at hc
          have hd : d < base := of_decide_eq_true hc
          dsimp only
          rw [if_pos hd, if_pos hd, hlater]

private theorem not_sign_of_digit {c : Byte}
    (hc : (digitValue c).isSome = true) :
    isSpace c = false ∧ c ≠ 0x2D ∧ c ≠ 0x2B := by
  revert c
  decide

/-- A digit in front: there is neither space nor sign. -/
private theorem signed_of_digit {c : Byte} (hc : (digitValue c).isSome = true)
    (rest : List Byte) : signed (c :: rest) = (false, c :: rest) := by
  obtain ⟨hspace, hminus, hplus⟩ := not_sign_of_digit hc
  rw [signed, List.dropWhile_cons_of_neg (by rw [hspace]; decide)]
  split
  · rename_i heq
    exact absurd (List.cons.inj heq).1 hminus
  · rename_i heq
    exact absurd (List.cons.inj heq).1 hplus
  · rfl

private theorem skipRadix_of_ne {c c' : Byte} (rest : List Byte)
    (hc' : c' ≠ 0x78 ∧ c' ≠ 0x58) :
    skipRadix (c :: c' :: rest) = c :: c' :: rest := by
  unfold skipRadix
  split
  · rename_i heq
    obtain ⟨_, htail⟩ := List.cons.inj heq
    obtain ⟨rfl, rfl⟩ := List.cons.inj htail
    exact if_neg fun h => h.1.elim hc'.1 hc'.2
  · rfl

/-- The letter of a radix is no digit, and does not follow a number. -/
private theorem skipRadix_eq {c : Byte} {tail rest : List Byte}
    (hdigits : ∀ c' ∈ c :: tail, isDigitOf 16 c' = true)
    (hrest : ∀ c' ∈ rest.head?, digitValue c' = none) :
    skipRadix (c :: tail ++ rest) = c :: tail ++ rest := by
  cases tail with
  | nil =>
      cases rest with
      | nil =>
          unfold skipRadix
          split
          · rename_i heq
            cases (List.cons.inj heq).2
          · rfl
      | cons c' rest =>
          have hc' := hrest c' rfl
          refine skipRadix_of_ne rest ⟨?_, ?_⟩
          · rintro rfl
            cases hc'
          · rintro rfl
            cases hc'
  | cons c' tail =>
      have hc' := hdigits c' (List.mem_cons_of_mem c List.mem_cons_self)
      refine skipRadix_of_ne (tail ++ rest) ⟨?_, ?_⟩
      · rintro rfl
        cases hc'
      · rintro rfl
        cases hc'

/-- A number is read up to what follows it, if that cannot go on with it. -/
theorem strtoulEnd_numeral {base : ℕ} {b : Byte} {word rest : List Byte}
    (hbase : base = 10 ∨ base = 16) (hword : Numeral base b word)
    (hrest : ∀ c ∈ rest.head?, digitValue c = none) :
    strtoulEnd base (word ++ rest) = (b.setWidth 32, rest) := by
  have hstop : ∀ c ∈ rest.head?, isDigitOf base c = false := fun c hc => by
    rw [isDigitOf, hrest c hc]
    rfl
  obtain ⟨c, tail, rfl⟩ := List.exists_cons_of_ne_nil hword.ne_nil
  have hc := hword.digits c List.mem_cons_self
  have hsome : (digitValue c).isSome = true := by
    rw [isDigitOf] at hc
    cases hvalue : digitValue c with
    | none =>
        rw [hvalue] at hc
        cases hc
    | some d => rfl
  have hradix : (if base = 16 then skipRadix (c :: tail ++ rest)
      else c :: tail ++ rest) = c :: tail ++ rest := by
    split
    · rename_i hsixteen
      subst hsixteen
      exact skipRadix_eq hword.digits hrest
    · rfl
  have hfirst : (c :: tail ++ rest).head?.any (isDigitOf base) = true := hc
  have hnumber : number base (c :: tail ++ rest) = b.toNat := by
    rw [number, number_go_append hword.digits hstop]
    exact hword.value
  have hafter : (c :: tail ++ rest).dropWhile (isDigitOf base) = rest := by
    rw [List.dropWhile_append_of_pos hword.digits]
    cases rest with
    | nil => rfl
    | cons c' rest =>
        exact List.dropWhile_cons_of_neg (by rw [hstop c' rfl]; decide)
  have hbyte : unsignedLong false b.toNat = b.setWidth 32 := by
    have hb : b.toNat < 256 := b.isLt
    rw [unsignedLong, if_neg (by omega), if_neg Bool.false_ne_true]
    apply BitVec.eq_of_toNat_eq
    simp
  rw [strtoulEnd, List.cons_append, signed_of_digit hsome]
  dsimp only
  rw [← List.cons_append, hradix, if_pos hfirst, hnumber, hafter, hbyte]

/-! ## A whole list -/

private theorem separator_not_digit {c : Byte} (hc : isIdSeparator c = true) :
    digitValue c = none := by
  revert c
  decide

private theorem digit_not_separator {base : ℕ} {c : Byte}
    (hc : isDigitOf base c = true) : isIdSeparator c = false := by
  by_contra hsep
  rw [Bool.not_eq_false] at hsep
  rw [isDigitOf, separator_not_digit hsep] at hc
  cases hc

/-- One round of the loop, which leaves what follows the number. -/
theorem extPanIdLoop_numeral {base : ℕ} {b : Byte} {lead word rest : List Byte}
    (hbase : base = 10 ∨ base = 16)
    (hlead : ∀ c ∈ lead, isIdSeparator c = true) (hword : Numeral base b word)
    (hrest : ∀ c ∈ rest.head?, digitValue c = none) (left : ℕ)
    (ids : List Byte) :
    extPanIdLoop base (left + 1) (lead ++ (word ++ rest)) ids =
      extPanIdLoop base left rest (ids ++ [b]) := by
  have hread := strtoulEnd_numeral hbase hword hrest
  have hshorter : rest ≠ word ++ rest := by
    intro heq
    have hlength := congrArg List.length heq
    rw [List.length_append] at hlength
    exact hword.ne_nil (List.length_eq_zero_iff.mp (by omega))
  have hsome : word ++ rest ≠ [] :=
    List.append_ne_nil_of_left_ne_nil hword.ne_nil rest
  have hdrop : (lead ++ (word ++ rest)).dropWhile isIdSeparator =
      word ++ rest := by
    rw [List.dropWhile_append_of_pos hlead]
    obtain ⟨c, tail, rfl⟩ := List.exists_cons_of_ne_nil hword.ne_nil
    have hc := digit_not_separator (hword.digits c List.mem_cons_self)
    exact List.dropWhile_cons_of_neg (by rw [hc]; decide)
  have hbyte : ¬(b.setWidth 32 : BitVec 32) > 0xFF := by
    have hb : b.toNat < 256 := b.isLt
    rw [gt_iff_lt, BitVec.lt_def, BitVec.toNat_setWidth]
    simp
    omega
  have hstore : (b.setWidth 32).setWidth 8 = b := by
    apply BitVec.eq_of_toNat_eq
    simp
  rw [extPanIdLoop, if_neg (List.append_ne_nil_of_right_ne_nil lead hsome)]
  dsimp only
  rw [hdrop, if_neg hsome, hread]
  dsimp only
  rw [if_neg hshorter, if_neg hbyte, hstore]

/-- A form of lists that the loop reads. -/
structure Readable (base : ℕ) (IsNumeral : Byte → List Byte → Prop)
    (Gap : List Byte → Prop) : Prop where
  radix : base = 10 ∨ base = 16
  numeral : ∀ {b word}, IsNumeral b word → Numeral base b word
  gap : ∀ {gap}, Gap gap → gap ≠ [] ∧ ∀ c ∈ gap, isIdSeparator c = true

/-- The bytes are stored as far as there is room. -/
theorem extPanIdLoop_listed {base : ℕ}
    {IsNumeral : Byte → List Byte → Prop} {Gap : List Byte → Prop}
    (hform : Readable base IsNumeral Gap) {bs text : List Byte}
    (htext : Listed IsNumeral Gap bs text) (left : ℕ) {lead : List Byte}
    (hlead : ∀ c ∈ lead, isIdSeparator c = true) (ids : List Byte) :
    extPanIdLoop base left (lead ++ text) ids = .ok (ids ++ bs.take left) := by
  induction htext generalizing left lead ids with
  | nil =>
      cases left with
      | zero => rw [extPanIdLoop, List.take_zero, List.append_nil]
      | succ left =>
          have hnone : lead.dropWhile isIdSeparator = [] :=
            List.dropWhile_eq_nil_iff.mpr hlead
          rw [List.append_nil, extPanIdLoop, hnone, List.take_nil,
            List.append_nil, if_pos rfl, ite_self]
  | @single b word hword =>
      cases left with
      | zero => rw [extPanIdLoop, List.take_zero, List.append_nil]
      | succ left =>
          have hend : ∀ c ∈ ([] : List Byte).head?, digitValue c = none :=
            fun c hc => absurd hc (Option.not_mem_none c)
          have hround := extPanIdLoop_numeral hform.radix hlead
            (hform.numeral hword) hend left ids
          rw [List.append_nil] at hround
          rw [hround, List.take_succ_cons, List.take_nil]
          cases left <;> rfl
  | @cons b b' bs word gap text hword hgap htext ih =>
      cases left with
      | zero => rw [extPanIdLoop, List.take_zero, List.append_nil]
      | succ left =>
          obtain ⟨hne, hgap⟩ := hform.gap hgap
          obtain ⟨c, gap, rfl⟩ := List.exists_cons_of_ne_nil hne
          have hnext : ∀ c' ∈ (c :: gap ++ text).head?, digitValue c' = none := by
            rintro _ ⟨⟩
            exact separator_not_digit (hgap c List.mem_cons_self)
          rw [List.append_assoc, extPanIdLoop_numeral hform.radix hlead
            (hform.numeral hword) hnext, ih left hgap, List.take_succ_cons,
            List.append_assoc]
          rfl

/-! ## Which lists are accepted -/

theorem readable_hex : Readable 16 HexPair (· = [0x3A]) where
  radix := Or.inr rfl
  numeral hword := hword.1
  gap := by
    rintro _ rfl
    exact ⟨List.cons_ne_nil _ _, by decide⟩

theorem readable_decimal : Readable 10 (Numeral 10) CommaGap where
  radix := Or.inl rfl
  numeral hword := hword
  gap := by
    rintro _ ⟨spaces, rfl⟩
    refine ⟨List.cons_ne_nil _ _, ?_⟩
    rw [List.forall_mem_cons]
    refine ⟨rfl, fun c hc => ?_⟩
    rw [List.eq_of_mem_replicate hc]
    rfl

/-- A list with colons has one. -/
theorem Listed.colon_mem {bs text : List Byte} (hlength : 2 ≤ bs.length)
    (htext : Listed HexPair (· = [0x3A]) bs text) : 0x3A ∈ text := by
  cases htext with
  | nil => cases hlength
  | single hword => exact absurd hlength (by simp)
  | cons hword hgap htext =>
      subst hgap
      simp

/-- A list with commas has none. -/
theorem Listed.colon_not_mem {bs text : List Byte}
    (htext : Listed (Numeral 10) CommaGap bs text) : 0x3A ∉ text := by
  have hdigits {b : Byte} {word : List Byte} (hword : Numeral 10 b word) :
      0x3A ∉ word := fun hmem => by cases hword.digits _ hmem
  induction htext with
  | nil => exact List.not_mem_nil
  | single hword => exact hdigits hword
  | cons hword hgap htext ih =>
      obtain ⟨spaces, rfl⟩ := hgap
      have hspaces : 0x3A ∉ (0x2C : Byte) :: List.replicate spaces 0x20 := by
        rw [List.mem_cons, List.mem_replicate]
        rintro (h | ⟨_, h⟩)
        · cases h
        · cases h
      rw [List.mem_append, List.mem_append]
      rintro ((h | h) | h)
      · exact hdigits hword h
      · exact hspaces h
      · exact ih h

/-- What is read of a list in one of the forms: its first eight bytes. -/
theorem parseExtPanId_written {bs text : List Byte} (htext : WrittenId bs text) :
    parseExtPanId text =
      if (bs.take 8).length = 8 then .ok (bs.take 8)
      else .error (ascii "--ext-pan-id needs 8 bytes, parsed " ++
        unsignedText (bs.take 8).length) := by
  have hloop : extPanIdLoop (if 0x3A ∈ text then 16 else 10) 8 text [] =
      .ok (bs.take 8) := by
    have hnone : ∀ c ∈ ([] : List Byte), isIdSeparator c = true :=
      List.forall_mem_nil _
    cases htext with
    | hex hlength htext =>
        rw [if_pos (htext.colon_mem hlength)]
        exact extPanIdLoop_listed readable_hex htext 8 hnone []
    | decimal htext =>
        rw [if_neg htext.colon_not_mem]
        exact extPanIdLoop_listed readable_decimal htext 8 hnone []
    | @bracketed text htext =>
        have hbracket : ∀ c ∈ [(0x5B : Byte)], isIdSeparator c = true := by
          decide
        have hcolon : 0x3A ∉ (0x5B : Byte) :: text := by
          rw [List.mem_cons]
          rintro (h | h)
          · cases h
          · exact htext.colon_not_mem h
        rw [if_neg hcolon]
        exact extPanIdLoop_listed readable_decimal htext 8 hbracket []
  rw [parseExtPanId, hloop]
  change (if (bs.take 8).length ≠ 8 then _ else _) = _
  rw [ite_not]

/-- A list of bytes is accepted exactly if it has eight, and then as it is. -/
structure AcceptedAsEight (bs text : List Byte) : Prop where
  accepted : (∃ ids, parseExtPanId text = .ok ids) ↔ bs.length = 8
  stored : ∀ ids, parseExtPanId text = .ok ids → ids = bs

/-- The parser takes the lists of eight bytes and refuses the others, exactly as
far as they have no more than eight: in both forms, for all bytes.  Of a longer
list it takes the first eight. -/
theorem acceptedAsEight_iff {bs text : List Byte} (htext : WrittenId bs text) :
    AcceptedAsEight bs text ↔ bs.length ≤ 8 := by
  have hparse := parseExtPanId_written htext
  constructor
  · intro haccepted
    by_contra hlong
    have hfull : (bs.take 8).length = 8 := by
      rw [List.length_take]
      omega
    rw [if_pos hfull] at hparse
    have hlength := haccepted.accepted.mp ⟨_, hparse⟩
    omega
  · intro hshort
    rw [List.take_of_length_le hshort] at hparse
    by_cases hlength : bs.length = 8
    · rw [if_pos hlength] at hparse
      refine ⟨iff_of_true ⟨bs, hparse⟩ hlength, fun ids hids => ?_⟩
      exact Except.ok.inj (hids.symm.trans hparse)
    · rw [if_neg hlength] at hparse
      have hnone (ids : List Byte) : parseExtPanId text ≠ .ok ids := by
        rw [hparse]
        exact nofun
      exact ⟨iff_of_false (fun ⟨ids, hids⟩ => hnone ids hids) hlength,
        fun ids hids => absurd hids (hnone ids)⟩

/-! ## The form that is printed -/

theorem digitValue_hexDigit {n : ℕ} (hn : n < 16) :
    digitValue (hexDigit n) = some n := by
  interval_cases n <;> rfl

theorem hexPair_hexByte (b : Byte) : HexPair b (hexByte b) := by
  have hb : b.toNat < 256 := b.isLt
  have hhigh : digitValue (hexDigit (b.toNat / 16)) = some (b.toNat / 16) :=
    digitValue_hexDigit (by omega)
  have hlow : digitValue (hexDigit (b.toNat % 16)) = some (b.toNat % 16) :=
    digitValue_hexDigit (by omega)
  refine ⟨⟨List.cons_ne_nil _ _, ?_, ?_⟩, rfl⟩
  · rw [hexByte, List.forall_mem_cons, List.forall_mem_singleton, isDigitOf,
      isDigitOf, hhigh, hlow]
    exact ⟨decide_eq_true (by omega), decide_eq_true (by omega)⟩
  · rw [hexByte, number, number.go, hhigh]
    dsimp only
    rw [if_pos (by omega), number.go, hlow]
    dsimp only
    rw [if_pos (by omega), number.go]
    omega

/-- An extended pan id as it is printed, without the end of the line. -/
def colonText (bs : List Byte) : List Byte := (colonHex bs).flatten.dropLast

theorem colonHex_flatten_cons (b b' : Byte) (bs : List Byte) :
    (colonHex (b :: b' :: bs)).flatten =
      hexByte b ++ [0x3A] ++ (colonHex (b' :: bs)).flatten := by
  have hcons : colonHex (b :: b' :: bs) =
      (hexByte b ++ ascii ":") :: colonHex (b' :: bs) := rfl
  rw [hcons, List.flatten_cons]
  rfl

theorem listed_colonText (bs : List Byte) :
    Listed HexPair (· = [0x3A]) bs (colonText bs) := by
  induction bs with
  | nil => exact Listed.nil
  | cons b bs ih =>
      cases bs with
      | nil =>
          have hline : colonText [b] = hexByte b := by
            rw [colonText, colonHex, List.flatten_singleton]
            exact List.dropLast_concat
          rw [hline]
          exact Listed.single (hexPair_hexByte b)
      | cons b' bs =>
          have hsome : (colonHex (b' :: bs)).flatten ≠ [] := by
            intro hnone
            have hlength := length_colonHex (b' :: bs)
            rw [hnone] at hlength
            cases hlength
          rw [colonText, colonHex_flatten_cons,
            List.dropLast_append_of_ne_nil hsome]
          exact Listed.cons (hexPair_hexByte b) rfl ih

/-- The parser inverts the form in which the scan, the information and the
state of the network have it. -/
theorem parseExtPanId_colonText {bs : List Byte} (hlength : bs.length = 8) :
    parseExtPanId (colonText bs) = .ok bs := by
  have hwritten : WrittenId bs (colonText bs) :=
    WrittenId.hex (by omega) (listed_colonText bs)
  rw [parseExtPanId_written hwritten,
    List.take_of_length_le (le_of_eq hlength), if_pos hlength]

theorem acceptedAsEight_iff_printed :
    AcceptedAsEight [0x00, 0x12, 0x4B, 0xFF] (colonText [0x00, 0x12, 0x4B, 0xFF])
      ↔ [(0x00 : Byte), 0x12, 0x4B, 0xFF].length ≤ 8 :=
  acceptedAsEight_iff (WrittenId.hex (by decide) (listed_colonText _))

/-- A ninth byte is overlooked. -/
theorem nine_accepted :
    WrittenId [0, 1, 2, 3, 4, 5, 6, 7, 8] (ascii "00:01:02:03:04:05:06:07:08") ∧
      parseExtPanId (ascii "00:01:02:03:04:05:06:07:08") =
        .ok [0, 1, 2, 3, 4, 5, 6, 7] ∧
      ¬AcceptedAsEight [0, 1, 2, 3, 4, 5, 6, 7, 8]
        (ascii "00:01:02:03:04:05:06:07:08") := by
  have hparse : parseExtPanId (ascii "00:01:02:03:04:05:06:07:08") =
      .ok [0, 1, 2, 3, 4, 5, 6, 7] := by decide +kernel
  refine ⟨WrittenId.hex (by decide) (listed_colonText _), hparse, ?_⟩
  intro haccepted
  cases haccepted.accepted.mp ⟨_, hparse⟩

end EzspSpi
