import Mathlib.Data.List.Basic

/-!
# Byte stuffing

Escape-based framing over an arbitrary alphabet: a reserved symbol is sent as
an escape symbol followed by its image under an involution that leaves the
reserved set.  A receiver needs one bit of state, whether an escape is
pending, and may meet ignorable symbols anywhere, even between an escape and
its operand.
-/

namespace EzspSpi.ByteStuffing

/-- The escape symbol, the involution on operands and the reserved symbols,
the escape symbol among them. -/
structure Scheme (α : Type*) where
  esc : α
  flip : α → α
  reserved : α → Bool
  flip_flip : ∀ c, flip (flip c) = c
  reserved_esc : reserved esc = true
  flip_free : ∀ c, reserved c = true → reserved (flip c) = false

variable {α : Type*} (S : Scheme α)

def stuffOne (c : α) : List α :=
  if S.reserved c then [S.esc, S.flip c] else [c]

def stuff (text : List α) : List α := text.flatMap (stuffOne S)

@[simp]
theorem stuff_cons (c : α) (text : List α) :
    stuff S (c :: text) = stuffOne S c ++ stuff S text := rfl

/-- At worst every symbol is escaped. -/
theorem length_stuff_le (text : List α) :
    (stuff S text).length ≤ 2 * text.length := by
  induction text with
  | nil => simp [stuff]
  | cons c text ih =>
      have hone : (stuffOne S c).length ≤ 2 := by
        rw [stuffOne]
        split <;> simp
      rw [stuff_cons, List.length_append, List.length_cons]
      omega

/-- Besides the escape symbol nothing reserved is ever sent. -/
theorem reserved_of_mem_stuff {text : List α} {c : α}
    (hc : c ∈ stuff S text) (hne : c ≠ S.esc) : S.reserved c = false := by
  obtain ⟨d, _, hd⟩ := List.mem_flatMap.mp hc
  rw [stuffOne] at hd
  split at hd
  · rename_i hreserved
    rcases List.mem_pair.mp hd with rfl | rfl
    · exact absurd rfl hne
    · exact S.flip_free d hreserved
  · rename_i hplain
    rw [List.mem_singleton.mp hd]
    simpa using hplain

section Receiver

variable [DecidableEq α]

/-- A receiver: the text so far and whether an escape is pending. -/
def unstuffStep (st : List α × Bool) (c : α) : List α × Bool :=
  if c = S.esc then (st.1, true)
  else (st.1 ++ [if st.2 then S.flip c else c], false)

def unstuff (st : List α × Bool) (wire : List α) : List α × Bool :=
  wire.foldl (unstuffStep S) st

@[simp]
theorem unstuff_nil (st : List α × Bool) : unstuff S st [] = st := rfl

@[simp]
theorem unstuff_cons (st : List α × Bool) (c : α) (wire : List α) :
    unstuff S st (c :: wire) = unstuff S (unstuffStep S st c) wire := rfl

theorem unstuff_append (st : List α × Bool) (wire wire' : List α) :
    unstuff S st (wire ++ wire') = unstuff S (unstuff S st wire) wire' :=
  List.foldl_append

theorem unstuff_stuffOne (text : List α) (c : α) :
    unstuff S (text, false) (stuffOne S c) = (text ++ [c], false) := by
  rw [stuffOne]
  split
  · rename_i hreserved
    have hflip : S.flip c ≠ S.esc := by
      intro heq
      have hfree := S.flip_free c hreserved
      rw [heq, S.reserved_esc] at hfree
      exact absurd hfree (by decide)
    simp [unstuffStep, hflip, S.flip_flip]
  · rename_i hplain
    have hne : c ≠ S.esc := by
      intro heq
      exact hplain (heq ▸ S.reserved_esc)
    simp [unstuffStep, hne]

/-- Receiving what was sent gives back the text, whatever was received before,
and leaves no escape pending. -/
theorem unstuff_stuff (before text : List α) :
    unstuff S (before, false) (stuff S text) = (before ++ text, false) := by
  induction text generalizing before with
  | nil => simp [stuff]
  | cons c text ih =>
      rw [stuff_cons, unstuff_append, unstuff_stuffOne, ih]
      simp

/-- The text received never gets shorter. -/
theorem length_le_unstuff (st : List α × Bool) (wire : List α) :
    st.1.length ≤ (unstuff S st wire).1.length := by
  induction wire generalizing st with
  | nil => simp
  | cons c wire ih =>
      have hstep : st.1.length ≤ (unstuffStep S st c).1.length := by
        rw [unstuffStep]
        split <;> simp
      rw [unstuff_cons]
      exact Nat.le_trans hstep (ih _)

/-- What a received wire stands for: each run of escapes and the symbol after
it is that symbol flipped, and escapes at the end are dropped. -/
def unescape : List α → List α
  | [] => []
  | [c] => if c = S.esc then [] else [c]
  | c :: d :: wire =>
      if c ≠ S.esc then c :: unescape (d :: wire)
      else if d = S.esc then unescape (d :: wire)
      else S.flip d :: unescape wire

theorem unescape_cons_of_ne {c : α} (hc : c ≠ S.esc) (wire : List α) :
    unescape S (c :: wire) = c :: unescape S wire := by
  cases wire with
  | nil => simp [unescape, hc]
  | cons d wire => rw [unescape, if_pos hc]

theorem unescape_esc_esc (wire : List α) :
    unescape S (S.esc :: S.esc :: wire) = unescape S (S.esc :: wire) := by
  rw [unescape, if_neg (not_not.mpr rfl), if_pos rfl]

theorem unescape_esc_of_ne {c : α} (hc : c ≠ S.esc) (wire : List α) :
    unescape S (S.esc :: c :: wire) = S.flip c :: unescape S wire := by
  rw [unescape, if_neg (not_not.mpr rfl), if_neg hc]

/-- The receiver's text is what the wire stands for, after an escape that may
be pending. -/
theorem unstuff_fst (text wire : List α) (pending : Bool) :
    (unstuff S (text, pending) wire).1 =
      text ++ unescape S (if pending then S.esc :: wire else wire) := by
  induction wire generalizing text pending with
  | nil => cases pending <;> simp [unescape]
  | cons c wire ih =>
      rw [unstuff_cons, unstuffStep]
      by_cases hc : c = S.esc
      · rw [if_pos hc, ih, if_pos rfl, hc]
        cases pending with
        | false => rfl
        | true => rw [if_pos rfl, unescape_esc_esc]
      · rw [if_neg hc, ih]
        cases pending with
        | false => simp [unescape_cons_of_ne S hc]
        | true => simp [unescape_esc_of_ne S hc]

/-- Texts with the same encoding are the same. -/
theorem stuff_injective : Function.Injective (stuff S) := by
  intro text text' heq
  have h := unstuff_stuff S [] text
  rw [heq, unstuff_stuff] at h
  simpa using (congrArg Prod.fst h).symm

end Receiver

end EzspSpi.ByteStuffing
