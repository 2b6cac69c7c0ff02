import EzspSpi.Core.History

/-!
# Properties of programs that carry over from the parts to the whole

What holds of a value returned and of two programs in sequence whenever it
holds of each holds of everything built from such parts.  Properties of this
kind: every event is of some kind; a run halts for the reason that one of its
events gives; a run ends normally exactly if none of its events is of some
kind.
-/

namespace EzspSpi.Program

variable {I : Interface} {σ α β γ : Type}

structure Modular (J : (α : Type) → Prog I σ α → Prop) : Prop where
  pure : ∀ {α : Type} (a : α), J α (Pure.pure a)
  bind : ∀ {α β : Type} {m : Prog I σ α} {f : α → Prog I σ β},
    J α m → (∀ a, J β (f a)) → J β (m >>= f)

namespace Modular

variable {J : (α : Type) → Prog I σ α → Prop} (hJ : Modular J)

theorem ite {c : Prop} [Decidable c] {m m' : Prog I σ α} (hm : J α m)
    (hm' : J α m') : J α (if c then m else m') := by
  split
  · exact hm
  · exact hm'

include hJ

theorem onlyIf {c : Prop} [Decidable c] {m : Prog I σ Unit} (hm : J Unit m) :
    J Unit (Program.onlyIf c m) := ite hm (hJ.pure ())

theorem discard {m : Prog I σ α} (hm : J α m) :
    J PUnit (Functor.discard m) := hJ.bind hm fun _ => hJ.pure _

theorem foldlM {f : β → γ → Prog I σ β} (hf : ∀ b c, J β (f b c))
    (xs : List γ) (b : β) : J β (xs.foldlM f b) := by
  induction xs generalizing b with
  | nil => exact hJ.pure b
  | cons x xs ih => exact hJ.bind (hf b x) ih

theorem forM {f : β → Prog I σ PUnit} (hf : ∀ b, J PUnit (f b))
    (xs : List β) : J PUnit (xs.forM f) := by
  induction xs with
  | nil => exact hJ.pure _
  | cons x xs ih => exact hJ.bind (hf x) fun _ => ih

end Modular

theorem Emits.modular (K : Event I → Prop) :
    Modular fun (α : Type) (m : Prog I σ α) => Emits K m where
  pure _ := Emits.pure
  bind hm hf := hm.bind hf

/-! ## Why a run halts -/

/-- Some events are the fate of a run: it halts there, for the reason given.
It halts at no other, unless the reason and the trace are among those that are
`left` to be explained. -/
structure HaltsFrom (fate : Event I → Option Halt)
    (left : Halt → List (Event I) → Prop) (m : Prog I σ α) : Prop where
  met : ∀ s, ∀ e ∈ (m s).trace, ∀ why, fate e = some why →
    (m s).outcome = .halt why
  explained : ∀ s why, (m s).outcome = .halt why →
    (∃ e ∈ (m s).trace, fate e = some why) ∨ left why (m s).trace

/-- Nothing is left to be explained. -/
def nothingLeft (_ : Halt) (_ : List (Event I)) : Prop := False

namespace HaltsFrom

variable {fate : Event I → Option Halt} {left : Halt → List (Event I) → Prop}

/-- A run that ends has met no fate. -/
theorem spared {m : Prog I σ α} (hm : HaltsFrom fate left m) {s : σ} {a : α}
    (hdone : (m s).outcome = .done a) : ∀ e ∈ (m s).trace, fate e = none := by
  intro e he
  cases hfate : fate e with
  | none => rfl
  | some why =>
      have hhalt := hm.met s e he why hfate
      rw [hdone] at hhalt
      cases hhalt

theorem pure {a : α} : HaltsFrom fate left (Pure.pure a : Prog I σ α) where
  met _ _ he := absurd he List.not_mem_nil
  explained _ _ h := nomatch h

theorem bind (hleft : ∀ why t t', left why t' → left why (t ++ t'))
    {m : Prog I σ α} {f : α → Prog I σ β} (hm : HaltsFrom fate left m)
    (hf : ∀ a, HaltsFrom fate left (f a)) :
    HaltsFrom fate left (m >>= f) := by
  constructor
  · intro s e he why hfate
    rw [bind_apply] at he ⊢
    cases houtcome : (m s).outcome with
    | done a =>
        rw [Run.andThen_of_done houtcome] at he ⊢
        rcases List.mem_append.mp he with he | he
        · rw [hm.spared houtcome e he] at hfate
          cases hfate
        · exact (hf a).met _ e he why hfate
    | halt why' =>
        rw [Run.andThen_of_halt houtcome] at he ⊢
        have hhalt := hm.met s e he why hfate
        rw [houtcome] at hhalt
        cases hhalt
        rfl
  · intro s why hhalt
    rw [bind_apply] at hhalt ⊢
    cases houtcome : (m s).outcome with
    | done a =>
        rw [Run.andThen_of_done houtcome] at hhalt ⊢
        rcases (hf a).explained _ why hhalt with ⟨e, he, hfate⟩ | hrest
        · exact Or.inl ⟨e, List.mem_append_right _ he, hfate⟩
        · exact Or.inr (hleft why _ _ hrest)
    | halt why' =>
        rw [Run.andThen_of_halt houtcome] at hhalt ⊢
        cases hhalt
        exact hm.explained s why houtcome

theorem modular (hleft : ∀ why t t', left why t' → left why (t ++ t')) :
    Modular fun (α : Type) (m : Prog I σ α) => HaltsFrom fate left m where
  pure _ := HaltsFrom.pure
  bind := HaltsFrom.bind hleft

theorem halt {why : Halt} (hwhy : left why []) :
    HaltsFrom fate left (Program.halt why : Prog I σ α) where
  met _ _ he := absurd he List.not_mem_nil
  explained _ _ h := by
    cases h
    exact Or.inr hwhy

theorem note {n : I.Note} (hn : fate (.note n) = none) :
    HaltsFrom fate left (Program.note n : Prog I σ Unit) where
  met _ e he why hfate := by
    rw [List.mem_singleton.mp he, hn] at hfate
    cases hfate
  explained _ _ h := nomatch h

/-- A note before what follows may explain more of it. -/
theorem note_bind {left' : Halt → List (Event I) → Prop} {n : I.Note}
    {m : Prog I σ α} (hn : fate (.note n) = none) (hm : HaltsFrom fate left m)
    (hleft : ∀ why t, left why t → left' why (.note n :: t)) :
    HaltsFrom fate left' (Program.note n >>= fun _ => m) := by
  constructor
  · intro s e he why hfate
    rcases List.mem_cons.mp he with rfl | he
    · rw [hn] at hfate
      cases hfate
    · exact hm.met s e he why hfate
  · intro s why hhalt
    rcases hm.explained s why hhalt with ⟨e, he, hfate⟩ | hrest
    · exact Or.inl ⟨e, List.mem_cons_of_mem _ he, hfate⟩
    · exact Or.inr (hleft why _ hrest)

/-- A request: it is fatal, or what follows goes on from there. -/
theorem request [Surroundings I σ] {c : I.Call} {f : I.Resp c → Prog I σ α}
    (hleft : ∀ why t t', left why t' → left why (t ++ t'))
    (hf : ∀ r, (fate (.call c r) = none ∧ HaltsFrom fate left (f r)) ∨
      ∃ why, fate (.call c r) = some why ∧ f r = Program.halt why) :
    HaltsFrom fate left (Program.call c >>= f) := by
  constructor
  · intro s e he why hfate
    rw [call_bind_apply] at he ⊢
    dsimp only at he ⊢
    rcases hf (Surroundings.answer c s).1 with
      ⟨hnone, hrest⟩ | ⟨why', hsome, hend⟩
    · rcases List.mem_cons.mp he with rfl | he
      · rw [hnone] at hfate
        cases hfate
      · exact hrest.met _ e he why hfate
    · rw [hend] at he ⊢
      rw [List.mem_singleton.mp he, hsome] at hfate
      cases hfate
      rfl
  · intro s why hhalt
    rw [call_bind_apply] at hhalt ⊢
    dsimp only at hhalt ⊢
    rcases hf (Surroundings.answer c s).1 with
      ⟨hnone, hrest⟩ | ⟨why', hsome, hend⟩
    · rcases hrest.explained _ why hhalt with ⟨e, he, hfate⟩ | hrest
      · exact Or.inl ⟨e, List.mem_cons_of_mem _ he, hfate⟩
      · exact Or.inr (hleft why [_] _ hrest)
    · rw [hend] at hhalt ⊢
      cases hhalt
      exact Or.inl ⟨_, List.mem_cons_self, hsome⟩

theorem call [Surroundings I σ] {c : I.Call}
    (hc : ∀ r, fate (.call c r) = none) :
    HaltsFrom fate left (Program.call c : Prog I σ (I.Resp c)) where
  met _ e he why hfate := by
    rw [List.mem_singleton.mp he, hc] at hfate
    cases hfate
  explained _ _ h := nomatch h

/-- Where nothing is left to be explained, a fate is the only end. -/
theorem halts_iff {m : Prog I σ α} (hm : HaltsFrom fate nothingLeft m) (s : σ)
    (why : Halt) : (m s).outcome = .halt why ↔
      ∃ e ∈ (m s).trace, fate e = some why := by
  constructor
  · exact fun h => (hm.explained s why h).resolve_right id
  · rintro ⟨e, he, hfate⟩
    exact hm.met s e he why hfate

end HaltsFrom

/-! ## Whether a run ends -/

/-- A run ends normally exactly if none of its events is of this kind. -/
def EndsUnless (K : Event I → Prop) (m : Prog I σ α) : Prop :=
  ∀ s, (∃ a, (m s).outcome = .done a) ↔ ∀ e ∈ (m s).trace, ¬K e

namespace EndsUnless

variable {K : Event I → Prop}

theorem modular (K : Event I → Prop) :
    Modular fun (α : Type) (m : Prog I σ α) => EndsUnless K m where
  pure a s := iff_of_true ⟨a, rfl⟩ fun e he => absurd he List.not_mem_nil
  bind {α β m f} hm hf s := by
    rw [bind_apply]
    cases houtcome : (m s).outcome with
    | done a =>
        have hquiet := (hm s).mp ⟨a, houtcome⟩
        rw [Run.andThen_of_done houtcome, hf a (m s).world]
        simp only [List.mem_append]
        constructor
        · rintro hrest e (he | he)
          · exact hquiet e he
          · exact hrest e he
        · exact fun hall e he => hall e (Or.inr he)
    | halt why =>
        rw [Run.andThen_of_halt houtcome, ← hm s, houtcome]
        constructor
        · rintro ⟨b, hb⟩
          cases hb
        · rintro ⟨a, ha⟩
          cases ha

theorem note {n : I.Note} (hn : ¬K (.note n)) :
    EndsUnless K (Program.note n : Prog I σ Unit) := by
  intro s
  refine iff_of_true ⟨(), rfl⟩ ?_
  intro e he
  rw [List.mem_singleton.mp he]
  exact hn

theorem call [Surroundings I σ] {c : I.Call} (hc : ∀ r, ¬K (.call c r)) :
    EndsUnless K (Program.call c : Prog I σ (I.Resp c)) := by
  intro s
  refine iff_of_true ⟨_, rfl⟩ ?_
  intro e he
  rw [List.mem_singleton.mp he]
  exact hc _

/-- Where nothing is left to be explained, a run ends unless it meets a fate. -/
theorem of_haltsFrom {fate : Event I → Option Halt} {m : Prog I σ α}
    (hm : HaltsFrom fate nothingLeft m) (hK : ∀ e, K e ↔ fate e ≠ none) :
    EndsUnless K m := by
  intro s
  constructor
  · rintro ⟨a, hdone⟩ e he hKe
    exact (hK e).mp hKe (hm.spared hdone e he)
  · intro hnone
    cases houtcome : (m s).outcome with
    | done a => exact ⟨a, rfl⟩
    | halt why =>
        obtain ⟨e, he, hfate⟩ := (hm.halts_iff s why).mp houtcome
        have hfatal : fate e ≠ none := by
          rw [hfate]
          exact Option.some_ne_none why
        exact absurd ((hK e).mpr hfatal) (hnone e he)

end EndsUnless

end EzspSpi.Program
