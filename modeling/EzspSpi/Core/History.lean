import EzspSpi.Core.Program
import Mathlib.Data.List.Induction

/-!
# Reasoning about histories

A contract says which events a program may cause after a given history and
what must have happened before it may halt.  `Holds` is the corresponding
weakest-precondition judgement: from a history, every event of every run keeps
the contract, and a run that ends normally satisfies a postcondition over its
value and the longer history.  The rules below are the usual ones, one for
each way of building a program.
-/

namespace EzspSpi.Program

variable {I : Interface} {σ α β γ : Type}

/-- What a program owes at each event, given the events before it, and at a
halt, given all of them. -/
structure Contract (I : Interface) where
  event : List (Event I) → Event I → Prop
  halt : List (Event I) → Prop

/-- Every event of a trace keeps the contract after the history `h`. -/
def Along (C : Contract I) : List (Event I) → List (Event I) → Prop
  | _, [] => True
  | h, e :: t => C.event h e ∧ Along C (h ++ [e]) t

theorem along_append {C : Contract I} {h t t' : List (Event I)} :
    Along C h (t ++ t') ↔ Along C h t ∧ Along C (h ++ t) t' := by
  induction t generalizing h with
  | nil => simp [Along]
  | cons e t ih => simp [Along, ih, and_assoc]

/-- A kept contract holds at every single event of the trace. -/
theorem Along.at_event {C : Contract I} {h t t' : List (Event I)}
    {e : Event I} (ht : Along C h (t ++ e :: t')) : C.event (h ++ t) e :=
  (along_append.mp ht).2.1

theorem along_concat {C : Contract I} {h t : List (Event I)} {e : Event I} :
    Along C h (t ++ [e]) ↔ Along C h t ∧ C.event (h ++ t) e := by
  rw [along_append]
  exact and_congr_right fun _ => and_iff_left trivial

/-- A contract is kept along a trace if it is kept at each of its events. -/
theorem along_iff {C : Contract I} {h t : List (Event I)} :
    Along C h t ↔ ∀ t₁ e t₂, t = t₁ ++ e :: t₂ → C.event (h ++ t₁) e := by
  constructor
  · intro ht t₁ e t₂ hsplit
    rw [hsplit] at ht
    exact ht.at_event
  · intro hall
    induction t using List.reverseRecOn with
    | nil => trivial
    | append_singleton t e ih =>
        have hrest : ∀ t₁ e' t₂, t = t₁ ++ e' :: t₂ →
            C.event (h ++ t₁) e' := by
          intro t₁ e' t₂ hsplit
          apply hall t₁ e' (t₂ ++ [e])
          rw [hsplit, List.append_assoc, List.cons_append]
        exact along_concat.mpr ⟨ih hrest, hall t e [] rfl⟩

theorem Along.mono {C D : Contract I} {h t : List (Event I)}
    (hCD : ∀ h e, C.event h e → D.event h e) (ht : Along C h t) :
    Along D h t := by
  induction t generalizing h with
  | nil => trivial
  | cons e t ih => exact ⟨hCD _ _ ht.1, ih ht.2⟩

/-- From the history `h` every run of `m` keeps the contract, and one that ends
with a value satisfies the postcondition. -/
def Holds (C : Contract I) (h : List (Event I)) (m : Prog I σ α)
    (Q : α → List (Event I) → Prop) : Prop :=
  ∀ s, Along C h (m s).trace ∧
    (∀ a, (m s).outcome = .done a → Q a (h ++ (m s).trace)) ∧
    (∀ why, (m s).outcome = .halt why → C.halt (h ++ (m s).trace))

section Rules

variable {C : Contract I} {h : List (Event I)}

theorem Holds.pure {a : α} {Q : α → List (Event I) → Prop} (hQ : Q a h) :
    Holds C h (Pure.pure a : Prog I σ α) Q := by
  intro s
  refine ⟨trivial, ?_, ?_⟩
  · intro b hb
    cases hb
    simpa using hQ
  · intro why hwhy
    cases hwhy

theorem Holds.halt {why : Halt} {Q : α → List (Event I) → Prop}
    (hC : C.halt h) : Holds C h (Program.halt why : Prog I σ α) Q := by
  intro s
  refine ⟨trivial, ?_, ?_⟩
  · intro b hb
    cases hb
  · intro _ _
    simpa using hC

theorem Holds.note {n : I.Note} {Q : Unit → List (Event I) → Prop}
    (hC : C.event h (.note n)) (hQ : Q () (h ++ [.note n])) :
    Holds C h (Program.note n : Prog I σ Unit) Q := by
  intro s
  refine ⟨⟨hC, trivial⟩, ?_, ?_⟩
  · intro b _
    exact hQ
  · intro why hwhy
    cases hwhy

theorem Holds.call [Surroundings I σ] {c : I.Call}
    {Q : I.Resp c → List (Event I) → Prop}
    (hC : ∀ r, C.event h (.call c r))
    (hQ : ∀ r, Q r (h ++ [.call c r])) :
    Holds C h (Program.call c : Prog I σ (I.Resp c)) Q := by
  intro s
  refine ⟨⟨hC _, trivial⟩, ?_, ?_⟩
  · intro r hr
    cases hr
    exact hQ _
  · intro why hwhy
    cases hwhy

theorem Holds.bind {m : Prog I σ α} {f : α → Prog I σ β}
    {Q : β → List (Event I) → Prop}
    (hm : Holds C h m fun a h' => Holds C h' (f a) Q) :
    Holds C h (m >>= f) Q := by
  intro s
  obtain ⟨halong, hdone, hhalt⟩ := hm s
  rw [bind_apply]
  cases houtcome : (m s).outcome with
  | done a =>
      rw [Run.andThen_of_done houtcome]
      obtain ⟨halong', hdone', hhalt'⟩ := hdone a houtcome (m s).world
      rw [← List.append_assoc]
      exact ⟨along_append.mpr ⟨halong, halong'⟩, hdone', hhalt'⟩
  | halt why =>
      rw [Run.andThen_of_halt houtcome]
      refine ⟨halong, ?_, fun _ _ => hhalt why houtcome⟩
      intro b hb
      cases hb

theorem Holds.mono {m : Prog I σ α} {Q R : α → List (Event I) → Prop}
    (hm : Holds C h m Q) (hQR : ∀ a h', Q a h' → R a h') : Holds C h m R :=
  fun s => ⟨(hm s).1, fun a ha => hQR _ _ ((hm s).2.1 a ha), (hm s).2.2⟩

/-- Sequencing with a specification of the first program. -/
theorem Holds.seq {m : Prog I σ α} {f : α → Prog I σ β}
    {P : α → List (Event I) → Prop} {Q : β → List (Event I) → Prop}
    (hm : Holds C h m P) (hf : ∀ a h', P a h' → Holds C h' (f a) Q) :
    Holds C h (m >>= f) Q :=
  (hm.mono hf).bind

/-- A loop over a list keeps an invariant that each round keeps. -/
theorem Holds.foldlM {Inv : β → List (Event I) → Prop}
    {f : β → γ → Prog I σ β}
    (hround : ∀ b x h, Inv b h → Holds C h (f b x) Inv) :
    ∀ (xs : List γ) (b : β) (h : List (Event I)), Inv b h →
      Holds C h (xs.foldlM f b) Inv := by
  intro xs
  induction xs with
  | nil =>
      intro b h hInv
      exact Holds.pure hInv
  | cons x xs ih =>
      intro b h hInv
      rw [List.foldlM_cons]
      exact (hround b x h hInv).seq fun b' h' hInv' => ih b' h' hInv'

/-- The same for a loop without a value, with the membership of the element at
hand. -/
theorem Holds.forM {Inv : List (Event I) → Prop} {f : γ → Prog I σ PUnit}
    {xs : List γ}
    (hround : ∀ x ∈ xs, ∀ h, Inv h → Holds C h (f x) fun _ h' => Inv h')
    {h : List (Event I)} (hInv : Inv h) :
    Holds C h (forM xs f) fun _ h' => Inv h' := by
  induction xs generalizing h with
  | nil => exact Holds.pure hInv
  | cons x xs ih =>
      rw [List.forM_cons]
      have hrest : ∀ y ∈ xs, ∀ h, Inv h → Holds C h (f y) fun _ h' => Inv h' :=
        fun y hy => hround y (List.mem_cons_of_mem x hy)
      exact (hround x List.mem_cons_self h hInv).seq fun _ h' hInv' =>
        ih hrest hInv'

end Rules

/-- All events of all runs of `m` satisfy `K`, whatever came before. -/
def Emits (K : Event I → Prop) (m : Prog I σ α) : Prop :=
  ∀ h, Holds ⟨fun _ e => K e, fun _ => True⟩ h m fun _ _ => True

theorem Emits.bind {K : Event I → Prop} {m : Prog I σ α}
    {f : α → Prog I σ β} (hm : Emits K m) (hf : ∀ a, Emits K (f a)) :
    Emits K (m >>= f) := by
  intro h
  exact (hm h).seq fun a h' _ => hf a h'

theorem Emits.pure {K : Event I → Prop} {a : α} :
    Emits K (Pure.pure a : Prog I σ α) :=
  fun _ => Holds.pure trivial

theorem Emits.halt {K : Event I → Prop} {why : Halt} :
    Emits K (Program.halt why : Prog I σ α) :=
  fun _ => Holds.halt trivial

theorem Emits.note {K : Event I → Prop} {n : I.Note} (hK : K (.note n)) :
    Emits K (Program.note n : Prog I σ Unit) :=
  fun _ => Holds.note hK trivial

theorem Emits.call [Surroundings I σ] {K : Event I → Prop} {c : I.Call}
    (hK : ∀ r, K (.call c r)) :
    Emits K (Program.call c : Prog I σ (I.Resp c)) :=
  fun _ => Holds.call hK fun _ => trivial

theorem Emits.ite {K : Event I → Prop} {c : Prop} [Decidable c]
    {m m' : Prog I σ α} (hm : Emits K m) (hm' : Emits K m') :
    Emits K (if c then m else m') := by
  split
  · exact hm
  · exact hm'

theorem Emits.onlyIf {K : Event I → Prop} {c : Prop} [Decidable c]
    {m : Prog I σ Unit} (hm : Emits K m) : Emits K (Program.onlyIf c m) :=
  Emits.ite hm Emits.pure

theorem Emits.mono {K L : Event I → Prop} {m : Prog I σ α}
    (hKL : ∀ e, K e → L e) (hm : Emits K m) : Emits L m := by
  intro h s
  exact ⟨(hm h s).1.mono fun _ e he => hKL e he, (hm h s).2⟩

private theorem along_of_along {C D : Contract I}
    {R : List (Event I) → Prop}
    (hstep : ∀ h e, C.event h e → R h → D.event h e ∧ R (h ++ [e]))
    {h t : List (Event I)} (ht : Along C h t) (hR : R h) :
    Along D h t ∧ R (h ++ t) := by
  induction t generalizing h with
  | nil => exact ⟨trivial, by simpa using hR⟩
  | cons e t ih =>
      obtain ⟨hD, hR'⟩ := hstep h e ht.1 hR
      obtain ⟨halong, hend⟩ := ih ht.2 hR'
      exact ⟨⟨hD, halong⟩, by simpa using hend⟩

/-- A contract and an assertion about the history carry over to another
contract, if each event that keeps the first keeps the assertion and the
second. -/
theorem Holds.frame {C D : Contract I} {R : List (Event I) → Prop}
    {h : List (Event I)} {m : Prog I σ α} {Q : α → List (Event I) → Prop}
    (hm : Holds C h m Q)
    (hstep : ∀ h e, C.event h e → R h → D.event h e ∧ R (h ++ [e]))
    (hhalt : ∀ h, R h → D.halt h) (hR : R h) :
    Holds D h m fun a h' => Q a h' ∧ R h' := by
  intro s
  obtain ⟨halong, hdone, _⟩ := hm s
  obtain ⟨halong', hend⟩ := along_of_along hstep halong hR
  exact ⟨halong', fun a ha => ⟨hdone a ha, hend⟩, fun _ _ => hhalt _ hend⟩

/-- A program whose events all keep an assertion about the history keeps it as
a whole. -/
theorem Emits.holds {C : Contract I} {K : Event I → Prop}
    {R : List (Event I) → Prop} {m : Prog I σ α} (hm : Emits K m)
    (hstep : ∀ h e, K e → R h → C.event h e ∧ R (h ++ [e]))
    (hhalt : ∀ h, R h → C.halt h) {h : List (Event I)} (hR : R h) :
    Holds C h m fun _ h' => R h' :=
  ((hm h).frame hstep hhalt hR).mono fun _ _ hend => hend.2

/-- A program adds events of its kind to the history. -/
theorem Emits.appends {C : Contract I} {K : Event I → Prop}
    {m : Prog I σ α} (hm : Emits K m) (hevent : ∀ h e, K e → C.event h e)
    (hhalt : ∀ h, C.halt h) {h : List (Event I)} :
    Holds C h m fun _ h' => ∃ t, (∀ e ∈ t, K e) ∧ h' = h ++ t := by
  have hstart : ∃ t, (∀ e ∈ t, K e) ∧ h = h ++ t :=
    ⟨[], fun e he => absurd he List.not_mem_nil, (List.append_nil h).symm⟩
  apply hm.holds _ (fun h' _ => hhalt h') hstart
  rintro h' e he ⟨t, ht, rfl⟩
  refine ⟨hevent _ e he, t ++ [e], ?_, List.append_assoc h t [e]⟩
  intro e' he'
  rcases List.mem_append.mp he' with he' | he'
  · exact ht e' he'
  · exact List.mem_singleton.mp he' ▸ he

theorem Emits.of_mem {K : Event I → Prop} {m : Prog I σ α} (hm : Emits K m)
    {s : σ} {e : Event I} (he : e ∈ (m s).trace) : K e := by
  obtain ⟨t₁, t₂, htrace⟩ := List.append_of_mem he
  have hevents := (hm [] s).1
  rw [htrace] at hevents
  exact hevents.at_event

/-- What a program does, with the kind of its events. -/
theorem Holds.emitting {C : Contract I} {K : Event I → Prop}
    {h : List (Event I)} {m : Prog I σ α} {Q : α → List (Event I) → Prop}
    (hm : Holds C h m Q) (hK : Emits K m) :
    Holds C h m fun a h' => Q a h' ∧ ∃ t, (∀ e ∈ t, K e) ∧ h' = h ++ t := by
  intro s
  obtain ⟨halong, hdone, hhalt⟩ := hm s
  exact ⟨halong, fun a ha => ⟨hdone a ha, (m s).trace,
    fun _ he => hK.of_mem he, rfl⟩, hhalt⟩

/-- What a program does, with what it returns. -/
theorem Holds.yielding {C : Contract I} {P : α → Prop} {h : List (Event I)}
    {m : Prog I σ α} {Q : α → List (Event I) → Prop} (hm : Holds C h m Q)
    (hP : Yields P m) : Holds C h m fun a h' => Q a h' ∧ P a := by
  intro s
  obtain ⟨halong, hdone, hhalt⟩ := hm s
  exact ⟨halong, fun a ha => ⟨hdone a ha, hP.value s a ha⟩, hhalt⟩

/-- What no event can undo a program leaves as it is. -/
theorem Holds.persist {C : Contract I} {R : List (Event I) → Prop}
    (hstep : ∀ h e, R h → C.event h e ∧ R (h ++ [e]))
    (hhalt : ∀ h, R h → C.halt h) (m : Prog I σ α) {h : List (Event I)}
    (hR : R h) : Holds C h m fun _ h' => R h' := by
  have hany : Emits (fun _ => True) m := by
    intro h' s
    have halong : Along ⟨fun _ _ => True, fun _ => True⟩ h' (m s).trace :=
      along_iff.mpr fun _ _ _ _ => trivial
    exact ⟨halong, fun _ _ => trivial, fun _ _ => trivial⟩
  exact hany.holds (fun h' e _ => hstep h' e) hhalt hR

end EzspSpi.Program
