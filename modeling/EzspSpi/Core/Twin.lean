import EzspSpi.Core.Program
import Mathlib.Data.List.Basic

/-!
# Runs that are told the same

An observer sees what a program says to it and what the program is told, on
which channel.  Two programs are twins if their runs, each in surroundings of
its own, look alike until they are told different things on one channel.  So
twins that are told the same on each, as far as they both ask, say the same.
-/

namespace EzspSpi.Program

variable {I : Interface} {σ τ α β γ δ S K T : Type}

/-- What the observer sees of a run. -/
inductive Sight (S K T : Type) where
  | said (x : S)
  /-- The program asked on channel `k` and was told this. -/
  | told (k : K) (y : T)

def Sight.said? : Sight S K T → Option S
  | .said x => some x
  | .told _ _ => none

def Sight.toldOn? [DecidableEq K] (k : K) : Sight S K T → Option T
  | .said _ => none
  | .told k' y => if k' = k then some y else none

/-- The answers on a channel agree call by call, for as many calls as both
made. -/
def Agree (ys zs : List T) : Prop :=
  ∀ (n : ℕ) (y z : T), ys[n]? = some y → zs[n]? = some z → y = z

theorem Agree.of_eq {ys zs : List T} (h : ys = zs) : Agree ys zs := by
  intro n y z hy hz
  rw [h, hz] at hy
  exact (Option.some.inj hy).symm

/-- Where these two differ first, different things were told on one
channel. -/
def Parted (v w : List (Sight S K T)) : Prop :=
  ∃ u k y z v' w', v = u ++ .told k y :: v' ∧ w = u ++ .told k z :: w' ∧ y ≠ z

theorem Parted.head {k : K} {y z : T} (h : y ≠ z) (v w : List (Sight S K T)) :
    Parted (.told k y :: v) (.told k z :: w) :=
  ⟨[], k, y, z, v, w, rfl, rfl, h⟩

theorem Parted.after {v w : List (Sight S K T)} (h : Parted v w)
    (u : List (Sight S K T)) : Parted (u ++ v) (u ++ w) := by
  obtain ⟨u', k, y, z, v', w', rfl, rfl, hne⟩ := h
  exact ⟨u ++ u', k, y, z, v', w', (List.append_assoc ..).symm,
    (List.append_assoc ..).symm, hne⟩

theorem Parted.before {v w : List (Sight S K T)} (h : Parted v w)
    (v' w' : List (Sight S K T)) : Parted (v ++ v') (w ++ w') := by
  obtain ⟨u, k, y, z, v₁, w₁, rfl, rfl, hne⟩ := h
  exact ⟨u, k, y, z, v₁ ++ v', w₁ ++ w', by simp, by simp, hne⟩

private theorem toldOn_append_told [DecidableEq K] (u v : List (Sight S K T))
    (k : K) (y : T) :
    (u ++ .told k y :: v).filterMap (Sight.toldOn? k) =
      u.filterMap (Sight.toldOn? k) ++ y :: v.filterMap (Sight.toldOn? k) := by
  rw [List.filterMap_append, List.filterMap_cons, Sight.toldOn?, if_pos rfl]

theorem Parted.not_agree [DecidableEq K] {v w : List (Sight S K T)}
    (h : Parted v w) :
    ∃ k, ¬Agree (v.filterMap (Sight.toldOn? k))
      (w.filterMap (Sight.toldOn? k)) := by
  obtain ⟨u, k, y, z, v', w', rfl, rfl, hne⟩ := h
  refine ⟨k, fun hagree => hne ?_⟩
  rw [toldOn_append_told, toldOn_append_told] at hagree
  have hlength (x : T) (xs : List T) :
      (u.filterMap (Sight.toldOn? k) ++ x :: xs)[
        (u.filterMap (Sight.toldOn? k)).length]? = some x := by
    rw [List.getElem?_append_right (Nat.le_refl _), Nat.sub_self,
      List.getElem?_cons_zero]
  exact hagree _ y z (hlength y _) (hlength z _)

/-- Two runs ended alike: with related values, or both before their end. -/
inductive Matching (Q : α → β → Prop) : Outcome α → Outcome β → Prop where
  | done {a : α} {b : β} (h : Q a b) : Matching Q (.done a) (.done b)
  | halt (why why' : Halt) : Matching Q (.halt why) (.halt why')

theorem Matching.mono {P Q : α → β → Prop} {o : Outcome α} {o' : Outcome β}
    (ho : Matching P o o') (h : ∀ a b, P a b → Q a b) : Matching Q o o' := by
  cases ho with
  | done hP => exact .done (h _ _ hP)
  | halt why why' => exact .halt why why'

section Twins

variable (view : Event I → List (Sight S K T))

/-- What one sees of a trace. -/
def sights (t : List (Event I)) : List (Sight S K T) := t.flatMap view

theorem sights_append (t t' : List (Event I)) :
    sights view (t ++ t') = sights view t ++ sights view t' :=
  List.flatMap_append

/-- The runs of two programs look alike until they are told different
things. -/
structure Twin (Q : α → β → Prop) (m : Prog I σ α) (n : Prog I τ β) :
    Prop where
  run : ∀ s t,
    Parted (sights view (m s).trace) (sights view (n t).trace) ∨
    (sights view (m s).trace = sights view (n t).trace ∧
      Matching Q (m s).outcome (n t).outcome)

variable {view} {Q : α → β → Prop}

/-- Twins that are told the same say the same. -/
theorem Twin.said_eq [DecidableEq K] {m : Prog I σ α} {n : Prog I τ β}
    (h : Twin view Q m n) (s : σ) (t : τ)
    (htold : ∀ k, Agree
      ((sights view (m s).trace).filterMap (Sight.toldOn? k))
      ((sights view (n t).trace).filterMap (Sight.toldOn? k))) :
    (sights view (m s).trace).filterMap Sight.said? =
      (sights view (n t).trace).filterMap Sight.said? := by
  rcases h.run s t with hparted | ⟨hsame, _⟩
  · obtain ⟨k, hne⟩ := hparted.not_agree
    exact absurd (htold k) hne
  · rw [hsame]

theorem Twin.pure {a : α} {b : β} (h : Q a b) :
    Twin view Q (Pure.pure a : Prog I σ α) (Pure.pure b : Prog I τ β) :=
  ⟨fun _ _ => Or.inr ⟨rfl, .done h⟩⟩

theorem Twin.halt {why why' : Halt} :
    Twin view Q (Program.halt why : Prog I σ α)
      (Program.halt why' : Prog I τ β) :=
  ⟨fun _ _ => Or.inr ⟨rfl, .halt why why'⟩⟩

theorem Twin.note {n n' : I.Note} {Q : Unit → Unit → Prop}
    (h : view (.note n) = view (.note n')) (hQ : Q () ()) :
    Twin view Q (Program.note n : Prog I σ Unit)
      (Program.note n' : Prog I τ Unit) := by
  refine ⟨fun _ _ => Or.inr ⟨?_, .done hQ⟩⟩
  simp only [note_apply, sights, List.flatMap_singleton, h]

theorem Twin.call [Surroundings I σ] [Surroundings I τ] {c d : I.Call}
    {Q : I.Resp c → I.Resp d → Prop}
    (h : ∀ r r', Parted (view (.call c r)) (view (.call d r')) ∨
      (view (.call c r) = view (.call d r') ∧ Q r r')) :
    Twin view Q (Program.call c : Prog I σ (I.Resp c))
      (Program.call d : Prog I τ (I.Resp d)) := by
  refine ⟨fun s t => ?_⟩
  simp only [Program.call, sights, List.flatMap_singleton]
  rcases h (Surroundings.answer c s).1 (Surroundings.answer d t).1 with
    hparted | ⟨hsame, hQ⟩
  · exact Or.inl hparted
  · exact Or.inr ⟨hsame, .done hQ⟩

/-- What a run shows before it goes on. -/
private theorem exists_trace_bind (m : Prog I σ α) (f : α → Prog I σ γ)
    (s : σ) : ∃ t, ((m >>= f) s).trace = (m s).trace ++ t := by
  rw [bind_apply]
  cases houtcome : (m s).outcome with
  | done a => exact ⟨_, by rw [Run.andThen_of_done houtcome]⟩
  | halt why =>
      refine ⟨[], ?_⟩
      rw [Run.andThen_of_halt houtcome, List.append_nil]

theorem Twin.bind {P : α → β → Prop} {Q : γ → δ → Prop} {m : Prog I σ α}
    {n : Prog I τ β} {f : α → Prog I σ γ} {f' : β → Prog I τ δ}
    (hm : Twin view P m n) (hf : ∀ a b, P a b → Twin view Q (f a) (f' b)) :
    Twin view Q (m >>= f) (n >>= f') := by
  refine ⟨fun s t => ?_⟩
  rcases hm.run s t with hparted | ⟨hsame, hends⟩
  · obtain ⟨u, hu⟩ := exists_trace_bind m f s
    obtain ⟨u', hu'⟩ := exists_trace_bind n f' t
    rw [hu, hu', sights_append, sights_append]
    exact Or.inl (hparted.before _ _)
  rw [bind_apply, bind_apply]
  generalize hm' : (m s).outcome = outcome at hends
  generalize hn' : (n t).outcome = outcome' at hends
  cases hends with
  | halt why why' =>
      rw [Run.andThen_of_halt hm', Run.andThen_of_halt hn']
      exact Or.inr ⟨hsame, .halt why why'⟩
  | done hP =>
      rename_i a b
      rw [Run.andThen_of_done hm', Run.andThen_of_done hn', sights_append,
        sights_append, hsame]
      rcases (hf a b hP).run (m s).world (n t).world with
        hparted | ⟨hsame', hends'⟩
      · exact Or.inl (hparted.after _)
      · exact Or.inr ⟨congrArg _ hsame', hends'⟩

theorem Twin.mono {P : α → β → Prop} {m : Prog I σ α} {n : Prog I τ β}
    (hm : Twin view P m n) (h : ∀ a b, P a b → Q a b) : Twin view Q m n := by
  refine ⟨fun s t => (hm.run s t).imp_right ?_⟩
  exact fun hsame => ⟨hsame.1, hsame.2.mono h⟩

theorem Twin.ite {c c' : Prop} [Decidable c] [Decidable c']
    {m m' : Prog I σ α} {n n' : Prog I τ β} (hc : c ↔ c')
    (hm : c → Twin view Q m n) (hn : ¬c → Twin view Q m' n') :
    Twin view Q (if c then m else m') (if c' then n else n') := by
  by_cases h : c
  · rw [if_pos h, if_pos (hc.mp h)]
    exact hm h
  · rw [if_neg h, if_neg (mt hc.mpr h)]
    exact hn h

theorem Twin.onlyIf {c : Prop} [Decidable c] {m : Prog I σ Unit}
    {n : Prog I τ Unit} {Q : Unit → Unit → Prop} (hm : c → Twin view Q m n)
    (hQ : Q () ()) :
    Twin view Q (Program.onlyIf c m) (Program.onlyIf c n) :=
  Twin.ite Iff.rfl hm fun _ => Twin.pure hQ

theorem Twin.discard {m : Prog I σ α} {n : Prog I τ β}
    {P : PUnit → PUnit → Prop} (hm : Twin view Q m n) (hP : P ⟨⟩ ⟨⟩) :
    Twin view P (Functor.discard m) (Functor.discard n) :=
  hm.bind fun _ _ _ => Twin.pure hP

/-- A loop over the same list. -/
theorem Twin.foldlM {R : α → β → Prop} {f : α → γ → Prog I σ α}
    {f' : β → γ → Prog I τ β}
    (hround : ∀ a b x, R a b → Twin view R (f a x) (f' b x)) (xs : List γ)
    {a : α} {b : β} (hR : R a b) :
    Twin view R (xs.foldlM f a) (xs.foldlM f' b) := by
  induction xs generalizing a b with
  | nil => exact Twin.pure hR
  | cons x xs ih =>
      rw [List.foldlM_cons, List.foldlM_cons]
      exact (hround a b x hR).bind fun _ _ hR' => ih hR'

/-- A step that the observer does not see and that always ends. -/
def Hidden (view : Event I → List (Sight S K T)) (m : Prog I σ α) : Prop :=
  ∀ s, sights view (m s).trace = [] ∧ ∃ a, (m s).outcome = .done a

theorem Hidden.pure {a : α} : Hidden view (Pure.pure a : Prog I σ α) :=
  fun _ => ⟨rfl, a, rfl⟩

theorem Hidden.call [Surroundings I σ] {c : I.Call}
    (h : ∀ r, view (.call c r) = []) :
    Hidden view (Program.call c : Prog I σ (I.Resp c)) := by
  intro s
  refine ⟨?_, _, rfl⟩
  simp only [Program.call, sights, List.flatMap_singleton, h]

/-- Steps that are not seen need not be the same. -/
theorem Hidden.twin {m : Prog I σ α} {n : Prog I τ β} (hm : Hidden view m)
    (hn : Hidden view n) : Twin view (fun _ _ => True) m n := by
  refine ⟨fun s t => ?_⟩
  obtain ⟨hm', a, ha⟩ := hm s
  obtain ⟨hn', b, hb⟩ := hn t
  rw [hm', hn', ha, hb]
  exact Or.inr ⟨rfl, .done trivial⟩

end Twins

end EzspSpi.Program
