import Mathlib.Data.List.Basic
import Mathlib.Data.List.TakeWhile
import Mathlib.Tactic.Common

/-!
# Options on a command line

What `getopt_long` makes of a list of words: the options in the order in which
they come, each with its argument, and the words that are none.  A relation
says how options and other words may be written; however they are written, they
are read back.
-/

namespace EzspSpi.GetOpt

variable {α ν : Type} [DecidableEq α]

/-- A long option, and what is returned for it. -/
structure Long (α ν : Type) where
  name : List α
  takes : Bool
  val : ν
  deriving DecidableEq

/-- The options of a program; the short ones take no argument. -/
structure Table (α ν : Type) where
  dash : α
  equals : α
  longs : List (Long α ν)
  shorts : List (α × ν)

/-- An option with its argument; `none` is returned for what is no option. -/
abbrev Found (α ν : Type) := Option (ν × Option (List α))

/-- What a word says. -/
inductive Reading (α ν : Type) where
  | last
  | positional
  | found (options : List (Found α ν))
  | awaits (val : ν)

namespace Table

variable (t : Table α ν)

/-- The long option of this name, or the only one whose name starts so. -/
def lookup (name : List α) : Option (Long α ν) :=
  match t.longs.find? fun l => decide (l.name = name) with
  | some l => some l
  | none =>
      match t.longs.filter fun l => decide (name <+: l.name) with
      | [l] => some l
      | _ => none

/-- A word after its two dashes. -/
def readLong (body : List α) : Reading α ν :=
  let name := body.takeWhile fun c => decide (c ≠ t.equals)
  match t.lookup name with
  | none => .found [none]
  | some l =>
      if t.equals ∈ body then
        if l.takes then
          .found [some (l.val, some (body.drop (name.length + 1)))]
        else .found [none]
      else if l.takes then .awaits l.val
      else .found [some (l.val, none)]

/-- The letters after one dash. -/
def readShorts (letters : List α) : List (Found α ν) :=
  letters.map fun c => (t.shorts.lookup c).map fun val => (val, none)

def read : List α → Reading α ν
  | c :: d :: rest =>
      if c = t.dash then
        if d = t.dash then if rest = [] then .last else t.readLong rest
        else .found (t.readShorts (d :: rest))
      else .positional
  | _ => .positional

/-- All words, the first of which may be the argument of the option before. -/
def scan : Option ν → List (List α) → List (Found α ν) × List (List α)
  | none, [] => ([], [])
  | some _, [] => ([none], [])
  | some val, word :: words =>
      let later := scan none words
      (some (val, some word) :: later.1, later.2)
  | none, word :: words =>
      match t.read word with
      | .last => ([], words)
      | .positional =>
          let later := scan none words
          (later.1, word :: later.2)
      | .found options =>
          let later := scan none words
          (options ++ later.1, later.2)
      | .awaits val => scan (some val) words

/-! ## How options are written -/

/-- A row of the table that its name leads to. -/
structure Names (l : Long α ν) : Prop where
  found : t.longs.find? (fun l' => decide (l'.name = l.name)) = some l
  ne_nil : l.name ≠ []
  plain : t.equals ∉ l.name

/-- The words for these options and these other words. -/
inductive Writes : List (ν × Option (List α)) → List (List α) →
    List (List α) → Prop
  | done : Writes [] [] []
  | ended (others : List (List α)) :
      Writes [] others ([t.dash, t.dash] :: others)
  | positional {options : List (ν × Option (List α))}
      {others words : List (List α)} {word : List α}
      (hword : word.head? ≠ some t.dash ∨ word = [t.dash])
      (hlater : Writes options others words) :
      Writes options (word :: others) (word :: words)
  | flag {l : Long α ν} {options : List (ν × Option (List α))}
      {others words : List (List α)} (hl : t.Names l)
      (htakes : l.takes = false) (hlater : Writes options others words) :
      Writes ((l.val, none) :: options) others
        ((t.dash :: t.dash :: l.name) :: words)
  | letter {c : α} {val : ν} {options : List (ν × Option (List α))}
      {others words : List (List α)} (hc : c ≠ t.dash)
      (hval : t.shorts.lookup c = some val)
      (hlater : Writes options others words) :
      Writes ((val, none) :: options) others ([t.dash, c] :: words)
  | separate {l : Long α ν} {options : List (ν × Option (List α))}
      {others words : List (List α)} (hl : t.Names l)
      (htakes : l.takes = true) (arg : List α)
      (hlater : Writes options others words) :
      Writes ((l.val, some arg) :: options) others
        ((t.dash :: t.dash :: l.name) :: arg :: words)
  | joined {l : Long α ν} {options : List (ν × Option (List α))}
      {others words : List (List α)} (hl : t.Names l)
      (htakes : l.takes = true) (arg : List α)
      (hlater : Writes options others words) :
      Writes ((l.val, some arg) :: options) others
        ((t.dash :: t.dash :: (l.name ++ t.equals :: arg)) :: words)

variable {t}

theorem Names.lookup {l : Long α ν} (hl : t.Names l) :
    t.lookup l.name = some l := by
  rw [Table.lookup, hl.found]

theorem Names.takeWhile {l : Long α ν} (hl : t.Names l) (rest : List α)
    (hrest : ∀ c ∈ rest.head?, c = t.equals) :
    (l.name ++ rest).takeWhile (fun c => decide (c ≠ t.equals)) = l.name := by
  have hall : ∀ c ∈ l.name, decide (c ≠ t.equals) = true := by
    intro c hc
    exact decide_eq_true fun heq => hl.plain (heq ▸ hc)
  rw [List.takeWhile_append_of_pos hall]
  cases rest with
  | nil => simp
  | cons c rest =>
      rw [List.takeWhile_cons_of_neg, List.append_nil]
      simp [hrest c rfl]

theorem Names.read {l : Long α ν} (hl : t.Names l) (rest : List α) :
    t.read (t.dash :: t.dash :: (l.name ++ rest)) =
      t.readLong (l.name ++ rest) := by
  have hne : l.name ++ rest ≠ [] :=
    List.append_ne_nil_of_left_ne_nil hl.ne_nil rest
  rw [Table.read, if_pos rfl, if_pos rfl, if_neg hne]

theorem Names.readLong {l : Long α ν} (hl : t.Names l) :
    t.readLong l.name =
      if l.takes then .awaits l.val else .found [some (l.val, none)] := by
  have hname := hl.takeWhile [] nofun
  rw [List.append_nil] at hname
  rw [Table.readLong, hname, hl.lookup]
  exact if_neg hl.plain

theorem Names.readLong_joined {l : Long α ν} (hl : t.Names l)
    (htakes : l.takes = true) (arg : List α) :
    t.readLong (l.name ++ t.equals :: arg) =
      .found [some (l.val, some arg)] := by
  have hname := hl.takeWhile (t.equals :: arg) fun c hc =>
    (Option.some.inj hc).symm
  have hmem : t.equals ∈ l.name ++ t.equals :: arg := by simp
  have hdrop : (l.name ++ t.equals :: arg).drop (l.name.length + 1) = arg := by
    simp
  rw [Table.readLong, hname, hl.lookup, hdrop]
  exact (if_pos hmem).trans (if_pos htakes)

theorem read_of_other {word : List α}
    (hword : word.head? ≠ some t.dash ∨ word = [t.dash]) :
    t.read word = .positional := by
  match word with
  | [] => rfl
  | [c] => rfl
  | c :: d :: rest =>
      have hc : c ≠ t.dash := by simpa using hword
      rw [Table.read, if_neg hc]

/-- Options and other words are read back, however they are written. -/
theorem Writes.scan {options : List (ν × Option (List α))}
    {others words : List (List α)} (h : t.Writes options others words) :
    t.scan none words = (options.map some, others) := by
  induction h with
  | done => rfl
  | ended others =>
      rw [Table.scan, Table.read, if_pos rfl, if_pos rfl, if_pos rfl]
      rfl
  | positional hword hlater ih =>
      rw [Table.scan, read_of_other hword, ih]
  | flag hl htakes hlater ih =>
      have hread := hl.read []
      rw [List.append_nil, hl.readLong, htakes, if_neg Bool.false_ne_true]
        at hread
      rw [Table.scan, hread, ih]
      rfl
  | letter hc hval hlater ih =>
      rw [Table.scan, Table.read, if_pos rfl, if_neg hc, Table.readShorts,
        List.map_singleton, hval, ih]
      rfl
  | @separate l options others words hl htakes arg hlater ih =>
      have hread := hl.read []
      rw [List.append_nil, hl.readLong, if_pos htakes] at hread
      have hargument : t.scan (some l.val) (arg :: words) =
          (some (l.val, some arg) :: options.map some, others) := by
        rw [Table.scan, ih]
      rw [Table.scan, hread]
      exact hargument
  | joined hl htakes arg hlater ih =>
      rw [Table.scan, hl.read, hl.readLong_joined htakes, ih]
      rfl

end Table

end EzspSpi.GetOpt
