import EzspSpi.Host.Kernel

/-!
# Line settings

Which GPIO line has which role: the defaults of `config.c`, the options `main`
accepts for them, and the board table of `board.c`, which fills in what no
option has set.
-/

namespace EzspSpi

open Program

variable {σ : Type} [Kernel σ]

/-! ## Numbers on the command line -/

/-- The bytes of a C string. -/
def ascii (s : String) : List Byte :=
  s.toList.map fun c => BitVec.ofNat 8 c.toNat

/-- A text by its characters, which is how a literal is given. -/
theorem ascii_ofList (cs : List Char) :
    ascii (String.ofList cs) = cs.map fun c => BitVec.ofNat 8 c.toNat := by
  rw [ascii, String.toList_ofList]

def isSpace (c : Byte) : Bool := c = 0x20 || 0x09 ≤ c && c ≤ 0x0D

/-- What a digit or a letter stands for. -/
def digitValue (c : Byte) : Option ℕ :=
  if 0x30 ≤ c ∧ c ≤ 0x39 then some (c.toNat - 0x30)
  else if 0x61 ≤ c ∧ c ≤ 0x7A then some (c.toNat - 0x61 + 10)
  else if 0x41 ≤ c ∧ c ≤ 0x5A then some (c.toNat - 0x41 + 10)
  else none

/-- The number in front of `s`, up to the first byte that is no digit. -/
def number (base : ℕ) (s : List Byte) : ℕ :=
  go 0 s
where
  go (acc : ℕ) : List Byte → ℕ
  | [] => acc
  | c :: s =>
      match digitValue c with
      | some d => if d < base then go (acc * base + d) s else acc
      | none => acc

/-- A leading minus sign, and what follows the sign. -/
def signed (s : List Byte) : Bool × List Byte :=
  match s.dropWhile isSpace with
  | 0x2D :: s => (true, s)
  | 0x2B :: s => (false, s)
  | s => (false, s)

/-- The base a number is written in, and its digits. -/
def radix (s : List Byte) : ℕ × List Byte :=
  match s with
  | 0x30 :: x :: c :: s' =>
      if (x = 0x78 ∨ x = 0x58) ∧ (digitValue c).any (· < 16) then (16, c :: s')
      else (8, s)
  | 0x30 :: _ => (8, s)
  | _ => (10, s)

/-- The `unsigned long` of 32 bits for a number and its sign; one that is too
large becomes the largest. -/
def unsignedLong (minus : Bool) (n : ℕ) : BitVec 32 :=
  if n ≥ 2 ^ 32 then BitVec.allOnes 32
  else if minus then -BitVec.ofNat 32 n
  else BitVec.ofNat 32 n

/-- `strtoul(s, NULL, 0)`. -/
def strtoul (s : List Byte) : BitVec 32 :=
  let (minus, s) := signed s
  let (base, digits) := radix s
  unsignedLong minus (number base digits)

/-- `strtoul(s, NULL, 10)`. -/
def strtoulDecimal (s : List Byte) : BitVec 32 :=
  let (minus, s) := signed s
  unsignedLong minus (number 10 s)

/-- `strtol(s, NULL, 10)` for a `long` of 32 bits. -/
def strtolDecimal (s : List Byte) : BitVec 32 :=
  let (minus, s) := signed s
  let n := number 10 s
  if minus then -BitVec.ofNat 32 (min n (2 ^ 31))
  else BitVec.ofNat 32 (min n (2 ^ 31 - 1))

/-! ## The settings -/

/-- The settings of `struct cfg` that concern the lines.  Nothing but the
defaults sets `cs_set`. -/
structure LineCfg where
  resetLine : BitVec 32
  wakeLine : BitVec 32
  intLine : BitVec 32
  nsselIntLine : BitVec 32
  resetSet : Bool
  wakeSet : Bool
  intSet : Bool
  nsselIntSet : Bool
  csSet : Bool
  csLine : BitVec 32
  nsselIntMode : List Byte
  deriving DecidableEq, Repr

def defaultLines : LineCfg where
  resetLine := 49
  wakeLine := 31
  intLine := 50
  nsselIntLine := 29
  resetSet := false
  wakeSet := false
  intSet := false
  nsselIntSet := false
  csSet := false
  csLine := 45
  nsselIntMode := ascii "follow"

/-- An option of the command line with its argument. -/
structure Setting where
  name : String
  optarg : List Byte

/-- The rows of `opts` for the lines, with the value `getopt_long` returns. -/
def opts : List (String × ℕ) :=
  [("reset", 3), ("wake", 4), ("int", 5), ("nssel-int", 7),
    ("nssel-int-mode", 8), ("aux", 7), ("aux-mode", 8),
    -- former names, for configs written against the old flags
    ("ncs", 7), ("ncs-mode", 8)]

/-- The cases of the `switch` of `main` for these rows. -/
def applySetting (cfg : LineCfg) (s : Setting) : LineCfg :=
  match opts.lookup s.name with
  | some 3 => { cfg with resetLine := strtoul s.optarg, resetSet := true }
  | some 4 => { cfg with wakeLine := strtoul s.optarg, wakeSet := true }
  | some 5 => { cfg with intLine := strtoul s.optarg, intSet := true }
  | some 7 => { cfg with nsselIntLine := strtoul s.optarg, nsselIntSet := true }
  | some 8 => { cfg with nsselIntMode := s.optarg }
  | _ => cfg

def parseSettings (settings : List Setting) : LineCfg :=
  settings.foldl applySetting defaultLines

/-! ## The board -/

/-- A row of the board table; `pattern` is its `match`, and the texts for the
messages are left out. -/
structure Board where
  pattern : List Byte
  reset : BitVec 32
  wake : BitVec 32
  hostint : BitVec 32
  nsselInt : BitVec 32
  nssel : BitVec 32
  /-- The line that must never be driven, 0 for none. -/
  forbid : BitVec 32
  deriving DecidableEq, Repr

def boards : List Board :=
  [⟨ascii "whw03v2", 49, 31, 50, 29, 45, 0⟩,
    ⟨ascii "whw03", 49, 55, 50, 56, 45, 29⟩]

/-- `fgets` into `name[64]`: the first line, cut to 63 bytes, up to a NUL. -/
def fgetsName (content : List Byte) : List Byte :=
  let line := content.takeWhile (· ≠ 0x0A)
  let rest := (content.drop line.length).take 1
  ((line ++ rest).take 63).takeWhile (· ≠ 0)

/-- `board_detect` on the content of the board name file. -/
def boardDetect (content : Option (List Byte)) : Option Board :=
  content.bind fun content =>
    boards.find? fun b => decide (b.pattern <:+: fgetsName content)

/-- The lines of a board in place of those no option has set. -/
def boardLines (b : Board) (cfg : LineCfg) : LineCfg :=
  { cfg with
    resetLine := if cfg.resetSet then cfg.resetLine else b.reset
    wakeLine := if cfg.wakeSet then cfg.wakeLine else b.wake
    intLine := if cfg.intSet then cfg.intLine else b.hostint
    nsselIntLine := if cfg.nsselIntSet then cfg.nsselIntLine else b.nsselInt
    csLine := if cfg.csSet then cfg.csLine else b.nssel }

/-- Whether `pins_autodetect` refuses to drive nSSEL_INT. -/
def Refused (b : Board) (cfg : LineCfg) : Prop :=
  b.forbid ≠ 0 ∧ cfg.nsselIntLine = b.forbid ∧
    cfg.nsselIntMode ≠ ascii "input"

instance (b : Board) (cfg : LineCfg) : Decidable (Refused b cfg) :=
  inferInstanceAs (Decidable (_ ∧ _))

/-- `pins_autodetect` once it has read the name file. -/
def pinsSettle (cfg : LineCfg) (content : Option (List Byte)) :
    Host σ LineCfg :=
  match boardDetect content with
  | none => pure cfg
  | some b =>
      if Refused b (boardLines b cfg) then die else pure (boardLines b cfg)

def pinsAutodetect (cfg : LineCfg) : Host σ LineCfg := do
  let content ← call (I := host) .boardName
  pinsSettle cfg content

end EzspSpi
