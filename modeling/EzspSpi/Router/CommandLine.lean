import EzspSpi.Core.GetOpt
import EzspSpi.Router.Ezsp
import EzspSpi.Router.IdOption
import EzspSpi.Router.Neighbors

/-!
# The command line

The options of `main`, and the settings that it takes from a command line.
-/

namespace EzspSpi

open GetOpt

/-! ## The options of `main` -/

/-- `struct cfg` as far as options set it, and `reverse_ext_pan_id`. -/
structure Settings where
  spidev : List Byte
  gpiochip : List Byte
  lines : LineCfg
  speed : BitVec 32
  gapUs : BitVec 32
  waitBytes : BitVec 32
  wakeHandshake : Bool
  router : RouterCfg
  extPanId : List Byte
  haveExtPanId : Bool
  reverseExtPanId : Bool
  sockPath : List Byte
  bindAddr : List Byte
  bridgePort : BitVec 32
  verbose : Bool
  deriving DecidableEq

/-- The initial contents of `cfg`. -/
def defaultSettings : Settings where
  spidev := ascii "/dev/spidev1.0"
  gpiochip := ascii "/dev/gpiochip0"
  lines := defaultLines
  speed := 1000000
  gapUs := 2000
  waitBytes := 512
  wakeHandshake := true
  router := defaultCfg
  extPanId := List.replicate 8 0
  haveExtPanId := false
  reverseExtPanId := false
  sockPath := ascii "/var/run/ezsp-spi.sock"
  bindAddr := ascii "0.0.0.0"
  bridgePort := 8888
  verbose := false

/-- The rows of `opts`: the name, whether an argument is required, and the
value. -/
def longOptions : List (String × Bool × ℕ) :=
  [("spidev", true, 1), ("chip", true, 2), ("reset", true, 3),
    ("wake", true, 4), ("int", true, 5), ("nssel-int", true, 7),
    ("nssel-int-mode", true, 8), ("aux", true, 7), ("aux-mode", true, 8),
    ("ncs", true, 7), ("ncs-mode", true, 8), ("speed", true, 9),
    ("gap-us", true, 13), ("no-reset", false, 14), ("no-wake", false, 16),
    ("wait-bytes", true, 19), ("channel", true, 20), ("pan-id", true, 21),
    ("ext-pan-id", true, 22), ("reverse-ext-pan-id", false, 23),
    ("tx-power", true, 24), ("sec-bitmask", true, 25),
    ("join-timeout", true, 26), ("join-retries", true, 29),
    ("report-secs", true, 30), ("no-precheck", false, 27),
    ("ezsp-version", true, 31), ("port", true, 33), ("bind", true, 34),
    ("socket", true, 28), ("help", false, 0x68)]

def optionTable : Table Byte ℕ where
  dash := 0x2D
  equals := 0x3D
  longs := longOptions.map fun row => ⟨ascii row.1, row.2.1, row.2.2⟩
  shorts := [(0x76, 0x76), (0x68, 0x68)]

/-- `strtol(s, NULL, 0)` for a `long` of 32 bits. -/
def strtol (s : List Byte) : BitVec 32 :=
  let (minus, s) := signed s
  let (base, digits) := radix s
  let n := number base digits
  if minus then -BitVec.ofNat 32 (min n (2 ^ 31))
  else BitVec.ofNat 32 (min n (2 ^ 31 - 1))

/-- The `switch` of `main`; an exit has its status. -/
def applyOption (s : Settings) (val : ℕ) (optarg : List Byte) :
    Except ℕ Settings :=
  match val with
  | 33 => .ok { s with bridgePort := strtoul optarg }
  | 34 => .ok { s with bindAddr := optarg }
  | 1 => .ok { s with spidev := optarg }
  | 2 => .ok { s with gpiochip := optarg }
  | 3 =>
      .ok { s with
        lines.resetLine := strtoul optarg
        lines.resetSet := true }
  | 4 =>
      .ok { s with
        lines.wakeLine := strtoul optarg
        lines.wakeSet := true }
  | 5 =>
      .ok { s with
        lines.intLine := strtoul optarg
        lines.intSet := true }
  | 7 =>
      .ok { s with
        lines.nsselIntLine := strtoul optarg
        lines.nsselIntSet := true }
  | 8 => .ok { s with lines.nsselIntMode := optarg }
  | 9 => .ok { s with speed := strtoul optarg }
  | 13 => .ok { s with gapUs := strtoul optarg }
  | 14 => .ok { s with router.noReset := true }
  | 16 => .ok { s with wakeHandshake := false }
  | 19 => .ok { s with waitBytes := strtoul optarg }
  | 20 => .ok { s with router.channel := strtoul optarg }
  | 21 =>
      .ok { s with
        router.panId := (strtoul optarg).setWidth 16
        router.havePanId := true }
  | 22 =>
      match parseExtPanId optarg with
      | .ok ids => .ok { s with extPanId := ids, haveExtPanId := true }
      | .error _ => .error 1
  | 23 => .ok { s with reverseExtPanId := true }
  | 24 => .ok { s with router.txPower := strtol optarg }
  | 25 => .ok { s with router.secBitmask := (strtoul optarg).setWidth 16 }
  | 26 => .ok { s with router.joinTimeout := strtoul optarg }
  | 29 => .ok { s with router.joinRetries := strtoul optarg }
  | 30 => .ok { s with router.reportSecs := strtoul optarg }
  | 27 => .ok { s with router.noPrecheck := true }
  | 31 => .ok { s with router.ezspWant := strtoul optarg }
  | 28 => .ok { s with sockPath := optarg }
  | 0x76 => .ok { s with verbose := true }
  | 0x68 => .error 0
  | _ => .error 1

/-- What `getopt_long` returns is dealt with in order. -/
def applyFound (s : Settings) : Found Byte ℕ → Except ℕ Settings
  | none => .error 1
  | some (val, optarg) => applyOption s val (optarg.getD [])

/-- The swaps of the bytes of `cfg.ext_pan_id`. -/
def reverseIds (s : Settings) : Settings :=
  if s.reverseExtPanId then { s with extPanId := s.extPanId.reverse } else s

/-- `main` on the words after the command: the settings and the positional
argument that the command gets, or the status that it exits with. -/
def parseArgs (words : List (List Byte)) :
    Except ℕ (Settings × Option (List Byte)) := do
  let (found, others) := optionTable.scan none words
  let s ← found.foldlM applyFound defaultSettings
  .ok (reverseIds s, others.head?)

/-- The line options are those of `parseSettings`. -/
theorem applyOption_lines (s : Settings) {name : String} {val : ℕ}
    (hname : (name, val) ∈ opts) (optarg : List Byte) :
    applyOption s val optarg =
      .ok { s with lines := applySetting s.lines ⟨name, optarg⟩ } := by
  simp only [opts, List.mem_cons, Prod.mk.injEq, List.not_mem_nil,
    or_false] at hname
  rcases hname with ⟨rfl, rfl⟩ | ⟨rfl, rfl⟩ | ⟨rfl, rfl⟩ | ⟨rfl, rfl⟩ |
    ⟨rfl, rfl⟩ | ⟨rfl, rfl⟩ | ⟨rfl, rfl⟩ | ⟨rfl, rfl⟩ | ⟨rfl, rfl⟩ <;> rfl

/-- Options and other words, however they are written. -/
theorem parseArgs_writes {options : List (ℕ × Option (List Byte))}
    {others words : List (List Byte)}
    (h : optionTable.Writes options others words) :
    parseArgs words =
      options.foldlM
        (fun s option => applyOption s option.1 (option.2.getD []))
        defaultSettings >>= fun s => .ok (reverseIds s, others.head?) := by
  rw [parseArgs, h.scan]
  dsimp only
  rw [List.foldlM_map]
  rfl

end EzspSpi
