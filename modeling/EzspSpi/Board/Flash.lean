import EzspSpi.Board.Settings
import EzspSpi.Core.Shell

/-!
# The flash script

`ezsp-spi-flash`: it stops the router service, which holds the radio, has the
vendor's own tool transfer an image, and owes the node a restart from then on.
A `teardown` that the exit trap shares undoes what the script has set up and
restarts the service.

Every command of the script is a step, and a command that stands in two places
is two steps, so what becomes of each is free.  A message of several lines is
one step.
-/

namespace EzspSpi.Flash

open Shell

/-- Who calls `teardown`. -/
inductive Caller where
  | script
  | trap
  deriving DecidableEq, Repr

/-- The mount points under `$ROOT`. -/
inductive Place where
  | gpio
  | sys
  | proc
  | dev
  deriving DecidableEq, Repr

inductive Applet where
  | sh
  | sleep
  | echo
  | cat
  | ls
  | grep
  | sed
  deriving DecidableEq, Repr

inductive Message where
  | usage
  | noImage
  | noTarball
  | stopping
  | checking
  | refusing
  | preparing
  | unrecognised
  | board
  | untested
  | cannotExport (g : ℕ)
  | transferring
  | transferred
  | standing (who : Caller)
  | restarting (who : Caller)
  | adopted
  | blank
  | survived
  | notJoined
  | running
  deriving DecidableEq, Repr

inductive Step where
  | say (m : Message)
  | imageGiven
  | imageExists
  | tarballExists
  /-- `/etc/init.d/ezsp-spi stop` -/
  | stop
  /-- `/etc/init.d/ezsp-spi start` -/
  | start
  /-- `"$BIN" info` -/
  | info
  | sleepStopped
  | verify
  | mkdirRoot
  | cdRoot
  | hasTool
  | untar
  | chmodTools
  | mkdirTree
  | linkApplet (a : Applet)
  /-- `grep -q " $ROOT/... " /proc/mounts` before the mount -/
  | bound (p : Place)
  | mount (p : Place)
  | readBoard
  | writeSyscfg
  | chmodSyscfg
  /-- `[ -d "/sys/class/gpio/gpio$g" ]` before the export -/
  | exported (g : ℕ)
  | doExport (g : ℕ)
  /-- and after it -/
  | exportedNow (g : ℕ)
  | setDirection
  | setValue
  | cdGpio
  /-- `ln -sf $P/gpio$line gpio$name` -/
  | linkGpio (line name : ℕ)
  | cdBack
  | copyImage
  | transfer
  | mounted (who : Caller) (p : Place)
  | umount (who : Caller) (p : Place)
  | umountLazy (who : Caller) (p : Place)
  | sleepUnmounted (who : Caller)
  | stillMounted (who : Caller)
  | rmTree (who : Caller)
  | unexport (g : ℕ)
  | showInfo
  | readVersion
  | versionKnown
  | versionDiffers
  | uciSet
  | uciCommit
  | joined
  deriving DecidableEq, Repr

/-- The variable that outlives the commands around it. -/
structure Vars where
  stoppedService : Bool
  deriving DecidableEq, Repr

/-- What the script finds: which of its steps succeed, and `$BOARD`. -/
structure Machine where
  ok : Step → Bool
  board : List Byte

/-! ## The script -/

/-- A message, and the end. -/
def refuse (m : Message) : Cmd Step Vars := .block [.run (.say m), .exit]

def checkArguments : Cmd Step Vars := .block [
  .either (.run .imageGiven) (refuse .usage),
  .either (.run .imageExists) (refuse .noImage),
  .either (.run .tarballExists) (refuse .noTarball)]

/-- `teardown` up to the restart. -/
def dismantle (who : Caller) : Cmd Step Vars := .block [
  .forEach [Place.gpio, .sys, .proc, .dev] fun p => .block [
    .either (.run (.mounted who p)) .next,
    .either (.run (.umount who p)) (.run (.umountLazy who p))],
  .run (.sleepUnmounted who),
  .ite (.run (.stillMounted who))
    (.run (.say (.standing who)))
    (.run (.rmTree who)),
  .forEach [541, 543, 557, 561, 562, 567, 568] fun g =>
    .either (.run (.unexport g)) .skip]

def restart (who : Caller) : Cmd Step Vars :=
  .both (.test fun v => v.stoppedService) (.block [
    .run (.say (.restarting who)),
    .either (.run .start) .skip])

def teardown (who : Caller) : Cmd Step Vars :=
  .block [dismantle who, restart who, .skip]

def checkImage : Cmd Step Vars := .block [
  .run .sleepStopped,
  .run (.say .checking),
  .either (.run .verify) (refuse .refusing)]

def mountOnce (p : Place) : Cmd Step Vars :=
  .either (.run (.bound p)) (.run (.mount p))

def prepareRoot : Cmd Step Vars := .block [
  .run (.say .preparing),
  .run .mkdirRoot,
  .run .cdRoot,
  .either (.run .hasTool) (.run .untar),
  .either (.run .chmodTools) .skip,
  .run .mkdirTree,
  .forEach [Applet.sh, .sleep, .echo, .cat, .ls, .grep, .sed] fun a =>
    .run (.linkApplet a),
  mountOnce .dev,
  mountOnce .proc,
  mountOnce .sys]

/-- `HW`, `WAKE` and `NCS` -/
structure Hardware where
  revision : ℕ
  wake : ℕ
  ncs : ℕ
  deriving DecidableEq, Repr

/-- `case "$BOARD" in` -/
def hardware (board : List Byte) : Option Hardware :=
  if ascii "whw03v2" <:+: board then some ⟨2, 31, 29⟩
  else if ascii "whw03" <:+: board then some ⟨1, 55, 56⟩
  else none

/-- `S_WAKE` and `S_NCS`: the sysfs number of a line. -/
def sysfs (line : ℕ) : ℕ := line + 512

def exportLine (g : ℕ) : Cmd Step Vars := .block [
  .both (.run (.exported g)) .next,
  .either (.run (.doExport g)) .skip,
  .either (.run (.exportedNow g)) (refuse (.cannotExport g))]

/-- Everything between the board's revision and the transfer. -/
def takeLines (hw : Hardware) : Cmd Step Vars := .block [
  .run (.say .board),
  .both (.test fun _ => hw.revision == 1) (.run (.say .untested)),
  .run .writeSyscfg,
  .run .chmodSyscfg,
  .forEach [sysfs hw.ncs, sysfs hw.wake, 557, 561, 562] exportLine,
  .either (.run .setDirection) .skip,
  .either (.run .setValue) .skip,
  mountOnce .gpio,
  .run .cdGpio,
  .run (.linkGpio (sysfs hw.ncs) hw.ncs),
  .run (.linkGpio (sysfs hw.wake) hw.wake),
  .run (.linkGpio 557 45),
  .run (.linkGpio 561 49),
  .run (.linkGpio 562 50),
  .run .cdBack]

def readHardware (board : List Byte) : Cmd Step Vars := .block [
  .run .readBoard,
  match hardware board with
  | some hw => takeLines hw
  | none => refuse .unrecognised]

def transferImage : Cmd Step Vars := .block [
  .run .copyImage,
  .run (.say .transferring),
  .run .transfer,
  .run (.say .transferred)]

/-- What needs the service stopped. -/
def flashImage (board : List Byte) : Cmd Step Vars :=
  .block [checkImage, prepareRoot, readHardware board, transferImage]

/-- What follows the transfer, without the trap. -/
def report : Cmd Step Vars := .block [
  .either (.run .info) .skip,
  .either (.run .showInfo) .skip,
  .run .readVersion,
  .ite (.both (.run .versionKnown) (.run .versionDiffers))
    (.block [.run .uciSet, .run .uciCommit, .run (.say .adopted)])
    .skip,
  .run (.say .blank),
  .ite (.run .joined) (.run (.say .survived)) (.run (.say .notJoined)),
  .assign fun v => { v with stoppedService := false },
  .either (.run .start) .skip,
  .run (.say .running)]

def flash (board : List Byte) : Cmd Step Vars := .block [
  checkArguments,
  .trap true,
  .run (.say .stopping),
  .either (.run .stop) .skip,
  .assign fun v => { v with stoppedService := true },
  flashImage board,
  teardown .script,
  .trap false,
  report]

/-- The steps a run of the script takes, the trap's among them. -/
def Machine.trace (m : Machine) : List Step :=
  traceOf m.ok (teardown .trap) (flash m.board) ⟨false⟩

end EzspSpi.Flash
