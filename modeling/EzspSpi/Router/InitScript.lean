import EzspSpi.Router.CommandLine

/-!
# The init script

The command lines that the init script puts together from the configuration
file, and what `main` reads from them.
-/

namespace EzspSpi

open GetOpt

/-! ## The script -/

/-- The value of an option in a section, empty for one that is not set. -/
abbrev Uci := String → String → List Byte

def configGet (u : Uci) (name option : String) (default : List Byte) :
    List Byte :=
  if u name option = [] then default else u name option

/-- The first of these options that is set. -/
def firstSet (u : Uci) (options : List String) (default : List Byte) :
    List Byte :=
  ((options.map (u "radio")).find? fun value => !value.isEmpty).getD default

/-- Where an unquoted expansion is split. -/
def isIfs (c : Byte) : Bool := isBlank c || isNewline c

/-- What makes a word a pattern, which stands for the files it matches. -/
def isGlob (c : Byte) : Bool := c = 0x2A || c = 0x3F || c = 0x5B

/-- The words of an unquoted expansion, as long as none is a pattern. -/
def fields (text : List Byte) : List (List Byte) := wordsOf isIfs text

section Script

variable (u : Uci)

def nsselInt : List Byte := firstSet u ["nssel_int", "aux"] []

def nsselIntMode : List Byte :=
  firstSet u ["nssel_int_mode", "aux_mode", "ncs_mode"] (ascii "follow")

/-- The options that are always given. -/
def radioRows : List (String × List Byte) :=
  [("spidev", configGet u "radio" "spidev" (ascii "/dev/spidev1.0")),
    ("chip", configGet u "radio" "gpiochip" (ascii "/dev/gpiochip0")),
    ("reset", configGet u "radio" "reset" (ascii "49")),
    ("int", configGet u "radio" "hostint" (ascii "50")),
    ("nssel-int-mode", nsselIntMode u),
    ("speed", configGet u "radio" "speed" (ascii "1000000")),
    ("socket",
      configGet u "radio" "socket" (ascii "/var/run/ezsp-spi.sock")),
    ("report-secs", configGet u "radio" "report_secs" (ascii "300")),
    ("ezsp-version", configGet u "radio" "ezsp_version" (ascii "4"))]

/-- Those that are given if they are set. -/
def extraRows : List (String × List Byte) :=
  (if u "radio" "wake" ≠ [] then [("wake", u "radio" "wake")] else []) ++
    if nsselInt u ≠ [] then [("nssel-int", nsselInt u)] else []

/-- An option and its value, as the text has them. -/
def optionText (row : String × List Byte) : List Byte :=
  ascii "--" ++ ascii row.1 ++ [0x20] ++ row.2

/-- What `radio_args` echoes: each option with a blank behind it, and those of
`$extra` with one in front. -/
def radioArgs : List Byte :=
  (radioRows u).flatMap (fun row => optionText row ++ [0x20]) ++
    ((extraRows u).flatMap (fun row => 0x20 :: optionText row) ++ [0x0A])

/-- The words of the command in `start_service` for the router. -/
def runWords : List (List Byte) := fields (radioArgs u)

/-- The words of the command in `start_service` for the bridge. -/
def bridgeWords : List (List Byte) :=
  [ascii "--port", configGet u "bridge" "port" (ascii "8888"),
    ascii "--bind", configGet u "bridge" "bind" (ascii "0.0.0.0")] ++
    fields (radioArgs u)

/-- The words of the command in `join`, unless it refuses. -/
def joinWords : Option (List (List Byte)) :=
  let channel := u "network" "channel"
  let panId := u "network" "pan_id"
  if configGet u "radio" "mode" (ascii "router") = ascii "bridge" then none
  else if channel = [] ∨ panId = [] then none
  else some ([ascii "--channel", channel, ascii "--pan-id", panId] ++
    fields (radioArgs u))

end Script

/-! ## The words -/

/-- The values are words to the shell, and none is a pattern. -/
def Uci.Plain (u : Uci) : Prop :=
  ∀ option, ∀ c ∈ u "radio" option, isIfs c = false ∧ isGlob c = false

/-- A row whose name and value are words to the shell. -/
def IsRow (row : String × List Byte) : Prop :=
  IsWord isIfs (ascii "--" ++ ascii row.1) ∧ IsWord isIfs row.2

/-- The words of these options. -/
def rowWords (rows : List (String × List Byte)) : List (List Byte) :=
  rows.flatMap fun row => [ascii "--" ++ ascii row.1, row.2]

theorem fields_optionText {row : String × List Byte} (hrow : IsRow row) :
    fields (optionText row) = [ascii "--" ++ ascii row.1, row.2] := by
  have hblank : isIfs 0x20 = true := rfl
  rw [fields, optionText, List.append_assoc _ [0x20], List.singleton_append,
    wordsOf_append_cons hblank, wordsOf_word hrow.1, wordsOf_word hrow.2]
  rfl

theorem fields_followed {rows : List (String × List Byte)}
    (hrows : ∀ row ∈ rows, IsRow row) (rest : List Byte) :
    fields (rows.flatMap (fun row => optionText row ++ [0x20]) ++ rest) =
      rowWords rows ++ fields rest := by
  have hblank : isIfs 0x20 = true := rfl
  induction rows with
  | nil => rfl
  | cons row rows ih =>
      obtain ⟨hrow, hrows⟩ := List.forall_mem_cons.mp hrows
      have hfields := fields_optionText hrow
      rw [fields] at hfields ih ⊢
      rw [List.flatMap_cons, List.append_assoc, List.append_assoc,
        List.singleton_append, wordsOf_append_cons hblank, ih hrows, hfields,
        rowWords, rowWords, List.flatMap_cons, List.append_assoc]

theorem fields_preceded {rows : List (String × List Byte)}
    (hrows : ∀ row ∈ rows, IsRow row) :
    fields (rows.flatMap (fun row => 0x20 :: optionText row) ++ [0x0A]) =
      rowWords rows := by
  have hblank : isIfs 0x20 = true := rfl
  have hnewline : isIfs 0x0A = true := rfl
  induction rows with
  | nil => rfl
  | cons row rows ih =>
      obtain ⟨hrow, hrows⟩ := List.forall_mem_cons.mp hrows
      have hfields := fields_optionText hrow
      have hnext : ∃ c, (rows.flatMap (fun row => 0x20 :: optionText row) ++
          [0x0A]).head? = some c ∧ isIfs c = true := by
        cases rows with
        | nil => exact ⟨0x0A, rfl, hnewline⟩
        | cons row' rows => exact ⟨0x20, rfl, hblank⟩
      obtain ⟨c, hhead, hc⟩ := hnext
      have hfirst := wordsOf_append_cons hblank [] (optionText row)
      rw [fields] at hfields ih ⊢
      rw [List.flatMap_cons, List.append_assoc,
        wordsOf_append_of_head? hhead hc, ih hrows]
      rw [List.nil_append, hfields] at hfirst
      rw [hfirst]
      rfl

section Plain

variable {u : Uci} (hu : u.Plain)

include hu

theorem isWord_of_set {option : String} (hset : u "radio" option ≠ []) :
    IsWord isIfs (u "radio" option) :=
  ⟨hset, fun c hc => (hu option c hc).1⟩

theorem isWord_configGet (option : String) {default : List Byte}
    (hdefault : IsWord isIfs default) :
    IsWord isIfs (configGet u "radio" option default) := by
  rw [configGet]
  split
  · exact hdefault
  · exact isWord_of_set hu ‹_›

theorem firstSet_cases (options : List String) (default : List Byte) :
    firstSet u options default = default ∨
      IsWord isIfs (firstSet u options default) := by
  rw [firstSet]
  cases hfind : (options.map (u "radio")).find? fun value =>
      !value.isEmpty with
  | none => exact Or.inl rfl
  | some value =>
      obtain ⟨option, -, rfl⟩ :=
        List.mem_map.mp (List.mem_of_find?_eq_some hfind)
      have hset : u "radio" option ≠ [] := by
        simpa using List.find?_some hfind
      exact Or.inr (isWord_of_set hu hset)

theorem isRow_of_mem : ∀ row ∈ radioRows u ++ extraRows u, IsRow row := by
  have hrow {name : String} {value : List Byte}
      (hname : IsWord isIfs (ascii "--" ++ ascii name))
      (hvalue : IsWord isIfs value) : IsRow (name, value) := ⟨hname, hvalue⟩
  have hget (option : String) {name : String} {default : List Byte}
      (hname : IsWord isIfs (ascii "--" ++ ascii name))
      (hdefault : IsWord isIfs default) :
      IsRow (name, configGet u "radio" option default) :=
    ⟨hname, isWord_configGet hu option hdefault⟩
  have hmode : IsWord isIfs (nsselIntMode u) := by
    rcases firstSet_cases hu ["nssel_int_mode", "aux_mode", "ncs_mode"]
      (ascii "follow") with hdefault | hword
    · rw [nsselIntMode, hdefault]
      decide
    · exact hword
  rw [List.forall_mem_append, radioRows, extraRows]
  constructor
  · simp only [List.forall_mem_cons]
    refine ⟨hget _ (by decide) (by decide), hget _ (by decide) (by decide),
      hget _ (by decide) (by decide), hget _ (by decide) (by decide),
      hrow (by decide) hmode, hget _ (by decide) (by decide),
      hget _ (by decide) (by decide), hget _ (by decide) (by decide),
      hget _ (by decide) (by decide), List.forall_mem_nil _⟩
  · rw [List.forall_mem_append]
    constructor
    · split
      · rename_i hwake
        exact List.forall_mem_singleton.mpr
          (hrow (by decide) (isWord_of_set hu hwake))
      · exact List.forall_mem_nil _
    · split
      · rename_i hset
        rcases firstSet_cases hu ["nssel_int", "aux"] [] with hnone | hword
        · exact absurd hnone hset
        · exact List.forall_mem_singleton.mpr (hrow (by decide) hword)
      · exact List.forall_mem_nil _

end Plain

/-- The words of `$(radio_args)`. -/
theorem fields_radioArgs {u : Uci} (hu : u.Plain) :
    fields (radioArgs u) = rowWords (radioRows u ++ extraRows u) := by
  have hrows := isRow_of_mem hu
  rw [radioArgs, fields_followed fun row hrow =>
      hrows row (List.mem_append_left _ hrow),
    fields_preceded fun row hrow => hrows row (List.mem_append_right _ hrow),
    rowWords, rowWords, rowWords, List.flatMap_append]

/-! ## What `main` makes of them -/

theorem names_of_mem : ∀ row ∈ longOptions,
    optionTable.Names ⟨ascii row.1, row.2.1, row.2.2⟩ := by
  have hfound : ∀ row ∈ longOptions, optionTable.longs.find?
      (fun l => decide (l.name = ascii row.1)) =
        some ⟨ascii row.1, row.2.1, row.2.2⟩ := by
    decide +kernel
  have hplain : ∀ row ∈ longOptions,
      ascii row.1 ≠ [] ∧ optionTable.equals ∉ ascii row.1 := by
    decide +kernel
  exact fun row hrow =>
    ⟨hfound row hrow, (hplain row hrow).1, (hplain row hrow).2⟩

/-- The value that stands for an option. -/
def optionValue (name : String) : ℕ :=
  ((longOptions.lookup name).map Prod.snd).getD 0

/-- An option that has an argument. -/
def TakesArgument (row : String × List Byte) : Prop :=
  (row.1, true, optionValue row.1) ∈ longOptions

/-- The words of these options, and those behind them. -/
theorem writes_rows {rows : List (String × List Byte)}
    (hrows : ∀ row ∈ rows, TakesArgument row)
    {options : List (ℕ × Option (List Byte))} {others words : List (List Byte)}
    (hlater : optionTable.Writes options others words) :
    optionTable.Writes
      (rows.map (fun row => (optionValue row.1, some row.2)) ++ options)
      others (rowWords rows ++ words) := by
  induction rows with
  | nil => exact hlater
  | cons row rows ih =>
      obtain ⟨hrow, hrows⟩ := List.forall_mem_cons.mp hrows
      exact .separate (names_of_mem _ hrow) rfl row.2 (ih hrows)

/-- What is configured for the radio, in place of what was set. -/
def radioSettings (u : Uci) (s : Settings) : Settings :=
  { s with
    spidev := configGet u "radio" "spidev" (ascii "/dev/spidev1.0")
    gpiochip := configGet u "radio" "gpiochip" (ascii "/dev/gpiochip0")
    lines := { s.lines with
      resetLine := strtoul (configGet u "radio" "reset" (ascii "49"))
      resetSet := true
      intLine := strtoul (configGet u "radio" "hostint" (ascii "50"))
      intSet := true
      wakeLine := if u "radio" "wake" ≠ [] then strtoul (u "radio" "wake")
        else s.lines.wakeLine
      wakeSet := decide (u "radio" "wake" ≠ []) || s.lines.wakeSet
      nsselIntLine := if nsselInt u ≠ [] then strtoul (nsselInt u)
        else s.lines.nsselIntLine
      nsselIntSet := decide (nsselInt u ≠ []) || s.lines.nsselIntSet
      nsselIntMode := nsselIntMode u }
    speed := strtoul (configGet u "radio" "speed" (ascii "1000000"))
    sockPath :=
      configGet u "radio" "socket" (ascii "/var/run/ezsp-spi.sock")
    router := { s.router with
      reportSecs := strtoul (configGet u "radio" "report_secs" (ascii "300"))
      ezspWant :=
        strtoul (configGet u "radio" "ezsp_version" (ascii "4")) } }

/-- These options, one after the other. -/
def applyRows (rows : List (String × List Byte)) (s : Settings) :
    Except ℕ Settings :=
  rows.foldlM (fun s row => applyOption s (optionValue row.1) row.2) s

theorem applyRows_append (rows rows' : List (String × List Byte))
    (s : Settings) :
    applyRows (rows ++ rows') s = applyRows rows s >>= applyRows rows' :=
  List.foldlM_append

theorem applyRows_cons (row : String × List Byte)
    (rows : List (String × List Byte)) (s : Settings) :
    applyRows (row :: rows) s =
      applyOption s (optionValue row.1) row.2 >>= applyRows rows :=
  List.foldlM_cons

/-- The options of `radio_args`. -/
theorem applyRows_radio (u : Uci) (s : Settings) :
    applyRows (radioRows u ++ extraRows u) s = .ok (radioSettings u s) := by
  have hvalues : ["spidev", "chip", "reset", "int", "nssel-int-mode", "speed",
      "socket", "report-secs", "ezsp-version", "wake", "nssel-int"].map
        optionValue = [1, 2, 3, 5, 8, 9, 28, 30, 31, 4, 7] := by
    decide
  simp only [List.map_cons, List.map_nil, List.cons.injEq, and_true] at hvalues
  obtain ⟨h1, h2, h3, h5, h8, h9, h28, h30, h31, h4, h7⟩ := hvalues
  have hwake (s : Settings) : applyRows (if u "radio" "wake" ≠ [] then
      [("wake", u "radio" "wake")] else []) s = .ok { s with
        lines.wakeLine := if u "radio" "wake" ≠ [] then
          strtoul (u "radio" "wake") else s.lines.wakeLine
        lines.wakeSet := decide (u "radio" "wake" ≠ []) ||
          s.lines.wakeSet } := by
    by_cases hset : u "radio" "wake" ≠ []
    · rw [if_pos hset, if_pos hset, decide_eq_true hset, applyRows_cons, h4]
      rfl
    · rw [if_neg hset, if_neg hset, decide_eq_false hset, Bool.false_or]
      rfl
  have hnssel (s : Settings) : applyRows (if nsselInt u ≠ [] then
      [("nssel-int", nsselInt u)] else []) s = .ok { s with
        lines.nsselIntLine := if nsselInt u ≠ [] then strtoul (nsselInt u)
          else s.lines.nsselIntLine
        lines.nsselIntSet := decide (nsselInt u ≠ []) ||
          s.lines.nsselIntSet } := by
    by_cases hset : nsselInt u ≠ []
    · rw [if_pos hset, if_pos hset, decide_eq_true hset, applyRows_cons, h7]
      rfl
    · rw [if_neg hset, if_neg hset, decide_eq_false hset, Bool.false_or]
      rfl
  have hok {α β : Type} (a : α) (f : α → Except ℕ β) :
      (Except.ok a >>= f) = f a := rfl
  have hradio : ∃ s', applyRows (radioRows u) s = .ok s' ∧ radioSettings u s =
      { s' with
        lines.wakeLine := if u "radio" "wake" ≠ [] then
          strtoul (u "radio" "wake") else s'.lines.wakeLine
        lines.wakeSet := decide (u "radio" "wake" ≠ []) || s'.lines.wakeSet
        lines.nsselIntLine := if nsselInt u ≠ [] then strtoul (nsselInt u)
          else s'.lines.nsselIntLine
        lines.nsselIntSet := decide (nsselInt u ≠ []) ||
          s'.lines.nsselIntSet } := by
    simp only [radioRows, applyRows_cons, h1, h2, h3, h5, h8, h9, h28, h30,
      h31, applyOption, hok]
    exact ⟨_, rfl, rfl⟩
  obtain ⟨s', hs', hradio⟩ := hradio
  rw [applyRows_append, hs', hok, extraRows, applyRows_append, hwake, hok,
    hnssel, hradio]

theorem takesArgument_of_mem (u : Uci) :
    ∀ row ∈ radioRows u ++ extraRows u, TakesArgument row := by
  have hnames : ∀ name ∈ ["spidev", "chip", "reset", "int", "nssel-int-mode",
      "speed", "socket", "report-secs", "ezsp-version", "wake", "nssel-int"],
      (name, true, optionValue name) ∈ longOptions := by
    decide
  intro row hrow
  apply hnames
  simp only [radioRows, extraRows, List.mem_append, List.mem_cons,
    List.not_mem_nil, or_false, List.mem_ite_nil_right] at hrow
  rcases hrow with (rfl | rfl | rfl | rfl | rfl | rfl | rfl | rfl | rfl) |
    ⟨-, rfl⟩ | ⟨-, rfl⟩ <;> simp

/-- What stands in front of `$(radio_args)` is set first. -/
theorem parseArgs_rows {u : Uci} (hu : u.Plain)
    {front : List (String × List Byte)}
    (hfront : ∀ row ∈ front, TakesArgument row) {s : Settings}
    (hs : applyRows front defaultSettings = .ok s)
    (hreverse : s.reverseExtPanId = false) :
    parseArgs (rowWords front ++ fields (radioArgs u)) =
      .ok (radioSettings u s, none) := by
  have hrows : ∀ row ∈ front ++ (radioRows u ++ extraRows u),
      TakesArgument row :=
    List.forall_mem_append.mpr ⟨hfront, takesArgument_of_mem u⟩
  have hwrites := writes_rows hrows .done
  rw [List.append_nil, List.append_nil] at hwrites
  have hwords : rowWords front ++ fields (radioArgs u) =
      rowWords (front ++ (radioRows u ++ extraRows u)) := by
    rw [fields_radioArgs hu, rowWords, rowWords, rowWords,
      List.flatMap_append, List.flatMap_append, List.flatMap_append]
  have hsettings : applyRows (front ++ (radioRows u ++ extraRows u))
      defaultSettings = .ok (radioSettings u s) := by
    rw [applyRows_append, hs]
    exact applyRows_radio u s
  have hkept : reverseIds (radioSettings u s) = radioSettings u s :=
    if_neg (hreverse ▸ Bool.false_ne_true)
  rw [hwords, parseArgs_writes hwrites, List.foldlM_map]
  change applyRows _ _ >>= _ = _
  rw [hsettings]
  change Except.ok (reverseIds (radioSettings u s), none) = _
  rw [hkept]

/-- The words in front of `$(radio_args)`. -/
theorem rowWords_pair {name name' option option' : String}
    {value value' : List Byte} (hname : ascii "--" ++ ascii name = ascii option)
    (hname' : ascii "--" ++ ascii name' = ascii option') :
    rowWords [(name, value), (name', value')] =
      [ascii option, value, ascii option', value'] := by
  rw [← hname, ← hname']
  rfl

/-- Two options in front of `$(radio_args)`. -/
theorem parseArgs_pair {u : Uci} (hu : u.Plain) {name name' : String}
    {val val' : ℕ} {value value' : List Byte} {s s' : Settings}
    (hname : (name, true, val) ∈ longOptions ∧ optionValue name = val)
    (hname' : (name', true, val') ∈ longOptions ∧ optionValue name' = val')
    (hs : applyOption defaultSettings val value = .ok s)
    (hs' : applyOption s val' value' = .ok s')
    (hreverse : s'.reverseExtPanId = false) :
    parseArgs (rowWords [(name, value), (name', value')] ++
      fields (radioArgs u)) = .ok (radioSettings u s', none) := by
  obtain ⟨hmem, rfl⟩ := hname
  obtain ⟨hmem', rfl⟩ := hname'
  have hrows : applyRows [(name, value), (name', value')] defaultSettings =
      .ok s' := by
    rw [applyRows_cons, hs]
    change applyRows [(name', value')] s = _
    rw [applyRows_cons, hs']
    rfl
  refine parseArgs_rows hu ?_ hrows hreverse
  simp only [List.forall_mem_cons]
  exact ⟨hmem, hmem', List.forall_mem_nil _⟩

/-- `join` has the network in front of the options. -/
theorem parseArgs_joinWords {u : Uci} (hu : u.Plain)
    {words : List (List Byte)} (hwords : joinWords u = some words) :
    parseArgs words = .ok (radioSettings u { defaultSettings with
      router.channel := strtoul (u "network" "channel")
      router.panId := (strtoul (u "network" "pan_id")).setWidth 16
      router.havePanId := true }, none) := by
  have hchannel : ("channel", true, 20) ∈ longOptions ∧
      optionValue "channel" = 20 := by decide
  have hpanId : ("pan-id", true, 21) ∈ longOptions ∧
      optionValue "pan-id" = 21 := by decide
  by_cases hmode : configGet u "radio" "mode" (ascii "router") =
      ascii "bridge"
  · rw [joinWords, if_pos hmode] at hwords
    cases hwords
  by_cases hset : u "network" "channel" = [] ∨ u "network" "pan_id" = []
  · rw [joinWords, if_neg hmode, if_pos hset] at hwords
    cases hwords
  rw [joinWords, if_neg hmode, if_neg hset, ← rowWords_pair
    (by decide : ascii "--" ++ ascii "channel" = ascii "--channel")
    (by decide : ascii "--" ++ ascii "pan-id" = ascii "--pan-id")] at hwords
  cases hwords
  exact parseArgs_pair hu hchannel hpanId rfl rfl rfl

/-- Whatever the init script starts reads from its command line what is
configured: the daemon, the bridge with its address, and `join` with the
network. -/
theorem parseArgs_configured (u : Uci) (hu : u.Plain) :
    parseArgs (runWords u) = .ok (radioSettings u defaultSettings, none) ∧
    parseArgs (bridgeWords u) = .ok (radioSettings u { defaultSettings with
      bridgePort := strtoul (configGet u "bridge" "port" (ascii "8888"))
      bindAddr := configGet u "bridge" "bind" (ascii "0.0.0.0") }, none) ∧
    ∀ words, joinWords u = some words →
      parseArgs words = .ok (radioSettings u { defaultSettings with
        router.channel := strtoul (u "network" "channel")
        router.panId := (strtoul (u "network" "pan_id")).setWidth 16
        router.havePanId := true }, none) := by
  have hport : ("port", true, 33) ∈ longOptions ∧
      optionValue "port" = 33 := by decide
  have hbind : ("bind", true, 34) ∈ longOptions ∧
      optionValue "bind" = 34 := by decide
  refine ⟨?_, ?_, fun words => parseArgs_joinWords hu⟩
  · exact parseArgs_rows hu (List.forall_mem_nil _) rfl rfl
  · rw [bridgeWords, ← rowWords_pair (by decide : ascii "--" ++ ascii "port" =
      ascii "--port") (by decide : ascii "--" ++ ascii "bind" =
        ascii "--bind")]
    exact parseArgs_pair hu hport hbind rfl rfl rfl

/-- A configuration file by its options. -/
def Uci.ofOptions (options : List ((String × String) × String)) : Uci :=
  fun name option => ascii ((options.lookup (name, option)).getD "")

/-- The options of `ezsp-spi.config`. -/
def shippedOptions : List ((String × String) × String) :=
  [(("radio", "enabled"), "0"), (("radio", "mode"), "router"),
    (("radio", "spidev"), "/dev/spidev1.0"),
    (("radio", "gpiochip"), "/dev/gpiochip0"), (("radio", "reset"), "49"),
    (("radio", "wake"), "31"), (("radio", "hostint"), "50"),
    (("radio", "nssel_int_mode"), "follow"), (("radio", "speed"), "1000000"),
    (("radio", "socket"), "/var/run/ezsp-spi.sock"),
    (("radio", "report_secs"), "300"), (("radio", "ezsp_version"), "4"),
    (("network", "channel"), "25"), (("network", "pan_id"), "4920"),
    (("bridge", "port"), "8888"), (("bridge", "bind"), "0.0.0.0")]

theorem plain_shipped : (Uci.ofOptions shippedOptions).Plain := by
  have hall : ∀ row ∈ shippedOptions, ∀ c ∈ ascii row.2,
      isIfs c = false ∧ isGlob c = false := by
    decide
  intro option c hc
  rw [Uci.ofOptions] at hc
  cases hlookup : shippedOptions.lookup ("radio", option) with
  | none =>
      rw [hlookup] at hc
      cases hc
  | some value =>
      rw [hlookup] at hc
      obtain ⟨front, rest, hrows, -⟩ := List.lookup_eq_some_iff.mp hlookup
      have hrow : (("radio", option), value) ∈ shippedOptions := by
        rw [hrows]
        exact List.mem_append_right _ List.mem_cons_self
      exact hall _ hrow c hc

theorem parseArgs_shipped :
    ∃ words, joinWords (Uci.ofOptions shippedOptions) = some words ∧
      parseArgs words =
        .ok (radioSettings (Uci.ofOptions shippedOptions) { defaultSettings with
          router.channel := strtoul (ascii "25")
          router.panId := (strtoul (ascii "4920")).setWidth 16
          router.havePanId := true }, none) :=
  have h := parseArgs_configured _ plain_shipped
  ⟨_, rfl, h.2.2 _ rfl⟩

end EzspSpi
