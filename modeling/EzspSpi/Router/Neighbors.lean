import EzspSpi.Core.Lines
import EzspSpi.Router.Calls
import EzspSpi.Router.Replies
import Mathlib.Algebra.Group.Action.Defs
import Mathlib.Algebra.Order.BigOperators.Group.List
import Mathlib.Data.List.Perm.Basic

/-!
# The page of the neighbours

The reply to "neighbors" has a line for each neighbour and for each route, and
the page takes the lines apart by the position of their words.  The two lists
share one buffer of 1024 characters, and no line is begun in its last 80: all
of them are on the page exactly if the lines without the last stay below this.
-/

namespace EzspSpi

open Program

variable {σ : Type} [Kernel σ] (g : Globals) (p : Pins)

/-! ## The page -/

def isBlank (c : Byte) : Bool := c = 0x20 || c = 0x09

def isNewline (c : Byte) : Bool := c = 0x0A

/-- The lines `read -r` gets of the output of a command, which is substituted
without the newlines at its end. -/
def readLines (out : List Byte) : List (List Byte) :=
  ((out.rdropWhile isNewline).splitOnP isNewline).map (trim isBlank)

structure NeighborRow where
  addr : List Byte
  lqi : ℕ
  inCost : ℕ
  outCost : ℕ
  deriving DecidableEq, Repr

structure RouteRow where
  dest : List Byte
  via : List Byte
  state : ℕ
  deriving DecidableEq, Repr

/-- The object for a line that starts with "neighbor:". -/
def neighborRow? (line : List Byte) : Option NeighborRow :=
  let words := wordsOf isBlank line
  if ascii "neighbor:" <+: line then
    some
      { addr := words.getD 1 []
        lqi := number 10 (words.getD 3 [])
        inCost := number 10 (words.getD 5 [])
        outCost := number 10 (words.getD 7 []) }
  else none

def routeRow? (line : List Byte) : Option RouteRow :=
  let words := wordsOf isBlank line
  if ascii "route:" <+: line then
    some
      { dest := words.getD 2 []
        via := words.getD 4 []
        state := number 10 (words.getD 6 []) }
  else none

/-- The arrays of `emit_neighbors`. -/
def emitNeighbors (out : List Byte) : List NeighborRow × List RouteRow :=
  ((readLines out).filterMap neighborRow?, (readLines out).filterMap routeRow?)

/-! ## The tables -/

/-- What the NCP answers for its neighbours and routes: the payloads, empty
where there is no answer. -/
structure MeshTables where
  count : Byte
  neighbor : Byte → List Byte
  route : Byte → List Byte

/-- If the command asks for something of the tables, this is the answer. -/
def MeshTables.Answers (tables : MeshTables) (x : Exchange) : Prop :=
  (commandId x.command = ezspNeighborCount →
    x.status?.getD 0 = tables.count) ∧
  (commandId x.command = ezspGetNeighbor →
    x.payload = tables.neighbor ((commandParams x.command).getD 0 0)) ∧
  (commandId x.command = ezspGetRouteTableEntry →
    x.payload = tables.route ((commandParams x.command).getD 0 0))

instance (tables : MeshTables) (x : Exchange) : Decidable (tables.Answers x) :=
  inferInstanceAs (Decidable (_ ∧ _))

/-- `getNeighbor` succeeded. -/
def IsNeighbor (o : List Byte) : Prop :=
  15 ≤ o.length ∧ o.getD 0 0 = emberSuccess

/-- A route slot that is readable, not unused and not empty. -/
def IsRoute (o : List Byte) : Prop :=
  7 ≤ o.length ∧ o.getD 0 0 = emberSuccess ∧ o.getD 5 0 ≠ 2 ∧
    le16 o 1 ≠ 0xFFFF

instance (o : List Byte) : Decidable (IsNeighbor o) :=
  inferInstanceAs (Decidable (_ ∧ _))

instance (o : List Byte) : Decidable (IsRoute o) :=
  inferInstanceAs (Decidable (_ ∧ _))

/-- The entries of so many that are there. -/
def tableRows (table : Byte → List Byte) (IsEntry : List Byte → Prop)
    [DecidablePred IsEntry] (entries : ℕ) : List (List Byte) :=
  ((List.range entries).map fun i => table (BitVec.ofNat 8 i)).filter
    fun o => decide (IsEntry o)

def MeshTables.neighbors (tables : MeshTables) : List (List Byte) :=
  tableRows tables.neighbor IsNeighbor tables.count.toNat

def MeshTables.routes (tables : MeshTables) : List (List Byte) :=
  tableRows tables.route IsRoute 16

/-- A node id as it is shown. -/
def shownId (o : List Byte) (at' : ℕ) : List Byte :=
  ascii "0x" ++ hexWord (o.getD at' 0) (o.getD (at' + 1) 0)

def NeighborRow.ofPayload (o : List Byte) : NeighborRow where
  addr := shownId o 1
  lqi := (o.getD 3 0).toNat
  inCost := (o.getD 4 0).toNat
  outCost := (o.getD 5 0).toNat

def RouteRow.ofPayload (o : List Byte) : RouteRow where
  dest := shownId o 1
  via := shownId o 3
  state := (o.getD 5 0).toNat

/-- The page that is made of the text has every neighbour and every route
once, with the values of the NCP. -/
def MeshTables.ShownBy (tables : MeshTables) (text : List Byte) : Prop :=
  ((emitNeighbors text).1.Perm
    (tables.neighbors.map NeighborRow.ofPayload)) ∧
  (emitNeighbors text).2.Perm (tables.routes.map RouteRow.ofPayload)

/-! ## The lines -/

/-- An entry of one of the tables, which has a line of its own. -/
inductive MeshEntry where
  | neighbor (o : List Byte)
  | route (o : List Byte)

def MeshEntry.words : MeshEntry → List (List Byte)
  | .neighbor o =>
      [ascii "neighbor:", shownId o 1,
        ascii "lqi", unsignedText (o.getD 3 0).toNat,
        ascii "in", unsignedText (o.getD 4 0).toNat,
        ascii "out", unsignedText (o.getD 5 0).toNat]
  | .route o =>
      [ascii "route:", ascii "dest", shownId o 1, ascii "via", shownId o 3,
        ascii "state", unsignedText (o.getD 5 0).toNat]

/-- A line without its newline. -/
def MeshEntry.line (entry : MeshEntry) : List Byte :=
  [0x20].intercalate entry.words

/-- The line as it is printed. -/
def MeshEntry.printed (entry : MeshEntry) : List Byte := entry.line ++ [0x0A]

/-- The characters it takes. -/
def MeshEntry.size (entry : MeshEntry) : ℕ := entry.line.length + 1

def MeshTables.entries (tables : MeshTables) : List MeshEntry :=
  tables.neighbors.map .neighbor ++ tables.routes.map .route

def MeshTables.header (tables : MeshTables) : List Byte :=
  [0x20].intercalate [ascii "neighbors:", unsignedText tables.count.toNat]

/-- All that there would be to show. -/
def MeshTables.lines (tables : MeshTables) : List (List Byte) :=
  tables.header :: tables.entries.map MeshEntry.line

theorem neighborLine_eq (reply : Option (List Byte)) :
    neighborLine reply =
      if IsNeighbor (reply.getD []) then
        [(MeshEntry.neighbor (reply.getD [])).printed]
      else [] := by
  rw [neighborLine]
  generalize reply.getD [] = o
  by_cases ho : IsNeighbor o
  · have hnot : ¬(o.length < 15 ∨ o.getD 0 0 ≠ emberSuccess) := by
      rw [not_or, not_lt, not_not]
      exact ho
    rw [if_neg hnot, if_pos ho]
    simp only [MeshEntry.printed, MeshEntry.line, MeshEntry.words, shownId,
      List.intercalate_cons_cons, List.intercalate_singleton,
      List.append_assoc]
    rfl
  · have hnot : o.length < 15 ∨ o.getD 0 0 ≠ emberSuccess := by
      rw [← not_le, ← not_and_or]
      exact ho
    rw [if_pos hnot, if_neg ho]

theorem routeLine_eq (reply : Option (List Byte)) :
    routeLine reply =
      if IsRoute (reply.getD []) then
        [(MeshEntry.route (reply.getD [])).printed]
      else [] := by
  rw [routeLine]
  generalize reply.getD [] = o
  by_cases ho : IsRoute o
  · obtain ⟨hlength, hstatus, hused, hdest⟩ := ho
    have hnot : ¬(o.length < 7 ∨ o.getD 0 0 ≠ emberSuccess ∨
        o.getD 5 0 = 2) := by
      rw [not_or, not_or, not_lt, not_not]
      exact ⟨hlength, hstatus, hused⟩
    rw [if_neg hnot, if_neg hdest, if_pos ⟨hlength, hstatus, hused, hdest⟩]
    simp only [MeshEntry.printed, MeshEntry.line, MeshEntry.words, shownId,
      List.intercalate_cons_cons, List.intercalate_singleton,
      List.append_assoc]
    rfl
  · rw [if_neg ho]
    split
    · rfl
    · rename_i hread
      rw [not_or, not_or, not_lt, not_not] at hread
      obtain ⟨hlength, hstatus, hused⟩ := hread
      refine if_pos (not_not.mp fun hdest => ho ?_)
      exact ⟨hlength, hstatus, hused, hdest⟩

/-! ## Words without blanks -/

theorem isWord_unsignedText (n : ℕ) : IsWord isSpace (unsignedText n) := by
  have hdigit : ∀ d < 10,
      isSpace (BitVec.ofNat 8 d.digitChar.toNat) = false := by decide
  refine ⟨?_, forall_mem_unsignedText hdigit n⟩
  obtain ⟨d, -, rest, htext⟩ := unsignedText_cons n
  rw [htext]
  exact List.cons_ne_nil _ _

theorem isWord_hexByte (b : Byte) : IsWord isSpace (hexByte b) := by
  have hdigit : ∀ n < 16, isSpace (hexDigit n) = false := by decide
  exact ⟨List.cons_ne_nil _ _, forall_mem_hexByte hdigit b⟩

theorem isWord_shownId (o : List Byte) (at' : ℕ) :
    IsWord isSpace (shownId o at') := by
  have hfront : IsWord isSpace (ascii "0x") := by decide
  exact hfront.append ((isWord_hexByte _).append (isWord_hexByte _))

theorem MeshEntry.isWord (entry : MeshEntry) :
    ∀ word ∈ entry.words, IsWord isSpace word := by
  cases entry with
  | neighbor o =>
      have h₁ : IsWord isSpace (ascii "neighbor:") := by decide
      have h₂ : IsWord isSpace (ascii "lqi") := by decide
      have h₃ : IsWord isSpace (ascii "in") := by decide
      have h₄ : IsWord isSpace (ascii "out") := by decide
      simp only [MeshEntry.words, List.forall_mem_cons, h₁, h₂, h₃, h₄,
        isWord_shownId, isWord_unsignedText, true_and]
      exact List.forall_mem_nil _
  | route o =>
      have h₁ : IsWord isSpace (ascii "route:") := by decide
      have h₂ : IsWord isSpace (ascii "dest") := by decide
      have h₃ : IsWord isSpace (ascii "via") := by decide
      have h₄ : IsWord isSpace (ascii "state") := by decide
      simp only [MeshEntry.words, List.forall_mem_cons, h₁, h₂, h₃, h₄,
        isWord_shownId, isWord_unsignedText, true_and]
      exact List.forall_mem_nil _

theorem MeshEntry.le_size (entry : MeshEntry) : 34 ≤ entry.size := by
  have hpos (n : ℕ) : 0 < (unsignedText n).length :=
    List.length_pos_of_ne_nil (isWord_unsignedText n).ne_nil
  cases entry with
  | neighbor o =>
      have hlqi := hpos (o.getD 3 0).toNat
      have hin := hpos (o.getD 4 0).toNat
      have hout := hpos (o.getD 5 0).toNat
      have h₁ : (ascii "neighbor:").length = 9 := rfl
      have h₂ : (ascii "lqi").length = 3 := rfl
      have h₃ : (ascii "in").length = 2 := rfl
      have h₄ : (ascii "out").length = 3 := rfl
      have hid : (shownId o 1).length = 6 := rfl
      simp only [MeshEntry.size, MeshEntry.line, MeshEntry.words,
        List.intercalate_cons_cons, List.intercalate_singleton,
        List.length_append, List.length_singleton, h₁, h₂, h₃, h₄, hid]
      omega
  | route o =>
      have h₁ : (ascii "route:").length = 6 := rfl
      have h₂ : (ascii "dest").length = 4 := rfl
      have h₃ : (ascii "via").length = 3 := rfl
      have h₄ : (ascii "state").length = 5 := rfl
      have hdest : (shownId o 1).length = 6 := rfl
      have hvia : (shownId o 3).length = 6 := rfl
      simp only [MeshEntry.size, MeshEntry.line, MeshEntry.words,
        List.intercalate_cons_cons, List.intercalate_singleton,
        List.length_append, List.length_singleton, h₁, h₂, h₃, h₄, hdest, hvia]
      omega

/-! ## The lines read back -/

theorem gap_of_not_isSpace {c : Byte} (hc : isSpace c = false) :
    isBlank c = false ∧ isNewline c = false := by
  revert c
  decide

/-- A line of such words is one for the page, with these words. -/
theorem readable {ws : List (List Byte)}
    (hws : ∀ word ∈ ws, IsWord isSpace word) :
    trim isBlank ([0x20].intercalate ws) = [0x20].intercalate ws ∧
      wordsOf isBlank ([0x20].intercalate ws) = ws ∧
      ∀ c ∈ [0x20].intercalate ws, isNewline c = false := by
  have hblank : ∀ word ∈ ws, IsWord isBlank word := fun word hword =>
    (hws word hword).mono fun _ hc => (gap_of_not_isSpace hc).1
  refine ⟨trim_intercalate hblank, wordsOf_intercalate rfl hblank, ?_⟩
  intro c hc
  rcases mem_intercalate hc with rfl | ⟨word, hword, hmem⟩
  · rfl
  · exact (gap_of_not_isSpace ((hws word hword).forall_mem c hmem)).2

/-- What is made of each line, if nothing is made of an empty one. -/
theorem filterMap_readLines {α : Type} {row? : List Byte → Option α}
    (hempty : row? [] = none) {lines : List (List Byte)}
    (hlines : ∀ line ∈ lines, trim isBlank line = line ∧
      ∀ c ∈ line, isNewline c = false) :
    (readLines (unlines 0x0A lines)).filterMap row? =
      lines.filterMap row? := by
  obtain ⟨n, hn⟩ := exists_splitOnP_eq_append isNewline (unlines 0x0A lines)
  have hnewline : isNewline 0x0A = true := rfl
  rw [splitOnP_unlines hnewline fun line hline => (hlines line hline).2] at hn
  have htrim : lines.map (trim isBlank) = lines :=
    (List.map_congr_left fun line hline => (hlines line hline).1).trans
      lines.map_id
  have hread : lines ++ [[]] =
      readLines (unlines 0x0A lines) ++ List.replicate n [] := by
    have hmap := congrArg (List.map (trim isBlank)) hn
    rw [List.map_append, List.map_append, htrim, List.map_replicate] at hmap
    exact hmap
  exact filterMap_eq_of_padded hempty hread

def MeshEntry.neighborRow : MeshEntry → Option NeighborRow
  | .neighbor o => some (NeighborRow.ofPayload o)
  | .route _ => none

def MeshEntry.routeRow : MeshEntry → Option RouteRow
  | .neighbor _ => none
  | .route o => some (RouteRow.ofPayload o)

private theorem number_unsignedText_nil (n : ℕ) :
    number 10 (unsignedText n) = n := by
  have hread : number 10 (unsignedText n ++ []) = n :=
    number_unsignedText n (fun _ h => absurd h (Option.not_mem_none _))
  rwa [List.append_nil] at hread

theorem MeshEntry.rows_line (entry : MeshEntry) :
    neighborRow? entry.line = entry.neighborRow ∧
      routeRow? entry.line = entry.routeRow := by
  have hwords := (readable entry.isWord).2.1
  cases entry with
  | neighbor o =>
      have hneighbor : ascii "neighbor:" <+: (MeshEntry.neighbor o).line := by
        rw [← List.isPrefixOf_iff_prefix]
        rfl
      have hroute : ¬ascii "route:" <+: (MeshEntry.neighbor o).line := by
        rw [← List.isPrefixOf_iff_prefix]
        exact Bool.false_ne_true
      constructor
      · rw [neighborRow?, if_pos hneighbor, MeshEntry.line, hwords]
        simp [MeshEntry.words, MeshEntry.neighborRow, NeighborRow.ofPayload,
          number_unsignedText_nil]
      · rw [routeRow?, if_neg hroute]
        rfl
  | route o =>
      have hneighbor : ¬ascii "neighbor:" <+: (MeshEntry.route o).line := by
        rw [← List.isPrefixOf_iff_prefix]
        exact Bool.false_ne_true
      have hroute : ascii "route:" <+: (MeshEntry.route o).line := by
        rw [← List.isPrefixOf_iff_prefix]
        rfl
      constructor
      · rw [neighborRow?, if_neg hneighbor]
        rfl
      · rw [routeRow?, if_pos hroute, MeshEntry.line, hwords]
        simp [MeshEntry.words, MeshEntry.routeRow, RouteRow.ofPayload,
          number_unsignedText_nil]

/-! ## What is on the page -/

namespace MeshTables

variable (tables : MeshTables)

/-- The reply with some of the entries. -/
def textWith (kept : List MeshEntry) : List Byte :=
  unlines 0x0A (tables.header :: kept.map MeshEntry.line)

private theorem header_isWord :
    ∀ word ∈ [ascii "neighbors:", unsignedText tables.count.toNat],
      IsWord isSpace word := by
  have hfront : IsWord isSpace (ascii "neighbors:") := by decide
  simp only [List.forall_mem_cons, hfront, isWord_unsignedText, true_and]
  exact List.forall_mem_nil _

/-- The header has a letter more than a neighbour's line. -/
private theorem rows_header :
    neighborRow? tables.header = none ∧ routeRow? tables.header = none := by
  have hneighbor : ¬ascii "neighbor:" <+: tables.header := by
    rw [← List.isPrefixOf_iff_prefix]
    exact Bool.false_ne_true
  have hroute : ¬ascii "route:" <+: tables.header := by
    rw [← List.isPrefixOf_iff_prefix]
    exact Bool.false_ne_true
  constructor
  · rw [neighborRow?, if_neg hneighbor]
  · rw [routeRow?, if_neg hroute]

/-- The rows are those of the entries that the reply has. -/
theorem emitNeighbors_textWith (kept : List MeshEntry) :
    emitNeighbors (tables.textWith kept) =
      (kept.filterMap MeshEntry.neighborRow,
        kept.filterMap MeshEntry.routeRow) := by
  have hlines : ∀ line ∈ tables.header :: kept.map MeshEntry.line,
      trim isBlank line = line ∧ ∀ c ∈ line, isNewline c = false := by
    rw [List.forall_mem_cons]
    constructor
    · have hheader := readable tables.header_isWord
      exact ⟨hheader.1, hheader.2.2⟩
    · intro line hline
      obtain ⟨entry, _, rfl⟩ := List.mem_map.mp hline
      have hentry := readable entry.isWord
      exact ⟨hentry.1, hentry.2.2⟩
  have hneighbor : neighborRow? ∘ MeshEntry.line = MeshEntry.neighborRow :=
    funext fun entry => entry.rows_line.1
  have hroute : routeRow? ∘ MeshEntry.line = MeshEntry.routeRow :=
    funext fun entry => entry.rows_line.2
  rw [emitNeighbors, textWith, filterMap_readLines rfl hlines,
    filterMap_readLines rfl hlines,
    List.filterMap_cons_none tables.rows_header.1,
    List.filterMap_cons_none tables.rows_header.2, List.filterMap_map,
    List.filterMap_map, hneighbor, hroute]

theorem filterMap_entries :
    tables.entries.filterMap MeshEntry.neighborRow =
        tables.neighbors.map NeighborRow.ofPayload ∧
      tables.entries.filterMap MeshEntry.routeRow =
        tables.routes.map RouteRow.ofPayload := by
  simp [entries, List.filterMap_append, List.filterMap_map, Function.comp_def,
    MeshEntry.neighborRow, MeshEntry.routeRow, List.filterMap_eq_map']

/-- Each entry makes one row. -/
private theorem length_filterMap_add (kept : List MeshEntry) :
    (kept.filterMap MeshEntry.neighborRow).length +
      (kept.filterMap MeshEntry.routeRow).length = kept.length := by
  induction kept with
  | nil => rfl
  | cons entry kept ih =>
      rw [List.filterMap_cons, List.filterMap_cons, List.length_cons, ← ih]
      cases entry with
      | neighbor o => exact Nat.add_right_comm _ 1 _
      | route o => rfl

/-- What is left out cannot be on the page. -/
theorem shownBy_textWith_iff {kept : List MeshEntry}
    (hkept : kept <+: tables.entries) :
    tables.ShownBy (tables.textWith kept) ↔ kept = tables.entries := by
  obtain ⟨hneighbors, hroutes⟩ := tables.filterMap_entries
  rw [ShownBy, emitNeighbors_textWith, ← hneighbors, ← hroutes]
  dsimp only
  constructor
  · rintro ⟨hperm, hperm'⟩
    have hrows := length_filterMap_add kept
    have hrows' := length_filterMap_add tables.entries
    have hlength := hperm.length_eq
    have hlength' := hperm'.length_eq
    exact hkept.eq_of_length (by omega)
  · rintro rfl
    exact ⟨List.Perm.refl _, List.Perm.refl _⟩

theorem length_header : tables.header.length + 1 ≤ 15 := by
  have hcount := length_unsignedText_byte tables.count
  have hfront : (ascii "neighbors:").length = 10 := rfl
  rw [header, List.intercalate_cons_cons, List.intercalate_singleton,
    List.length_append, List.length_append, List.length_singleton, hfront]
  omega

/-- The entries for which there is room. -/
def kept : List MeshEntry :=
  whileRoom MeshEntry.size (1024 - 80) (tables.header.length + 1)
    tables.entries

private theorem length_lines_dropLast (hsome : tables.entries ≠ []) :
    (unlines 0x0A tables.lines.dropLast).length =
      tables.header.length + 1 +
        (tables.entries.dropLast.map MeshEntry.size).sum := by
  have hlines : tables.entries.map MeshEntry.line ≠ [] :=
    fun h => hsome (List.map_eq_nil_iff.mp h)
  rw [length_unlines, lines, List.dropLast_cons_of_ne_nil hlines,
    ← List.map_dropLast, List.map_cons, List.sum_cons, List.map_map]
  rfl

theorem kept_eq_iff :
    tables.kept = tables.entries ↔
      (unlines 0x0A tables.lines.dropLast).length < 1024 - 80 := by
  rw [kept, whileRoom_eq_self_iff]
  by_cases hnone : tables.entries = []
  · rw [lines, hnone]
    exact iff_of_true (Or.inl rfl) (Nat.zero_lt_succ 943)
  · rw [or_iff_right hnone, tables.length_lines_dropLast hnone]

/-- A line of a table takes at most 40 characters. -/
theorem size_le : ∀ entry ∈ tables.entries, entry.size ≤ 40 := by
  intro entry hentry
  rcases List.mem_append.mp hentry with hentry | hentry
  · obtain ⟨o, ho, rfl⟩ := List.mem_map.mp hentry
    have ho : IsNeighbor o := of_decide_eq_true (List.mem_filter.mp ho).2
    have hline := length_neighborLine (some o)
    rw [neighborLine_eq, Option.getD_some, if_pos ho] at hline
    simpa [MeshEntry.printed, MeshEntry.size] using hline
  · obtain ⟨o, ho, rfl⟩ := List.mem_map.mp hentry
    have ho : IsRoute o := of_decide_eq_true (List.mem_filter.mp ho).2
    have hline := length_routeLine (some o)
    rw [routeLine_eq, Option.getD_some, if_pos ho] at hline
    simpa [MeshEntry.printed, MeshEntry.size] using hline

/-- There is always room for 24 entries. -/
theorem room_of_length_le (hfew : tables.entries.length ≤ 24) :
    (unlines 0x0A tables.lines.dropLast).length < 1024 - 80 := by
  by_cases hnone : tables.entries = []
  · rw [lines, hnone]
    exact Nat.zero_lt_succ 943
  · have hheader := tables.length_header
    have hsizes : ∀ n ∈ tables.entries.dropLast.map MeshEntry.size, n ≤ 40 := by
      intro n hn
      obtain ⟨entry, hentry, rfl⟩ := List.mem_map.mp hn
      exact tables.size_le entry (List.mem_of_mem_dropLast hentry)
    have hsum := List.sum_le_card_nsmul _ 40 hsizes
    rw [List.length_map, List.length_dropLast, smul_eq_mul] at hsum
    rw [tables.length_lines_dropLast hnone]
    omega

/-- There is never room for 29. -/
theorem no_room_of_le_length (hmany : 29 ≤ tables.entries.length) :
    ¬(unlines 0x0A tables.lines.dropLast).length < 1024 - 80 := by
  have hsome : tables.entries ≠ [] := by
    rintro hnone
    rw [hnone] at hmany
    cases hmany
  have hsizes : ∀ n ∈ tables.entries.dropLast.map MeshEntry.size, 34 ≤ n := by
    intro n hn
    obtain ⟨entry, _, rfl⟩ := List.mem_map.mp hn
    exact entry.le_size
  have hsum := List.card_nsmul_le_sum _ 34 hsizes
  rw [List.length_map, List.length_dropLast, smul_eq_mul] at hsum
  rw [tables.length_lines_dropLast hsome]
  omega

end MeshTables

/-! ## The reply -/

/-- The entries of a table from `index` on. -/
def entriesFrom (table : Byte → List Byte) (IsEntry : List Byte → Prop)
    [DecidablePred IsEntry] (make : List Byte → MeshEntry)
    (entries index : ℕ) : List MeshEntry :=
  (((List.range' index entries).map fun i => table (BitVec.ofNat 8 i)).filter
    fun o => decide (IsEntry o)).map make

theorem entriesFrom_succ (table : Byte → List Byte)
    (IsEntry : List Byte → Prop) [DecidablePred IsEntry]
    (make : List Byte → MeshEntry) (entries index : ℕ) :
    entriesFrom table IsEntry make (entries + 1) index =
      (if IsEntry (table (BitVec.ofNat 8 index)) then
        [make (table (BitVec.ofNat 8 index))] else []) ++
        entriesFrom table IsEntry make entries (index + 1) := by
  rw [entriesFrom, List.range'_succ, List.map_cons, List.filter_cons]
  by_cases hentry : IsEntry (table (BitVec.ofNat 8 index))
  · rw [if_pos (decide_eq_true hentry), if_pos hentry]
    rfl
  · rw [if_neg (by rwa [decide_eq_true_eq]), if_neg hentry]
    rfl

section Table

variable {frameId : Byte} (hid : frameId ∉ [0x01, 0xFF])
  {lines : Option (List Byte) → List (List Byte)}
  {IsEntry : List Byte → Prop} [DecidablePred IsEntry]
  {make : List Byte → MeshEntry}
  (hlines : ∀ reply, lines reply = if IsEntry (reply.getD []) then
    [(make (reply.getD [])).printed] else [])

include hid hlines

/-- The reply gets a line for each entry that is kept, and a table that answers
the commands has those for which there is room. -/
theorem tableEntries_called (entries index : ℕ) {xs : List Exchange}
    {r : Router} {h : List HostEvent} (hcalled : Called xs r h)
    (done : List (List Byte)) :
    Holds anyRun h (tableEntries g p frameId lines
      (fun at' => decide (at' < 1024 - 80)) entries index r
        (Reply.written 1024 done) : Host σ _) fun out h' =>
      ∃ more kept, Called (xs ++ more) out.1 h' ∧
        out.2 = Reply.written 1024 (done ++ kept.map MeshEntry.printed) ∧
        ∀ table : Byte → List Byte, (∀ x ∈ more,
          commandId x.command = frameId →
            x.payload = table ((commandParams x.command).getD 0 0)) →
          kept = whileRoom MeshEntry.size (1024 - 80) done.flatten.length
            (entriesFrom table IsEntry make entries index) := by
  induction entries generalizing index xs r h done with
  | zero =>
      refine Holds.pure ⟨[], [], ?_, ?_, fun _ _ => rfl⟩
      · rwa [List.append_nil]
      · rw [List.map_nil, List.append_nil]
  | succ entries ih =>
      rw [tableEntries, Reply.written_at]
      by_cases hroom : done.flatten.length < 1024 - 80
      · rw [if_pos (decide_eq_true hroom)]
        have hparams : [BitVec.ofNat 8 index].length ≤ 135 := by
          rw [List.length_singleton]
          decide
        apply (ezspCmd_called g p hcalled hid hparams 64).seq
        rintro _ h' ⟨x, hasks, hmore, rfl⟩
        have hline : lines (x.reply?.map fun reply => reply.2.take 64) =
            if IsEntry x.payload then [(make x.payload).printed] else [] :=
          hlines _
        dsimp only at hmore ⊢
        rw [hline, ← Reply.written_append]
        apply (ih (index + 1) hmore _).mono
        rintro ⟨r', reply⟩ h'' ⟨more, kept, hmore', hreply, hkept⟩
        have hanswer (table : Byte → List Byte) (hall : ∀ y ∈ x :: more,
            commandId y.command = frameId →
              y.payload = table ((commandParams y.command).getD 0 0)) :
            x.payload = table (BitVec.ofNat 8 index) := by
          rw [hall x List.mem_cons_self hasks.frameId, hasks.params]
          rfl
        by_cases hentry : IsEntry x.payload
        · have hused : (done ++ [(make x.payload).printed]).flatten.length =
              done.flatten.length + (make x.payload).size := by
            simp [MeshEntry.printed, MeshEntry.size]
          rw [if_pos hentry] at hreply hkept
          refine ⟨x :: more, make x.payload :: kept,
            by rwa [List.append_cons], ?_, fun table hall => ?_⟩
          · exact hreply.trans (congrArg (Reply.written 1024)
              (List.append_cons _ _ _).symm)
          · rw [entriesFrom_succ, ← hanswer table hall, if_pos hentry,
              List.singleton_append, whileRoom, if_pos hroom, ← hused]
            exact congrArg (make x.payload :: ·) (hkept table fun y hy =>
              hall y (List.mem_cons_of_mem x hy))
        · rw [if_neg hentry, List.append_nil] at hreply hkept
          refine ⟨x :: more, kept, by rwa [List.append_cons], hreply,
            fun table hall => ?_⟩
          rw [entriesFrom_succ, ← hanswer table hall, if_neg hentry]
          exact hkept table fun y hy => hall y (List.mem_cons_of_mem x hy)
      · rw [if_neg (by rwa [decide_eq_true_eq])]
        refine Holds.pure ⟨[], [], ?_, ?_, fun _ _ => ?_⟩
        · rwa [List.append_nil]
        · rw [List.map_nil, List.append_nil]
        · exact (whileRoom_of_full hroom _).symm

end Table

theorem MeshTables.entries_eq (tables : MeshTables) :
    tables.entries =
      entriesFrom tables.neighbor IsNeighbor .neighbor tables.count.toNat 0 ++
        entriesFrom tables.route IsRoute .route 16 0 := by
  simp only [MeshTables.entries, MeshTables.neighbors, MeshTables.routes,
    tableRows, entriesFrom, List.range_eq_range']

theorem flatten_printed (kept : List MeshEntry) :
    (kept.map MeshEntry.printed).flatten =
      unlines 0x0A (kept.map MeshEntry.line) := by
  rw [unlines, List.flatMap_map]
  rfl

theorem length_flatten_printed (kept : List MeshEntry) :
    (kept.map MeshEntry.printed).flatten.length =
      (kept.map MeshEntry.size).sum := by
  rw [flatten_printed, length_unlines, List.map_map]
  rfl

/-- The reply has the header and the entries for which there is room. -/
theorem MeshTables.written_text (tables : MeshTables) :
    (Reply.written 1024 ([tables.header ++ [0x0A]] ++
      tables.kept.map MeshEntry.printed)).text =
        tables.textWith tables.kept := by
  have hheader : tables.header.length + 1 < 1024 - 80 :=
    lt_of_le_of_lt tables.length_header (by decide)
  have hkept := sum_whileRoom_le hheader tables.size_le
  have hroom : ([tables.header ++ [0x0A]] ++
      tables.kept.map MeshEntry.printed).flatten.length < 1024 := by
    rw [List.flatten_append, List.length_append, length_flatten_printed]
    rw [List.flatten_singleton, List.length_append, List.length_singleton]
    exact lt_trans hkept (by decide)
  rw [Reply.written_text hroom, List.flatten_append, flatten_printed,
    List.flatten_singleton]
  rfl

theorem acceptNeighbors_called {xs : List Exchange} {r : Router}
    {h : List HostEvent} (hcalled : Called xs r h) :
    Holds anyRun h (acceptNeighbors g p r : Host σ _) fun out h' =>
      ∃ more, Called (xs ++ more) out.1 h' ∧
        ∀ tables : MeshTables, (∀ x ∈ more, tables.Answers x) →
          out.2 = tables.textWith tables.kept := by
  have hparams : ([] : List Byte).length ≤ 135 := Nat.zero_le 135
  rw [acceptNeighbors]
  apply (ezspCmd_called g p hcalled (by decide) hparams 64).seq
  rintro _ h' ⟨x, hasks, hmore, rfl⟩
  have hcount : countOf (x.reply?.map fun reply => reply.2.take 64) =
      (x.status?.getD 0).toNat := by
    rw [countOf, status?_reply (by decide)]
  dsimp only at hmore ⊢
  rw [hcount]
  generalize hheader : ascii "neighbors: " ++
    unsignedText (x.status?.getD 0).toNat ++ ascii "\n" = header
  have hempty : Reply.empty.print 1024 header = Reply.written 1024 [header] :=
    rfl
  rw [hempty]
  apply (tableEntries_called g p (by decide) neighborLine_eq _ 0 hmore _).seq
  rintro ⟨r', reply⟩ h'' ⟨asked, kept, hcalled', hreply, hkept⟩
  dsimp only at hcalled' hreply ⊢
  rw [hreply]
  apply (tableEntries_called g p (by decide) routeLine_eq 16 0 hcalled' _).seq
  rintro ⟨r'', reply'⟩ h''' ⟨asked', kept', hcalled'', hreply', hkept'⟩
  refine Holds.pure ⟨x :: (asked ++ asked'), ?_, fun tables hall => ?_⟩
  · simpa using hcalled''
  · have hx := (hall x List.mem_cons_self).1 hasks.frameId
    have hneighbors := hkept tables.neighbor fun y hy =>
      (hall y (by simp [hy])).2.1
    have hroutes := hkept' tables.route fun y hy => (hall y (by simp [hy])).2.2
    have hfirst : header = tables.header ++ [0x0A] := by
      rw [← hheader, hx, MeshTables.header, List.intercalate_cons_cons,
        List.intercalate_singleton, List.append_assoc, List.append_assoc,
        List.append_assoc]
      rfl
    have hused : [header].flatten.length = tables.header.length + 1 := by
      rw [hfirst, List.flatten_singleton, List.length_append]
      rfl
    rw [hused, hx] at hneighbors
    rw [List.flatten_append, List.length_append, hused, length_flatten_printed]
      at hroutes
    have hall : kept ++ kept' = tables.kept := by
      rw [MeshTables.kept, MeshTables.entries_eq, whileRoom_append,
        ← hneighbors, ← hroutes]
    rw [← MeshTables.written_text, ← hfirst, ← hall, List.map_append,
      ← List.append_assoc]
    exact congrArg Reply.text hreply'

/-- What the reply is, if the NCP answers with these tables. -/
theorem reply_neighbors {r : Router} {s : σ} {tables : MeshTables}
    {out : Router × List Byte}
    (hdone : (acceptRequest g p r (ascii "neighbors") s).outcome = .done out)
    (htables : ∀ x ∈ calls (acceptRequest g p r (ascii "neighbors") s).trace,
      tables.Answers x) :
    out.2 = tables.textWith tables.kept := by
  have hrequest : acceptRequest g p r (ascii "neighbors") =
      (acceptNeighbors g p r : Host σ _) := rfl
  rw [hrequest] at hdone htables
  obtain ⟨more, hcalled, htext⟩ :=
    (acceptNeighbors_called g p (Called.start r) s).2.1 out hdone
  have hcalls : calls (acceptNeighbors g p r s).trace = more := hcalled.calls
  rw [hcalls] at htables
  exact htext tables htables

/-- The page of the neighbours.  It has every neighbour and every route once,
with the values of the NCP, exactly if the header and all lines but the last
take less than 944 characters: in all surroundings, for all tables that the NCP
answers with. -/
theorem neighbors_shownBy_iff (r : Router) (s : σ) (tables : MeshTables)
    {out : Router × List Byte}
    (hdone : (acceptRequest g p r (ascii "neighbors") s).outcome = .done out)
    (htables : ∀ x ∈ calls (acceptRequest g p r (ascii "neighbors") s).trace,
      tables.Answers x) :
    tables.ShownBy out.2 ↔
      (unlines 0x0A tables.lines.dropLast).length < 1024 - 80 := by
  have hkept : tables.kept <+: tables.entries := whileRoom_prefix _ _
  rw [reply_neighbors g p hdone htables, tables.shownBy_textWith_iff hkept,
    tables.kept_eq_iff]

/-! ## A full table -/

/-- An NCP with these tables. -/
def meshNcp (tables : MeshTables) : Responder where
  respond _ tx :=
    let id := commandId tx
    let index := (commandParams tx).getD 0 0
    [0x00, 0x80, id] ++
      if id = ezspNeighborCount then [tables.count]
      else if id = ezspGetNeighbor then tables.neighbor index
      else tables.route index
  commands := 0
  pending := []

/-- So many neighbours, and a route to the coordinator. -/
def meshTables (count : Byte) : MeshTables where
  count := count
  neighbor i := [0x00, i, 0x10, 200, 1, 1, 3] ++ List.replicate 8 i
  route i :=
    if i = 0 then [0x00, 0x00, 0x00, 0x01, 0x10, 0, 0]
    else [0x00, 0xFF, 0xFF, 0x00, 0x00, 3, 0]

def meshRun (count : Byte) : Run host Responder (Router × List Byte) :=
  acceptRequest ⟨⟨2, false⟩, true⟩ ⟨3, 4, 5, 7, 6⟩ routerInit
    (ascii "neighbors") (meshNcp (meshTables count))

theorem neighbors_shownBy_iff_two : ∃ out, (meshRun 2).outcome = .done out ∧
    ((meshTables 2).ShownBy out.2 ↔
      (unlines 0x0A (meshTables 2).lines.dropLast).length < 1024 - 80) := by
  have hdone : doneWith (fun _ => true) (meshRun 2).outcome = true := by
    decide +kernel
  obtain ⟨out, hout, _⟩ := exists_of_doneWith hdone
  exact ⟨out, hout,
    neighbors_shownBy_iff _ _ _ _ (meshTables 2) hout (by decide +kernel)⟩

/-- Behind 26 neighbours the route is missing. -/
theorem meshRun_routeless :
    (∀ x ∈ calls (meshRun 26).trace, (meshTables 26).Answers x) ∧
      ∃ out, (meshRun 26).outcome = .done out ∧
        (emitNeighbors out.2).2 = [] ∧ (meshTables 26).routes.length = 1 ∧
        ¬(meshTables 26).ShownBy out.2 := by
  have hdone : doneWith (fun _ => true) (meshRun 26).outcome = true := by
    decide +kernel
  have htables : ∀ x ∈ calls (meshRun 26).trace, (meshTables 26).Answers x := by
    decide +kernel
  have hkept : (meshTables 26).kept.filterMap MeshEntry.routeRow = [] := by
    decide +kernel
  have hroutes : (meshTables 26).routes.length = 1 := by decide +kernel
  obtain ⟨out, hout, _⟩ := exists_of_doneWith hdone
  have hrows : (emitNeighbors out.2).2 = [] := by
    rw [reply_neighbors _ _ hout htables, MeshTables.emitNeighbors_textWith]
    exact hkept
  refine ⟨htables, out, hout, hrows, hroutes, fun hshown => ?_⟩
  have hlength := hshown.2.length_eq
  rw [hrows, List.length_map, hroutes] at hlength
  cases hlength

end EzspSpi
