import EzspSpi.Router.Control

/-!
# Replies that fit

The functions that put a reply together once more, with a check at each
`snprintf` that its text and the terminating zero fit behind what is already
there.  They do what they do without the check, whatever would happen where it
fails.
-/

namespace EzspSpi

open Program

variable {σ : Type} [Kernel σ]

/-! ## With the room checked -/

namespace Arrays

variable (oob : ∀ β : Type, Host σ β) (g : Globals) (p : Pins)

/-- `at += snprintf(buf + at, max - at, ..)`, where the text fits. -/
def print (max : ℕ) (reply : Reply) (text : List Byte) : Host σ Reply :=
  if reply.at' + text.length < max then pure (reply.print max text)
  else oob Reply

def printAll (max : ℕ) (reply : Reply) (lines : List (List Byte)) :
    Host σ Reply := lines.foldlM (print oob max) reply

def controlStatus (r : Router) (max : ℕ) : Host σ (Router × List Byte) := do
  let (r, state) ← ezspCmd g p r ezspNetworkState [] 64
  let reply ← print oob max Reply.empty (stateLine state)
  let (r, eui) ← ezspCmd g p r ezspGetEui64 [] 64
  let reply ← printAll oob max reply (eui64Lines eui)
  let (r, nodeId) ← ezspCmd g p r ezspGetNodeId [] 64
  let reply ← printAll oob max reply (nodeIdLines nodeId)
  let (r, parameters) ← ezspCmd g p r ezspGetNetworkParameters [] 64
  let reply ← printAll oob max reply (parameterLines parameters)
  let reply ← print oob max reply (reportsLine r)
  let last ← lastReportLines r
  let reply ← printAll oob max reply last
  let reply ← print oob max reply (ascii "ok\n")
  pure (r, reply.text)

def tableEntries (frameId : Byte)
    (lines : Option (List Byte) → List (List Byte)) (room : ℕ → Bool) :
    (entries index : ℕ) → Router → Reply → Host σ (Router × Reply)
  | 0, _, r, reply => pure (r, reply)
  | entries + 1, index, r, reply =>
      if room reply.at' then do
        let (r, entry) ← ezspCmd g p r frameId [BitVec.ofNat 8 index] 64
        let reply ← printAll oob 1024 reply (lines entry)
        tableEntries frameId lines room entries (index + 1) r reply
      else pure (r, reply)

def acceptNeighbors (r : Router) : Host σ (Router × List Byte) := do
  let (r, count) ← ezspCmd g p r ezspNeighborCount [] 64
  let reply ← print oob 1024 Reply.empty
    (ascii "neighbors: " ++ unsignedText (countOf count) ++ ascii "\n")
  let room := fun at' => decide (at' < 1024 - 80)
  let (r, reply) ← tableEntries oob g p ezspGetNeighbor neighborLine room
    (countOf count) 0 r reply
  let (r, reply) ← tableEntries oob g p ezspGetRouteTableEntry routeLine room
    16 0 r reply
  pure (r, reply.text)

def acceptChildren (r : Router) : Host σ (Router × List Byte) := do
  let (r, count) ← ezspCmd g p r ezspGetParentChildParams [] 64
  let reply ← print oob 1024 Reply.empty
    (ascii "children: " ++ unsignedText (countOf count) ++ ascii "\n")
  let (r, reply) ← tableEntries oob g p ezspGetChildData childLines
    (fun _ => true) (min (countOf count) 8) 0 r reply
  pure (r, reply.text)

def acceptRequest (r : Router) (req : List Byte) :
    Host σ (Router × List Byte) :=
  if req = ascii "status" then controlStatus oob g p r 1024
  else if req = ascii "scan" then acceptScan g p r
  else if req = ascii "neighbors" then acceptNeighbors oob g p r
  else if req = ascii "children" then acceptChildren oob g p r
  else EzspSpi.acceptRequest g p r req

end Arrays

/-! ## How long the lines are -/

private theorem length_networkStateName (s : Byte) :
    (ascii (networkStateName s)).length ≤ 17 := by
  rw [networkStateName]
  split_ifs <;> decide

private theorem length_nodeTypeName (t : Byte) :
    (ascii (nodeTypeName t)).length ≤ 17 := by
  rw [nodeTypeName]
  split_ifs <;> decide

theorem length_stateLine (reply : Option (List Byte)) :
    (stateLine reply).length ≤ 25 := by
  have hfront : (ascii "state: ").length = 7 := rfl
  have hend : (ascii "\n").length = 1 := rfl
  rw [stateLine, List.length_append, List.length_append, hfront, hend]
  cases status? reply with
  | none => decide
  | some s =>
      have hname := length_networkStateName s
      rw [Option.map_some, Option.getD_some]
      omega

theorem length_eui64Lines (reply : Option (List Byte)) :
    (eui64Lines reply).flatten.length ≤ 31 := by
  rw [eui64Lines]
  split
  · have hfront : (ascii "eui64: ").length = 7 := rfl
    rw [List.flatten_cons, List.length_append, length_colonHex,
      List.length_reverse, List.length_take, hfront]
    omega
  · exact Nat.zero_le 31

theorem length_nodeIdLines (reply : Option (List Byte)) :
    (nodeIdLines reply).flatten.length ≤ 16 := by
  rw [nodeIdLines]
  split
  · exact le_refl 16
  · exact Nat.zero_le 16

theorem length_parameterLines (reply : Option (List Byte)) :
    (parameterLines reply).flatten.length ≤ 108 := by
  rw [parameterLines]
  generalize reply.getD [] = out
  split
  · have htype := length_nodeTypeName (out.getD 1 0)
    have hhex : (colonHex ((out.drop 2).take 8)).flatten.length ≤ 24 := by
      rw [length_colonHex, List.length_take]
      omega
    have hpower : (signedText (out.getD 12 0).toInt).length ≤ 4 := by
      have hlow : -128 ≤ (out.getD 12 0).toInt := BitVec.le_toInt _
      have hhigh : (out.getD 12 0).toInt < 128 := BitVec.toInt_lt
      have habs : (out.getD 12 0).toInt.natAbs < 10 ^ 3 := by omega
      exact length_signedText (by decide) habs
    have hchannel := length_unsignedText_byte (out.getD 13 0)
    have h₁ : (ascii "node_type: ").length = 11 := rfl
    have h₂ : (ascii "ext_pan_id: ").length = 12 := rfl
    have h₃ : (ascii "pan_id: 0x").length = 10 := rfl
    have h₄ : (ascii "tx_power: ").length = 10 := rfl
    have h₅ : (ascii "channel: ").length = 9 := rfl
    have hend : (ascii "\n").length = 1 := rfl
    simp only [List.flatten_append, List.flatten_cons, List.flatten_nil,
      List.length_append, List.length_nil, length_hexWord, h₁, h₂, h₃, h₄, h₅,
      hend]
    omega
  · exact Nat.zero_le 108

theorem length_reportsLine (r : Router) : (reportsLine r).length ≤ 44 := by
  have hsent : (unsignedText r.reportCount.toNat).length ≤ 10 := by
    have hcount : r.reportCount.toNat < 2 ^ 32 := r.reportCount.isLt
    exact length_unsignedText (by decide) (by omega)
  have hfailed : (unsignedText r.reportFailed.toNat).length ≤ 10 := by
    have hcount : r.reportFailed.toNat < 2 ^ 32 := r.reportFailed.isLt
    exact length_unsignedText (by decide) (by omega)
  have h₁ : (ascii "reports: ").length = 9 := rfl
  have h₂ : (ascii " sent, ").length = 7 := rfl
  have h₃ : (ascii " failed\n").length = 8 := rfl
  simp only [reportsLine, List.length_append, h₁, h₂, h₃]
  omega

/-- The difference of two times has the 32 bits of a `long`. -/
theorem lastReportLines_yields (r : Router) :
    Yields (fun lines => lines.flatten.length ≤ 30)
      (lastReportLines r : Host σ _) := by
  rw [lastReportLines]
  apply Yields.ite
  · intro _
    apply Yields.after
    intro now
    apply Yields.pure
    have hlow := @Int.le_bmod (now - r.reportLast) (2 ^ 32) (by decide)
    have hhigh := @Int.bmod_lt (now - r.reportLast) (2 ^ 32) (by decide)
    generalize (now - r.reportLast).bmod (2 ^ 32) = ago at hlow hhigh
    have habs : ago.natAbs < 10 ^ 10 := by omega
    have hago : (signedText ago).length ≤ 11 :=
      length_signedText (by decide) habs
    have h₁ : (ascii "last_report: ").length = 13 := rfl
    have h₂ : (ascii "s ago\n").length = 6 := rfl
    simp only [List.flatten_cons, List.flatten_nil, List.length_append,
      List.length_nil, h₁, h₂]
    omega
  · exact fun _ => Yields.pure (Nat.zero_le 30)

theorem length_neighborLine (reply : Option (List Byte)) :
    (neighborLine reply).flatten.length ≤ 40 := by
  rw [neighborLine]
  generalize reply.getD [] = o
  split
  · exact Nat.zero_le 40
  · have hlqi := length_unsignedText_byte (o.getD 3 0)
    have hin := length_unsignedText_byte (o.getD 4 0)
    have hout := length_unsignedText_byte (o.getD 5 0)
    have h₁ : (ascii "neighbor: 0x").length = 12 := rfl
    have h₂ : (ascii " lqi ").length = 5 := rfl
    have h₃ : (ascii " in ").length = 4 := rfl
    have h₄ : (ascii " out ").length = 5 := rfl
    have hend : (ascii "\n").length = 1 := rfl
    simp only [List.flatten_cons, List.flatten_nil, List.length_append,
      List.length_nil, length_hexWord, h₁, h₂, h₃, h₄, hend]
    omega

theorem length_routeLine (reply : Option (List Byte)) :
    (routeLine reply).flatten.length ≤ 40 := by
  rw [routeLine]
  generalize reply.getD [] = o
  split
  · exact Nat.zero_le 40
  split
  · exact Nat.zero_le 40
  · have hstate := length_unsignedText_byte (o.getD 5 0)
    have h₁ : (ascii "route: dest 0x").length = 14 := rfl
    have h₂ : (ascii " via 0x").length = 7 := rfl
    have h₃ : (ascii " state ").length = 7 := rfl
    have hend : (ascii "\n").length = 1 := rfl
    simp only [List.flatten_cons, List.flatten_nil, List.length_append,
      List.length_nil, length_hexWord, h₁, h₂, h₃, hend]
    omega

theorem length_childLines (reply : Option (List Byte)) :
    (childLines reply).flatten.length ≤ 38 := by
  rw [childLines]
  generalize reply.getD [] = o
  split
  · exact Nat.zero_le 38
  · have h₁ : (ascii "child: 0x").length = 9 := rfl
    have hend : (ascii " ").length = 1 := rfl
    rw [List.flatten_cons, List.length_append, length_colonHex,
      List.length_append, List.length_append, length_hexWord, h₁, hend,
      List.length_reverse, List.length_take]
    omega

/-! ## All of them fit -/

/-- The reply with these lines. -/
def Reply.written (max : ℕ) (lines : List (List Byte)) : Reply :=
  lines.foldl (Reply.print max) Reply.empty

theorem foldl_print_at (max : ℕ) (lines : List (List Byte)) (reply : Reply) :
    (lines.foldl (Reply.print max) reply).at' =
      reply.at' + lines.flatten.length := by
  induction lines generalizing reply with
  | nil => rfl
  | cons text lines ih =>
      rw [List.foldl_cons, ih, List.flatten_cons, List.length_append,
        ← Nat.add_assoc]
      rfl

@[simp]
theorem Reply.written_at (max : ℕ) (lines : List (List Byte)) :
    (Reply.written max lines).at' = lines.flatten.length := by
  rw [Reply.written, foldl_print_at]
  exact Nat.zero_add _

theorem Reply.written_append (max : ℕ) (done lines : List (List Byte)) :
    Reply.written max (done ++ lines) =
      lines.foldl (Reply.print max) (Reply.written max done) :=
  List.foldl_append

/-- Lines that fit stand one behind the other. -/
theorem foldl_print_text {max : ℕ} {lines : List (List Byte)} {reply : Reply}
    (hreply : reply.text.length = reply.at')
    (hroom : reply.at' + lines.flatten.length < max) :
    (lines.foldl (Reply.print max) reply).text =
      reply.text ++ lines.flatten := by
  induction lines generalizing reply with
  | nil => exact (List.append_nil _).symm
  | cons text lines ih =>
      rw [List.flatten_cons, List.length_append] at hroom
      have hfirst : reply.at' < max := by omega
      have htext : (reply.print max text).text = reply.text ++ text := by
        rw [Reply.print, if_pos hfirst, List.take_of_length_le (by omega),
          List.take_of_length_le (by omega)]
      have hlength : (reply.print max text).text.length =
          (reply.print max text).at' := by
        rw [htext, List.length_append, hreply]
        rfl
      have hrest : (reply.print max text).at' + lines.flatten.length < max := by
        change reply.at' + text.length + lines.flatten.length < max
        omega
      rw [List.foldl_cons, ih hlength hrest, htext, List.flatten_cons,
        List.append_assoc]

theorem Reply.written_text {max : ℕ} {lines : List (List Byte)}
    (hroom : lines.flatten.length < max) :
    (Reply.written max lines).text = lines.flatten := by
  have hzero : Reply.empty.at' + lines.flatten.length < max := by
    change 0 + lines.flatten.length < max
    omega
  rw [Reply.written, foldl_print_text rfl hzero]
  rfl

theorem length_more {done lines : List (List Byte)} {m n : ℕ}
    (hdone : done.flatten.length ≤ m) (hlines : lines.flatten.length ≤ n) :
    (done ++ lines).flatten.length ≤ m + n := by
  rw [List.flatten_append, List.length_append]
  omega

theorem length_line {text : List Byte} {n : ℕ} (htext : text.length ≤ n) :
    [text].flatten.length ≤ n := by
  rw [List.flatten_singleton]
  exact htext

namespace Arrays

variable {oob : ∀ β : Type, Host σ β} (g : Globals) (p : Pins)

omit [Kernel σ] in
theorem printAll_eq {max : ℕ} {reply : Reply} {lines : List (List Byte)}
    (hroom : reply.at' + lines.flatten.length < max) :
    (printAll oob max reply lines : Host σ Reply) =
      pure (lines.foldl (Reply.print max) reply) := by
  induction lines generalizing reply with
  | nil => rfl
  | cons text lines ih =>
      rw [List.flatten_cons, List.length_append, ← Nat.add_assoc] at hroom
      have hfirst : reply.at' + text.length < max := by omega
      rw [printAll, List.foldlM_cons, print, if_pos hfirst, pure_bind,
        List.foldl_cons]
      exact ih hroom

omit [Kernel σ] in
/-- Lines behind those already written. -/
theorem printAll_written {max : ℕ} {done lines : List (List Byte)}
    (hroom : done.flatten.length + lines.flatten.length < max) :
    (printAll oob max (Reply.written max done) lines : Host σ Reply) =
      pure (Reply.written max (done ++ lines)) := by
  rw [← Reply.written_at max done] at hroom
  rw [printAll_eq hroom, Reply.written_append]

omit [Kernel σ] in
theorem print_written {max : ℕ} {done : List (List Byte)} {text : List Byte}
    (hroom : done.flatten.length + text.length < max) :
    (print oob max (Reply.written max done) text : Host σ Reply) =
      pure (Reply.written max (done ++ [text])) := by
  rw [← Reply.written_at max done] at hroom
  rw [print, if_pos hroom, Reply.written_append]
  rfl

/-- The lines of the state take at most 257 characters. -/
theorem controlStatus_eq (r : Router) {max : ℕ} (hmax : 257 < max) :
    controlStatus oob g p r max = EzspSpi.controlStatus g p r max := by
  have hempty : Reply.empty = Reply.written max [] := rfl
  rw [controlStatus, EzspSpi.controlStatus, hempty]
  congr 1
  funext ⟨r, state⟩
  have hstate := length_stateLine state
  have hnothing : ([] : List (List Byte)).flatten.length ≤ 0 := le_rfl
  have h₁ := length_more hnothing (length_line hstate)
  dsimp only
  rw [print_written (by omega), pure_bind]
  congr 1
  funext ⟨r, eui⟩
  have heui := length_eui64Lines eui
  have h₂ := length_more h₁ heui
  dsimp only
  rw [printAll_written (by omega), pure_bind]
  congr 1
  funext ⟨r, nodeId⟩
  have hnodeId := length_nodeIdLines nodeId
  have h₃ := length_more h₂ hnodeId
  dsimp only
  rw [printAll_written (by omega), pure_bind]
  congr 1
  funext ⟨r, parameters⟩
  have hparameters := length_parameterLines parameters
  have hreports := length_reportsLine r
  have h₄ := length_more h₃ hparameters
  have h₅ := length_more h₄ (length_line hreports)
  dsimp only
  rw [printAll_written (by omega), pure_bind, print_written (by omega),
    pure_bind]
  apply (lastReportLines_yields r).congr
  intro last hlast
  have hok : (ascii "ok\n").length = 3 := rfl
  have h₆ := length_more h₅ hlast
  rw [printAll_written (by omega), pure_bind, print_written (by omega),
    pure_bind]
  rfl

section Table

variable {frameId : Byte} {lines : Option (List Byte) → List (List Byte)}
  {room : ℕ → Bool} (Inv : ℕ → ℕ → Prop)
  (hstep : ∀ left at' entry, Inv (left + 1) at' → room at' = true →
    Inv left (at' + (lines entry).flatten.length))

include hstep

/-- What each entry keeps of the entries left and of `at` holds at the end. -/
theorem tableEntries_yields (entries index : ℕ) (r : Router) {reply : Reply}
    (hreply : Inv entries reply.at') :
    Yields (fun out => ∃ left, Inv left out.2.at')
      (EzspSpi.tableEntries g p frameId lines room entries index r reply :
        Host σ _) := by
  induction entries generalizing index r reply with
  | zero => exact Yields.pure ⟨0, hreply⟩
  | succ entries ih =>
      rw [EzspSpi.tableEntries]
      apply Yields.ite
      · intro hmore
        apply Yields.after
        rintro ⟨r, entry⟩
        apply ih
        rw [foldl_print_at]
        exact hstep entries reply.at' entry hreply hmore
      · exact fun _ => Yields.pure ⟨entries + 1, hreply⟩

/-- If this keeps `at` below the size, every entry that is asked for has its
room. -/
theorem tableEntries_eq (hfits : ∀ left at', Inv left at' → at' < 1024)
    (entries index : ℕ) (r : Router) {reply : Reply}
    (hreply : Inv entries reply.at') :
    tableEntries oob g p frameId lines room entries index r reply =
      EzspSpi.tableEntries g p frameId lines room entries index r reply := by
  induction entries generalizing index r reply with
  | zero => rfl
  | succ entries ih =>
      rw [tableEntries, EzspSpi.tableEntries]
      by_cases hmore : room reply.at' = true
      · rw [if_pos hmore, if_pos hmore]
        congr 1
        funext ⟨r, entry⟩
        have hafter := hstep entries reply.at' entry hreply hmore
        dsimp only
        rw [printAll_eq (hfits _ _ hafter), pure_bind]
        apply ih
        rw [foldl_print_at]
        exact hafter
      · rw [if_neg hmore, if_neg hmore]

end Table

/-- A line of at most 40 characters is only begun in front of the last 80. -/
theorem acceptNeighbors_eq (r : Router) :
    acceptNeighbors oob g p r = EzspSpi.acceptNeighbors g p r := by
  have hempty : Reply.empty = Reply.written 1024 [] := rfl
  rw [acceptNeighbors, EzspSpi.acceptNeighbors, hempty]
  congr 1
  funext ⟨r, count⟩
  have hcount : (unsignedText (countOf count)).length ≤ 3 :=
    length_unsignedText_byte _
  have hfirst : (ascii "neighbors: " ++ unsignedText (countOf count) ++
      ascii "\n").length ≤ 15 := by
    have h₁ : (ascii "neighbors: ").length = 11 := rfl
    have hend : (ascii "\n").length = 1 := rfl
    rw [List.length_append, List.length_append, h₁, hend]
    omega
  have hnothing : ([] : List (List Byte)).flatten.length ≤ 0 := le_rfl
  have hwritten := length_more hnothing (length_line hfirst)
  have hneighbors (left at' : ℕ) (entry : Option (List Byte))
      (_ : at' ≤ 983) (hroom : decide (at' < 1024 - 80) = true) :
      at' + (neighborLine entry).flatten.length ≤ 983 := by
    have hline := length_neighborLine entry
    have hlt := of_decide_eq_true hroom
    omega
  have hroutes (left at' : ℕ) (entry : Option (List Byte))
      (_ : at' ≤ 983) (hroom : decide (at' < 1024 - 80) = true) :
      at' + (routeLine entry).flatten.length ≤ 983 := by
    have hline := length_routeLine entry
    have hlt := of_decide_eq_true hroom
    omega
  have hfits (left at' : ℕ) (h : at' ≤ 983) : at' < 1024 := by omega
  have hstart : (Reply.written 1024 ([] ++ [ascii "neighbors: " ++
      unsignedText (countOf count) ++ ascii "\n"])).at' ≤ 983 := by
    rw [Reply.written_at]
    omega
  dsimp only
  rw [print_written (by omega), pure_bind]
  rw [tableEntries_eq g p (fun _ at' => at' ≤ 983) hneighbors hfits _ _ _ hstart]
  apply (tableEntries_yields g p (fun _ at' => at' ≤ 983) hneighbors _ _ r
    hstart).congr
  rintro ⟨r, reply⟩ ⟨_, hreply⟩
  dsimp only
  rw [tableEntries_eq g p (fun _ at' => at' ≤ 983) hroutes hfits _ _ _ hreply]

/-- Eight children at most take 38 characters each. -/
theorem acceptChildren_eq (r : Router) :
    acceptChildren oob g p r = EzspSpi.acceptChildren g p r := by
  have hempty : Reply.empty = Reply.written 1024 [] := rfl
  rw [acceptChildren, EzspSpi.acceptChildren, hempty]
  congr 1
  funext ⟨r, count⟩
  have hcount : (unsignedText (countOf count)).length ≤ 3 :=
    length_unsignedText_byte _
  have hfirst : (ascii "children: " ++ unsignedText (countOf count) ++
      ascii "\n").length ≤ 14 := by
    have h₁ : (ascii "children: ").length = 10 := rfl
    have hend : (ascii "\n").length = 1 := rfl
    rw [List.length_append, List.length_append, h₁, hend]
    omega
  have hnothing : ([] : List (List Byte)).flatten.length ≤ 0 := le_rfl
  have hwritten := length_more hnothing (length_line hfirst)
  have hchildren (left at' : ℕ) (entry : Option (List Byte))
      (hleft : at' + 38 * (left + 1) ≤ 318)
      (_ : (fun _ => true) at' = true) :
      at' + (childLines entry).flatten.length + 38 * left ≤ 318 := by
    have hline := length_childLines entry
    omega
  have hfits (left at' : ℕ) (h : at' + 38 * left ≤ 318) : at' < 1024 := by
    omega
  have hstart : (Reply.written 1024 ([] ++ [ascii "children: " ++
      unsignedText (countOf count) ++ ascii "\n"])).at' +
      38 * min (countOf count) 8 ≤ 318 := by
    rw [Reply.written_at]
    omega
  dsimp only
  rw [print_written (by omega), pure_bind,
    tableEntries_eq g p (fun left at' => at' + 38 * left ≤ 318) hchildren
      hfits _ _ _ hstart]
  rfl

/-- Replies never overrun.  The state of the network in a buffer of 512 or 1024
characters, and the reply to every request, come about with the room for each
text checked as they do without, in all surroundings and whatever would happen
where a text does not fit.  So `at` stays below the size of the buffer, and no
line is cut off. -/
theorem replies_fit (r : Router) :
    (∀ max, max = 512 ∨ max = 1024 →
      controlStatus oob g p r max = EzspSpi.controlStatus g p r max) ∧
    ∀ req, acceptRequest oob g p r req = EzspSpi.acceptRequest g p r req := by
  have hstatus (max : ℕ) (hmax : max = 512 ∨ max = 1024) :
      controlStatus oob g p r max = EzspSpi.controlStatus g p r max :=
    controlStatus_eq g p r (by omega)
  refine ⟨hstatus, ?_⟩
  intro req
  rw [acceptRequest, EzspSpi.acceptRequest, hstatus 1024 (Or.inr rfl),
    acceptNeighbors_eq, acceptChildren_eq]
  split_ifs <;> rfl

end Arrays

end EzspSpi
