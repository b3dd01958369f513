import EvmScope.Bytecode.Stats
import EvmScope.Proofs.Bytecode.Tiling

set_option autoImplicit false

/-! # Codes one behind the other

An instruction is read from its own cells alone, so what stands behind them does not matter: a row of
cells can be decoded in two parts, and the second part is decoded as if it stood alone, only further
along. The one exception is a push at the end of the first part that lacks data, as it would take the
front of the second part for its own.

A limit on the number of instructions cuts off what comes later and changes nothing before it. -/

namespace EvmScope

/-! ## Instructions further along -/

/-- The same instruction a number of cells further along. -/
def Instruction.moved (distance : Nat) (i : Instruction) : Instruction :=
  { i with offset := i.offset + distance }

theorem Instruction.ofCells_moved (distance offset : Nat) (opcode : Cell) (behind : List Cell) :
    ofCells (offset + distance) opcode behind = (ofCells offset opcode behind).moved distance := by
  cases opcode <;> rfl

/-- More cells behind an instruction that has all its data do not change it. -/
theorem Instruction.ofCells_append {offset : Nat} {opcode : Cell} {behind : List Cell}
    (hfull : (ofCells offset opcode behind).declaredLength
      ≤ (ofCells offset opcode behind).data.length) (more : List Cell) :
    ofCells offset opcode (behind ++ more) = ofCells offset opcode behind := by
  cases opcode with
  | none => rfl
  | some byte =>
    have hlength : inlineLength byte ≤ behind.length :=
      Nat.le_trans hfull (List.length_take_le' (inlineLength byte) behind)
    simp only [ofCells, List.take_append_of_le_length hlength]

namespace Decoding

theorem cut_moved (limit offset distance : Nat) (cells : List Cell) :
    cut limit (offset + distance) cells = (cut limit offset cells).map (·.moved distance) := by
  induction limit generalizing offset cells with
  | zero => simp
  | succ limit ih =>
    cases cells with
    | nil => simp
    | cons opcode behind =>
      have hsize : offset + distance + (Instruction.ofCells offset opcode behind).size
          = offset + (Instruction.ofCells offset opcode behind).size + distance := by
        omega
      simp only [cut, List.map_cons, Instruction.ofCells_moved]
      rw [← ih, ← hsize]
      rfl

/-! ## Two parts of a row -/

theorem span_append (front back : List Instruction) : span (front ++ back) = span front + span back := by
  rw [span, List.map_append, List.sum_append, span, span]

theorem span_moved (distance : Nat) (instructions : List Instruction) :
    span (instructions.map (·.moved distance)) = span instructions := by
  rw [span, List.map_map]
  rfl

/-- **A row is cut part by part.** If no instruction of the first part lacks data, the second part is cut
    with what is left of the limit. -/
theorem cut_append (limit offset : Nat) (front back : List Cell)
    (hfull : ∀ i ∈ cut limit offset front, i.declaredLength ≤ i.data.length) :
    cut limit offset (front ++ back)
      = cut limit offset front
        ++ cut (limit - (cut limit offset front).length) (offset + front.length) back := by
  induction limit generalizing offset front with
  | zero => simp
  | succ limit ih =>
    cases front with
    | nil => simp
    | cons opcode behind =>
      rw [cut, List.forall_mem_cons] at hfull
      obtain ⟨hfirst, hrest⟩ := hfull
      have htaken : (Instruction.ofCells offset opcode behind).data.length ≤ behind.length := by
        rw [Instruction.ofCells_data]
        exact List.length_take_le' _ _
      -- the offset behind the first part counts the cells of the first instruction and those left
      have hoffset : offset + (Instruction.ofCells offset opcode behind).size
          + (behind.drop (Instruction.ofCells offset opcode behind).data.length).length
            = offset + (opcode :: behind).length := by
        rw [Instruction.size, List.length_drop, List.length_cons]
        omega
      simp only [List.cons_append, cut, Instruction.ofCells_append hfirst back,
        List.drop_append_of_le_length htaken, ih _ _ hrest, hoffset, List.length_cons,
        Nat.add_sub_add_right]

/-! ## Limits -/

/-- A lower limit cuts off the end. -/
theorem cut_eq_take (limit more offset : Nat) (cells : List Cell) :
    cut limit offset cells = (cut (limit + more) offset cells).take limit := by
  induction limit generalizing offset cells with
  | zero => simp
  | succ limit ih =>
    cases cells with
    | nil => simp
    | cons opcode behind =>
      rw [Nat.add_right_comm, cut, cut, List.take_succ_cons, ← ih]

/-- Where nothing is left over a higher limit changes nothing. -/
theorem cut_add_of_complete (limit more offset : Nat) (cells : List Cell)
    (hcomplete : cells.length ≤ span (cut limit offset cells)) :
    cut (limit + more) offset cells = cut limit offset cells := by
  induction limit generalizing offset cells with
  | zero =>
    have hnil : cells = [] := by simpa using hcomplete
    rw [hnil, cut_nil, cut_nil]
  | succ limit ih =>
    cases cells with
    | nil => simp
    | cons opcode behind =>
      have hsize : (Instruction.ofCells offset opcode behind).size
          = 1 + (Instruction.ofCells offset opcode behind).data.length := rfl
      rw [cut, span_cons, List.length_cons] at hcomplete
      rw [Nat.add_right_comm, cut, cut, ih]
      rw [List.length_drop]
      omega

/-- Every instruction takes a cell, so as many instructions as cells are always enough. -/
theorem length_le_span_cut (limit offset : Nat) (cells : List Cell) (hlimit : cells.length ≤ limit) :
    cells.length ≤ span (cut limit offset cells) := by
  induction limit generalizing offset cells with
  | zero => simpa using hlimit
  | succ limit ih =>
    cases cells with
    | nil => simp
    | cons opcode behind =>
      rw [List.length_cons] at hlimit
      have hrest := ih (offset + (Instruction.ofCells offset opcode behind).size)
        (behind.drop (Instruction.ofCells offset opcode behind).data.length)
        (by rw [List.length_drop]; omega)
      have hsize : (Instruction.ofCells offset opcode behind).size
          = 1 + (Instruction.ofCells offset opcode behind).data.length := rfl
      rw [List.length_drop] at hrest
      rw [cut, span_cons, List.length_cons]
      omega

end Decoding

/-! ## Counts of two parts -/

theorem Tally.foldl_count_moved (tally : Tally) (distance : Nat) (instructions : List Instruction) :
    (instructions.map (·.moved distance)).foldl count tally = instructions.foldl count tally := by
  rw [List.foldl_map]
  rfl

namespace OpcodeStats

/-- Counts are added kind by kind. -/
instance : Add OpcodeStats where
  add s t :=
    { sloads := s.sloads + t.sloads
      sstores := s.sstores + t.sstores
      calls := s.calls + t.calls
      delegateCalls := s.delegateCalls + t.delegateCalls
      staticCalls := s.staticCalls + t.staticCalls
      logs := s.logs + t.logs
      creates := s.creates + t.creates
      selfDestructs := s.selfDestructs + t.selfDestructs
      memoryOps := s.memoryOps + t.memoryOps
      hashes := s.hashes + t.hashes
      total := s.total + t.total }

theorem add_def (s t : OpcodeStats) :
    s + t = ⟨s.sloads + t.sloads, s.sstores + t.sstores, s.calls + t.calls,
      s.delegateCalls + t.delegateCalls, s.staticCalls + t.staticCalls, s.logs + t.logs,
      s.creates + t.creates, s.selfDestructs + t.selfDestructs, s.memoryOps + t.memoryOps,
      s.hashes + t.hashes, s.total + t.total⟩ := rfl

theorem add_empty (s : OpcodeStats) : s + empty = s := by
  simp [add_def, empty]

theorem countOpcode_add (s t : OpcodeStats) (opcode : Nat) :
    (s + t).countOpcode opcode = s + t.countOpcode opcode := by
  -- the logs are the only kind that is told by a range
  by_cases hlog : (0xA0 ≤ opcode && opcode ≤ 0xA4) = true
  all_goals
    unfold countOpcode
    split <;> simp [add_def, Int.add_assoc, hlog]

theorem count_add (s t : OpcodeStats) (i : Instruction) : (s + t).count i = s + t.count i := by
  have htotal : ({ s + t with total := (s + t).total + 1 } : OpcodeStats)
      = s + { t with total := t.total + 1 } := by
    simp [add_def, Int.add_assoc]
  unfold count
  rw [htotal]
  cases i.opcode with
  | none => rfl
  | some opcode => exact countOpcode_add s _ opcode.toNat

theorem foldl_count_add (s t : OpcodeStats) (instructions : List Instruction) :
    instructions.foldl count (s + t) = s + instructions.foldl count t := by
  induction instructions generalizing t with
  | nil => rfl
  | cons i rest ih => rw [List.foldl_cons, List.foldl_cons, count_add, ih]

theorem ofInstructions_append (front back : List Instruction) :
    ofInstructions (front ++ back) = ofInstructions front + ofInstructions back := by
  rw [ofInstructions, List.foldl_append, ofInstructions, ofInstructions, ← foldl_count_add, add_empty]

theorem ofInstructions_moved (distance : Nat) (instructions : List Instruction) :
    ofInstructions (instructions.map (·.moved distance)) = ofInstructions instructions := by
  rw [ofInstructions, List.foldl_map]
  rfl

/-- What a transaction costs anyway counts once. -/
theorem baseGas_add (s t : OpcodeStats) :
    (s + t).baseGas - transactionGas
      = (s.baseGas - transactionGas) + (t.baseGas - transactionGas) := by
  simp only [baseGas, add_def]
  omega

end OpcodeStats

/-! ## Decoding two codes -/

namespace Decoding

theorem instructions_ofCells (limit : Nat) (cells : List Cell) :
    (ofCells limit cells).instructions = cut limit 0 cells := by
  rw [ofCells_eq_cut]

theorem limitHit_eq_false_iff (limit : Nat) (cells : List Cell) :
    (ofCells limit cells).limitHit = false ↔ cells.length ≤ span (cut limit 0 cells) := by
  rw [ofCells_eq_cut]
  simp [List.drop_eq_nil_iff]

/-- A decoding is the decoding of one code followed by that of another, further along by the length of
    the first code. -/
structure Joins (front back whole : Decoding) : Prop where
  instructions_eq : whole.instructions
    = front.instructions ++ back.instructions.map (·.moved front.byteLength)
  byteLength_eq : whole.byteLength = front.byteLength + back.byteLength
  unknown_eq : whole.tally.unknown = front.tally.unknown + back.tally.unknown
  emptyCells_eq : whole.tally.emptyCells = front.tally.emptyCells + back.tally.emptyCells
  truncatedPush_eq : whole.tally.truncatedPush = back.tally.truncatedPush
  front_complete : front.limitHit = false
  back_complete : back.limitHit = false
  stats_eq : OpcodeStats.ofInstructions whole.instructions
    = OpcodeStats.ofInstructions front.instructions + OpcodeStats.ofInstructions back.instructions
  baseGas_eq : (OpcodeStats.ofInstructions whole.instructions).baseGas - OpcodeStats.transactionGas
    = ((OpcodeStats.ofInstructions front.instructions).baseGas - OpcodeStats.transactionGas)
      + ((OpcodeStats.ofInstructions back.instructions).baseGas - OpcodeStats.transactionGas)

theorem truncatedPush_eq_false_iff (limit : Nat) (cells : List Cell) :
    (ofCells limit cells).tally.truncatedPush = false
      ↔ ∀ i ∈ cut limit 0 cells, i.declaredLength ≤ i.data.length := by
  rw [ofCells_eq_cut]
  simp only [Tally.foldl_count_truncatedPush]
  simp [Tally.clean]

/-- The instructions of two rows one behind the other are those of each, if the limit is enough for
    both. -/
theorem cut_join (limit : Nat) (front back : List Cell)
    (hfull : ∀ i ∈ cut limit 0 front, i.declaredLength ≤ i.data.length)
    (hcomplete : (front ++ back).length ≤ span (cut limit 0 (front ++ back))) :
    cut limit 0 (front ++ back) = cut limit 0 front ++ (cut limit 0 back).map (·.moved front.length)
      ∧ front.length ≤ span (cut limit 0 front) ∧ back.length ≤ span (cut limit 0 back) := by
  have hlength := length_cut_le limit 0 front
  obtain ⟨left, hleft⟩ : ∃ left, left + (cut limit 0 front).length = limit :=
    ⟨limit - (cut limit 0 front).length, by omega⟩
  have hparts := cut_append limit 0 front back hfull
  rw [cut_moved, show limit - (cut limit 0 front).length = left by omega] at hparts
  -- neither part takes more than its cells, so each takes all of them
  rw [hparts, span_append, span_moved, List.length_append] at hcomplete
  have hfront := span_cut_le limit front
  have hback := span_cut_le left back
  have hrest := cut_add_of_complete left (cut limit 0 front).length 0 back (by omega)
  rw [hleft] at hrest
  rw [hrest]
  exact ⟨hparts, by omega, by omega⟩

theorem joins_ofCells (limit : Nat) (front back : List Cell)
    (hfull : (ofCells limit front).tally.truncatedPush = false)
    (hlimit : (ofCells limit (front ++ back)).limitHit = false) :
    Joins (ofCells limit front) (ofCells limit back) (ofCells limit (front ++ back)) := by
  have hall := (truncatedPush_eq_false_iff limit front).1 hfull
  obtain ⟨hcut, hfront, hback⟩ :=
    cut_join limit front back hall ((limitHit_eq_false_iff limit _).1 hlimit)
  have hstats : OpcodeStats.ofInstructions (cut limit 0 (front ++ back))
      = OpcodeStats.ofInstructions (cut limit 0 front)
        + OpcodeStats.ofInstructions (cut limit 0 back) := by
    rw [hcut, OpcodeStats.ofInstructions_append, OpcodeStats.ofInstructions_moved]
  have htally : ∀ tally, (cut limit 0 (front ++ back)).foldl Tally.count tally
      = (cut limit 0 back).foldl Tally.count ((cut limit 0 front).foldl Tally.count tally) := by
    intro tally
    rw [hcut, List.foldl_append, Tally.foldl_count_moved]
  constructor
  case instructions_eq => simpa only [instructions_ofCells, ofCells_eq_cut] using hcut
  case byteLength_eq => simp only [ofCells_eq_cut, List.length_append]
  case unknown_eq =>
    simp only [ofCells_eq_cut, htally, Tally.foldl_count_unknown]
    simp [Tally.clean]
  case emptyCells_eq =>
    simp only [ofCells_eq_cut, htally, Tally.foldl_count_emptyCells]
    simp [Tally.clean]
  case truncatedPush_eq =>
    have hnone : ((cut limit 0 front).foldl Tally.count Tally.clean).truncatedPush = false := by
      simpa only [ofCells_eq_cut] using hfull
    simp only [ofCells_eq_cut, htally]
    rw [Tally.foldl_count_truncatedPush, hnone, Tally.foldl_count_truncatedPush]
    rfl
  case front_complete => exact (limitHit_eq_false_iff limit front).2 hfront
  case back_complete => exact (limitHit_eq_false_iff limit back).2 hback
  case stats_eq => simpa only [instructions_ofCells] using hstats
  case baseGas_eq =>
    simp only [instructions_ofCells, hstats]
    exact OpcodeStats.baseGas_add _ _

/-- A row decoded with a limit has the first instructions of the row decoded to its end. -/
theorem instructions_eq_take (limit enough : Nat) (cells : List Cell)
    (hcomplete : (ofCells enough cells).limitHit = false) :
    (ofCells limit cells).instructions = (ofCells enough cells).instructions.take limit := by
  rw [limitHit_eq_false_iff] at hcomplete
  rw [instructions_ofCells, instructions_ofCells, cut_eq_take limit enough,
    Nat.add_comm limit enough, cut_add_of_complete enough limit 0 cells hcomplete]

end Decoding

/-- **Decoding goes part by part.** Let the cells of a code be those of two codes one behind the other,
    as for bytes behind bytes. If the first code does not end inside a push and the limit is enough for
    the whole, the whole is decoded as the two codes are. A limit takes the first instructions of what
    is decoded without hitting a limit, and as many as there are cells is never hit. -/
theorem decode_part_by_part :
    (∀ (limit : Nat) (front back whole : Code), whole.cells = front.cells ++ back.cells →
      (decode limit front).tally.truncatedPush = false → (decode limit whole).limitHit = false →
      Decoding.Joins (decode limit front) (decode limit back) (decode limit whole))
    ∧ (∀ (limit enough : Nat) (code : Code), (decode enough code).limitHit = false →
      (decode limit code).instructions = (decode enough code).instructions.take limit)
    ∧ ∀ (limit : Nat) (code : Code), code.cells.length ≤ limit →
      (decode limit code).limitHit = false := by
  refine ⟨?_, ?_, ?_⟩
  · intro limit front back whole hcells hfull hlimit
    have hwhole : decode limit whole = Decoding.ofCells limit (front.cells ++ back.cells) := by
      rw [decode, hcells]
    rw [hwhole] at hlimit ⊢
    exact Decoding.joins_ofCells limit front.cells back.cells hfull hlimit
  · intro limit enough code hcomplete
    exact Decoding.instructions_eq_take limit enough code.cells hcomplete
  · intro limit code hlength
    exact (Decoding.limitHit_eq_false_iff limit code.cells).2
      (Decoding.length_le_span_cut limit 0 code.cells hlength)

/-- A push with its data, and behind it a push that lacks some. -/
theorem decode_part_by_part_pushes :
    let front : Code := .bytes [0x60, 0x61]
    let back : Code := .bytes [0x61, 0x60]
    let whole : Code := .bytes [0x60, 0x61, 0x61, 0x60]
    (whole.cells = front.cells ++ back.cells ∧ (decode 2 front).tally.truncatedPush = false
      ∧ (decode 2 whole).limitHit = false
      ∧ Decoding.Joins (decode 2 front) (decode 2 back) (decode 2 whole))
    ∧ (decode 2 whole).limitHit = false
      ∧ (decode 1 whole).instructions = (decode 2 whole).instructions.take 1
    ∧ whole.cells.length ≤ 4 ∧ (decode 4 whole).limitHit = false := by
  intro front back whole
  have hcells : whole.cells = front.cells ++ back.cells := rfl
  have hfull : (decode 2 front).tally.truncatedPush = false := by decide
  have hlimit : (decode 2 whole).limitHit = false := by decide
  exact ⟨⟨hcells, hfull, hlimit, decode_part_by_part.1 2 front back whole hcells hfull hlimit⟩,
    hlimit, decode_part_by_part.2.1 1 2 whole hlimit, by decide,
    decode_part_by_part.2.2 4 whole (by decide)⟩

end EvmScope
