import EvmScope.Proofs.Bytecode.Cut
import EvmScope.Proofs.Text.Numeral

set_option autoImplicit false

/-! # Decoded instructions tile the code

`Decoding.Tiles` says what the outcome of decoding a row of cells has to be: the instructions lie end
to end from offset zero on, each takes the data that its name asks for as far as there are cells, the
figures of the tally are counts over the instructions and their cells, and the limit is noted exactly
where cells are left over. It holds for every code and every limit. -/

namespace EvmScope

/-! ## Pushes by name -/

theorem numbered_injective (family : String) (m n : Nat)
    (h : numbered family m = numbered family n) : m = n := by
  have hlist : family.toList ++ (Numeral.decimal m).toList
      = family.toList ++ (Numeral.decimal n).toList := by
    rw [← String.toList_append, ← String.toList_append]
    exact congrArg String.toList h
  have hdecimal : Numeral.decimal m = Numeral.decimal n :=
    String.toList_inj.1 (List.append_cancel_left hlist)
  exact Numeral.decimal_natCast_injective m n hdecimal

/-- The four bytes of the word `PUSH`. -/
def pushBytes : List UInt8 := [80, 85, 83, 72]

/-- The first four bytes of a name. -/
def firstBytes (name : String) : List UInt8 :=
  name.toByteArray.data.toList.take 4

theorem firstBytes_numbered_push (n : Nat) : firstBytes (numbered "PUSH" n) = pushBytes := by
  rw [firstBytes, numbered, String.toByteArray_append, ByteArray.data_append, Array.toList_append]
  rfl

/-- An opcode with data bytes is named after their number. -/
theorem mnemonic_of_inlineLength (opcode : UInt8) (h : inlineLength opcode ≠ 0) :
    mnemonic opcode = numbered "PUSH" (inlineLength opcode) := by
  have hall : ∀ b, b < 256 → inlineLength (UInt8.ofNat b) ≠ 0 →
      mnemonic (UInt8.ofNat b) = numbered "PUSH" (inlineLength (UInt8.ofNat b)) := by
    decide +kernel
  have hopcode := hall opcode.toNat opcode.toNat_lt
  rw [UInt8.ofNat_toNat] at hopcode
  exact hopcode h

/-- Of the opcodes without data bytes only `PUSH0` is named like a push. -/
theorem eq_push0_of_firstBytes (opcode : UInt8) (hdata : inlineLength opcode = 0)
    (hname : firstBytes (mnemonic opcode) = pushBytes) : opcode = 0x5F := by
  have hall : ∀ b, b < 256 → inlineLength (UInt8.ofNat b) = 0 →
      firstBytes (mnemonic (UInt8.ofNat b)) = pushBytes → UInt8.ofNat b = 0x5F := by
    decide +kernel
  have hopcode := hall opcode.toNat opcode.toNat_lt
  rw [UInt8.ofNat_toNat] at hopcode
  exact hopcode hdata hname

/-- The opcode of the name `PUSHn` has `n` data bytes. -/
theorem inlineLength_of_mnemonic (opcode : UInt8) (n : Nat)
    (hname : mnemonic opcode = numbered "PUSH" n) : inlineLength opcode = n := by
  by_cases hdata : inlineLength opcode = 0
  · have hfirst : firstBytes (mnemonic opcode) = pushBytes := by
      rw [hname, firstBytes_numbered_push]
    rw [eq_push0_of_firstBytes opcode hdata hfirst] at hname ⊢
    exact numbered_injective "PUSH" 0 n hname
  · rw [mnemonic_of_inlineLength opcode hdata] at hname
    exact numbered_injective "PUSH" _ n hname

namespace Instruction

/-- An instruction named `PUSHn` asks for `n` cells of data. -/
theorem declaredLength_of_push (offset : Nat) (opcode : Cell) (behind : List Cell) (n : Nat)
    (hname : (ofCells offset opcode behind).mnemonic = numbered "PUSH" n) :
    (ofCells offset opcode behind).declaredLength = n := by
  cases opcode with
  | some byte => exact inlineLength_of_mnemonic byte n hname
  | none =>
    have hfirst : firstBytes unknownMnemonic = pushBytes := by
      rw [← firstBytes_numbered_push n, ← hname]
      rfl
    exact absurd hfirst (by decide +kernel)

/-- An instruction that asks for data is named `PUSHn`. -/
theorem push_of_declaredLength (offset : Nat) (opcode : Cell) (behind : List Cell)
    (hdata : (ofCells offset opcode behind).declaredLength ≠ 0) :
    (ofCells offset opcode behind).mnemonic
      = numbered "PUSH" (ofCells offset opcode behind).declaredLength := by
  cases opcode with
  | some byte => exact mnemonic_of_inlineLength byte hdata
  | none => exact absurd rfl hdata

/-- The bytes of an instruction, written out again. -/
def encoded (i : Instruction) : List UInt8 :=
  i.opcode.toList ++ i.dataBytes

/-- An instruction without empty cells is written out as it was read. -/
theorem map_some_encoded (i : Instruction) (hcells : ∀ c ∈ i.cells, c ≠ none) :
    i.encoded.map some = i.cells := by
  have hopcode : i.opcode ≠ none := hcells i.opcode List.mem_cons_self
  have hall : ∀ c ∈ i.data, c.isSome = true := by
    intro c hc
    rw [Option.isSome_iff_ne_none]
    exact hcells c (List.mem_cons_of_mem _ hc)
  have hdata : i.dataBytes.map some = i.data := by
    rw [dataBytes, if_pos (List.all_eq_true.2 hall), List.map_filterMap_some_eq_filter_map_isSome,
      List.map_id, List.filter_eq_self]
    exact hall
  obtain ⟨byte, hbyte⟩ := Option.ne_none_iff_exists'.1 hopcode
  rw [encoded, List.map_append, hdata, hbyte, cells, hbyte]
  rfl

end Instruction

/-! ## Folding the tally -/

namespace Tally

theorem foldl_count_unknown (tally : Tally) (instructions : List Instruction) :
    (instructions.foldl count tally).unknown
      = tally.unknown + instructions.countP (fun i => i.mnemonic = unknownMnemonic) := by
  induction instructions generalizing tally with
  | nil => simp
  | cons i rest ih =>
    rw [List.foldl_cons, ih, List.countP_cons]
    by_cases h : i.mnemonic = unknownMnemonic
    · simp only [count, h, if_true, decide_true]
      omega
    · simp [count, h]

theorem foldl_count_emptyCells (tally : Tally) (instructions : List Instruction) :
    (instructions.foldl count tally).emptyCells
      = tally.emptyCells + (instructions.flatMap Instruction.cells).countP Option.isNone := by
  induction instructions generalizing tally with
  | nil => simp
  | cons i rest ih =>
    rw [List.foldl_cons, ih, List.flatMap_cons, List.countP_append]
    simp only [count]
    omega

theorem foldl_count_truncatedPush (tally : Tally) (instructions : List Instruction) :
    (instructions.foldl count tally).truncatedPush
      = (tally.truncatedPush || instructions.any (fun i => i.data.length < i.declaredLength)) := by
  induction instructions generalizing tally with
  | nil => simp
  | cons i rest ih =>
    rw [List.foldl_cons, ih, List.any_cons, count]
    simp only [Bool.or_assoc]

end Tally

/-! ## The tiling -/

namespace Decoding

/-- The number of cells that were decoded. -/
def consumed (d : Decoding) : Nat :=
  span d.instructions

/-- A decoding of a row of cells with a limit on the number of instructions tiles the row. -/
structure Tiles (cells : List Cell) (limit : Nat) (d : Decoding) : Prop where
  byteLength_eq : d.byteLength = cells.length
  /-- The first instruction stands at the start of the row. -/
  first_offset : ∀ i, d.instructions[0]? = some i → i.offset = 0
  /-- Each instruction begins where the one before it ends. -/
  next_offset : ∀ place a b, d.instructions[place]? = some a →
    d.instructions[place + 1]? = some b → b.offset = a.offset + a.size
  opcode_at : ∀ i ∈ d.instructions, cells[i.offset]? = some i.opcode
  /-- A push takes the next `n` cells, fewer where the row ends. -/
  push_data : ∀ i ∈ d.instructions, ∀ n, i.mnemonic = numbered "PUSH" n →
    i.data = (cells.drop (i.offset + 1)).take n
      ∧ i.data.length = min n (cells.length - (i.offset + 1))
  other_data : ∀ i ∈ d.instructions,
    (∀ n, i.mnemonic ≠ numbered "PUSH" n) → i.data = []
  length_le : d.instructions.length ≤ limit
  consumed_le : d.consumed ≤ cells.length
  /-- The limit was hit exactly if cells are left over. -/
  limitHit_iff : d.limitHit = true ↔ d.consumed < cells.length
  unknown_eq : d.tally.unknown = d.instructions.countP (fun i => i.mnemonic = unknownMnemonic)
  emptyCells_eq : d.tally.emptyCells = (cells.take d.consumed).countP Option.isNone
  /-- A truncated push is the last instruction. -/
  truncatedPush_iff : d.tally.truncatedPush = true ↔
    ∃ i n, d.instructions.getLast? = some i ∧ i.mnemonic = numbered "PUSH" n ∧ i.data.length < n
  /-- Every push before the last instruction has all its data. -/
  complete_before_last : ∀ place i n, d.instructions[place]? = some i →
    place + 1 < d.instructions.length → i.mnemonic = numbered "PUSH" n → i.data.length = n
  /-- Without empty cells the instructions can be written out again. -/
  encoded_eq : (∀ c ∈ cells, c ≠ none) →
    (d.instructions.flatMap Instruction.encoded).map some = cells.take d.consumed
  /-- The index pairs the offsets of the instructions with their places. -/
  mem_index_iff : ∀ offset place, (offset, place) ∈ d.index ↔
    ∃ i, d.instructions[place]? = some i ∧ i.offset = offset
  /-- No two instructions have the same offset. -/
  index_nodup : (d.index.map (·.1)).Nodup
  /-- Every instruction has its place in the index once. -/
  index_places : d.index.map (·.2) = List.range d.instructions.length

/-! ## The parts of a decoding -/

theorem ofCells_eq_cut (limit : Nat) (cells : List Cell) :
    ofCells limit cells
      = ⟨cut limit 0 cells, cells.length, (cut limit 0 cells).foldl Tally.count Tally.clean,
          !(cells.drop (span (cut limit 0 cells))).isEmpty⟩ := by
  rw [ofCells, scan_eq_cut]
  rfl

/-- The cells at the offset of an instruction, and the instruction as it is read from them. -/
theorem exists_drop_of_mem (limit : Nat) (cells : List Cell) (i : Instruction)
    (hi : i ∈ cut limit 0 cells) :
    ∃ opcode behind, cells.drop i.offset = opcode :: behind
      ∧ i = Instruction.ofCells i.offset opcode behind := by
  obtain ⟨-, opcode, behind, hdrop, heq⟩ := exists_drop_of_mem_cut limit 0 cells i hi
  rw [Nat.sub_zero] at hdrop
  exact ⟨opcode, behind, hdrop, heq⟩

theorem declaredLength_of_mem (limit : Nat) (cells : List Cell) (i : Instruction)
    (hi : i ∈ cut limit 0 cells) (n : Nat) (hname : i.mnemonic = numbered "PUSH" n) :
    i.declaredLength = n := by
  obtain ⟨opcode, behind, -, heq⟩ := exists_drop_of_mem limit cells i hi
  rw [heq] at hname ⊢
  exact Instruction.declaredLength_of_push i.offset opcode behind n hname

/-- An instruction takes the cells behind its opcode, as many as it asks for. -/
theorem data_of_mem (limit : Nat) (cells : List Cell) (i : Instruction)
    (hi : i ∈ cut limit 0 cells) : i.data = (cells.drop (i.offset + 1)).take i.declaredLength := by
  obtain ⟨opcode, behind, hdrop, heq⟩ := exists_drop_of_mem limit cells i hi
  have hbehind : cells.drop (i.offset + 1) = behind := by
    rw [← List.drop_drop, hdrop, List.drop_one, List.tail_cons]
  rw [hbehind, heq]
  exact Instruction.ofCells_data i.offset opcode behind

/-- An instruction that is no push takes no cells. -/
theorem data_eq_nil_of_mem (limit : Nat) (cells : List Cell) (i : Instruction)
    (hi : i ∈ cut limit 0 cells) (hname : ∀ n, i.mnemonic ≠ numbered "PUSH" n) : i.data = [] := by
  obtain ⟨opcode, behind, -, heq⟩ := exists_drop_of_mem limit cells i hi
  have hzero : i.declaredLength = 0 := by
    rcases Nat.eq_zero_or_pos i.declaredLength with h | h
    · exact h
    · -- one that asks for cells is the push of as many
      refine absurd ?_ (hname i.declaredLength)
      rw [heq] at h ⊢
      exact Instruction.push_of_declaredLength i.offset opcode behind (by omega)
  rw [data_of_mem limit cells i hi, hzero, List.take_zero]

theorem opcode_of_mem (limit : Nat) (cells : List Cell) (i : Instruction)
    (hi : i ∈ cut limit 0 cells) : cells[i.offset]? = some i.opcode := by
  obtain ⟨opcode, behind, hdrop, heq⟩ := exists_drop_of_mem limit cells i hi
  have hopcode : i.opcode = opcode := by
    rw [heq, Instruction.ofCells_opcode]
  rw [← Nat.add_zero i.offset, ← List.getElem?_drop, hdrop, List.getElem?_cons_zero, hopcode]

/-- The data of some instruction falls short exactly if that of the last one does, which then is a
    push. -/
theorem any_short_iff (limit : Nat) (cells : List Cell) :
    (cut limit 0 cells).any (fun i => i.data.length < i.declaredLength) = true ↔
      ∃ i n, (cut limit 0 cells).getLast? = some i ∧ i.mnemonic = numbered "PUSH" n
        ∧ i.data.length < n := by
  constructor
  · intro hany
    obtain ⟨i, hi, hshort⟩ := List.any_eq_true.1 hany
    rw [decide_eq_true_eq] at hshort
    obtain ⟨place, hplace⟩ := List.mem_iff_getElem?.1 hi
    obtain ⟨opcode, behind, -, heq⟩ := exists_drop_of_mem limit cells i hi
    have hname : i.mnemonic = numbered "PUSH" i.declaredLength := by
      rw [heq] at hshort ⊢
      exact Instruction.push_of_declaredLength i.offset opcode behind (by omega)
    -- before the last place no data can be short
    have hlast : place + 1 = (cut limit 0 cells).length := by
      obtain ⟨hlt, -⟩ := List.getElem?_eq_some_iff.1 hplace
      rcases Nat.lt_or_ge (place + 1) (cut limit 0 cells).length with hnot | hge
      · have := length_data_of_not_last limit 0 cells place i hplace hnot
        omega
      · omega
    refine ⟨i, i.declaredLength, ?_, hname, hshort⟩
    rw [List.getLast?_eq_getElem?, ← hlast, Nat.add_sub_cancel, hplace]
  · rintro ⟨i, n, hlast, hname, hshort⟩
    have hi : i ∈ cut limit 0 cells := List.mem_of_getLast? hlast
    refine List.any_eq_true.2 ⟨i, hi, ?_⟩
    rw [decide_eq_true_eq, declaredLength_of_mem limit cells i hi n hname]
    exact hshort

theorem map_some_encoded_cut (limit : Nat) (cells : List Cell) (hcells : ∀ c ∈ cells, c ≠ none) :
    ((cut limit 0 cells).flatMap Instruction.encoded).map some
      = cells.take (span (cut limit 0 cells)) := by
  have hall : ∀ i ∈ cut limit 0 cells, i.encoded.map some = i.cells := by
    intro i hi
    refine i.map_some_encoded (fun c hc => hcells c ?_)
    have hmem : c ∈ (cut limit 0 cells).flatMap Instruction.cells :=
      List.mem_flatMap.2 ⟨i, hi, hc⟩
    rw [flatMap_cells_cut] at hmem
    exact List.mem_of_mem_take hmem
  rw [← flatMap_cells_cut, List.map_flatMap, List.flatMap_def, List.flatMap_def,
    List.map_congr_left hall]

/-- The instructions take up no more cells than there are. -/
theorem span_cut_le (limit : Nat) (cells : List Cell) :
    span (cut limit 0 cells) ≤ cells.length := by
  have hlength := congrArg List.length (flatMap_cells_cut limit 0 cells)
  have hspan : ((cut limit 0 cells).flatMap Instruction.cells).length
      = span (cut limit 0 cells) := by
    simp only [List.length_flatMap, Instruction.length_cells, span]
  rw [hspan, List.length_take] at hlength
  omega

/-! ## The index -/

theorem mem_index (d : Decoding) (offset place : Nat) :
    (offset, place) ∈ d.index ↔ ∃ i, d.instructions[place]? = some i ∧ i.offset = offset := by
  rw [index, List.mem_iff_getElem?]
  constructor
  · rintro ⟨k, hk⟩
    rw [List.getElem?_mapIdx, Option.map_eq_some_iff] at hk
    obtain ⟨i, hi, hpair⟩ := hk
    rw [Prod.mk.injEq] at hpair
    obtain ⟨rfl, rfl⟩ := hpair
    exact ⟨i, hi, rfl⟩
  · rintro ⟨i, hi, rfl⟩
    refine ⟨place, ?_⟩
    rw [List.getElem?_mapIdx, hi]
    rfl

theorem index_offsets (d : Decoding) : d.index.map (·.1) = d.instructions.map (·.offset) := by
  refine List.ext_getElem? (fun place => ?_)
  rw [index, List.getElem?_map, List.getElem?_mapIdx, Option.map_map, List.getElem?_map]
  rfl

theorem index_places (d : Decoding) : d.index.map (·.2) = List.range d.instructions.length := by
  rw [index, List.mapIdx_eq_zipIdx_map, List.map_map, List.range_eq_range',
    ← List.zipIdx_map_snd 0 d.instructions]
  rfl

end Decoding

/-! ## Every code is tiled -/

/-- **Decoding tiles the code.** For every code, read as hexadecimal text or given as bytes, and every
    limit, the decoded instructions tile the row of its cells. -/
theorem decode_tiles (limit : Nat) (code : Code) :
    (decode limit code).Tiles code.cells limit := by
  rw [decode, Decoding.ofCells_eq_cut]
  exact {
    byteLength_eq := rfl
    first_offset := fun i hi => Decoding.offset_of_getElem?_zero limit 0 code.cells i hi
    next_offset := Decoding.offset_succ_of_cut limit 0 code.cells
    opcode_at := Decoding.opcode_of_mem limit code.cells
    push_data := by
      intro i hi n hname
      have hdata := Decoding.data_of_mem limit code.cells i hi
      rw [Decoding.declaredLength_of_mem limit code.cells i hi n hname] at hdata
      refine ⟨hdata, ?_⟩
      rw [hdata, List.length_take, List.length_drop]
    other_data := Decoding.data_eq_nil_of_mem limit code.cells
    length_le := Decoding.length_cut_le limit 0 code.cells
    consumed_le := Decoding.span_cut_le limit code.cells
    limitHit_iff := by
      have hle := Decoding.span_cut_le limit code.cells
      simp only [Bool.not_eq_true', List.isEmpty_eq_false_iff, Decoding.consumed, ne_eq,
        List.drop_eq_nil_iff]
      omega
    unknown_eq := by
      simp only [Tally.foldl_count_unknown]
      exact Nat.zero_add _
    emptyCells_eq := by
      simp only [Tally.foldl_count_emptyCells, Decoding.flatMap_cells_cut]
      exact Nat.zero_add _
    truncatedPush_iff := by
      simp only [Tally.foldl_count_truncatedPush]
      exact Decoding.any_short_iff limit code.cells
    complete_before_last := by
      intro place i n hi hlast hname
      rw [Decoding.length_data_of_not_last limit 0 code.cells place i hi hlast]
      exact Decoding.declaredLength_of_mem limit code.cells i (List.mem_of_getElem? hi) n hname
    encoded_eq := Decoding.map_some_encoded_cut limit code.cells
    mem_index_iff := Decoding.mem_index _
    index_nodup := by
      rw [Decoding.index_offsets]
      have hpairwise := Decoding.pairwise_offset_cut limit 0 code.cells
      exact (List.pairwise_map.2 hpairwise).imp (fun h => Nat.ne_of_lt h)
    index_places := Decoding.index_places _ }

end EvmScope
