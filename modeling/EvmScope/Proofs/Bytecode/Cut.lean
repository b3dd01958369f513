import EvmScope.Bytecode.Decoding
import Mathlib.Algebra.GroupWithZero.Nat

set_option autoImplicit false

/-! # Cutting without an accumulator

`Decoding.scan` carries the instructions and the tally along with it. `cut` is the same division of a
row of cells written as a plain recursion: it gives the instructions alone. `scan_eq_cut` says that
the scan returns just these instructions, counts just these, and leaves the cells behind them.

Every fact on decoding is proved of `cut` first, by induction on the limit: one step takes an opcode
cell and its data, and the cells that are left start a shorter cut. -/

namespace EvmScope

/-! ## One instruction -/

namespace Instruction

@[simp] theorem ofCells_offset (offset : Nat) (opcode : Cell) (behind : List Cell) :
    (ofCells offset opcode behind).offset = offset := by
  cases opcode <;> rfl

@[simp] theorem ofCells_opcode (offset : Nat) (opcode : Cell) (behind : List Cell) :
    (ofCells offset opcode behind).opcode = opcode := by
  cases opcode <;> rfl

/-- An instruction takes the data it asks for, as far as there are cells. -/
theorem ofCells_data (offset : Nat) (opcode : Cell) (behind : List Cell) :
    (ofCells offset opcode behind).data
      = behind.take (ofCells offset opcode behind).declaredLength := by
  cases opcode <;> rfl

/-- The cells of an instruction and those behind it are the cells it was taken from. -/
theorem ofCells_cells_append (offset : Nat) (opcode : Cell) (behind : List Cell) :
    (ofCells offset opcode behind).cells ++ behind.drop (ofCells offset opcode behind).data.length
      = opcode :: behind := by
  have htake : behind.take (ofCells offset opcode behind).data.length
      = (ofCells offset opcode behind).data := by
    rw [ofCells_data, List.length_take, ← List.take_eq_take_min]
  have hbehind : (ofCells offset opcode behind).data
      ++ behind.drop (ofCells offset opcode behind).data.length = behind := by
    have hsplit := List.take_append_drop (ofCells offset opcode behind).data.length behind
    rwa [htake] at hsplit
  rw [cells, ofCells_opcode, List.cons_append, hbehind]

theorem length_cells (i : Instruction) : i.cells.length = i.size := by
  rw [cells, List.length_cons, size, Nat.add_comm]

/-- Data that falls short of what the opcode asks for is all that there was. -/
theorem drop_eq_nil_of_short (offset : Nat) (opcode : Cell) (behind : List Cell)
    (hshort : (ofCells offset opcode behind).data.length
      < (ofCells offset opcode behind).declaredLength) :
    behind.drop (ofCells offset opcode behind).data.length = [] := by
  rw [ofCells_data, List.length_take] at hshort ⊢
  rw [List.drop_eq_nil_iff]
  omega

end Instruction

namespace Decoding

/-! ## The plain recursion -/

/-- The instructions of a row of cells whose first cell has the offset `offset`, no more than `limit`
    of them. -/
def cut : Nat → Nat → List Cell → List Instruction
  | _, _, [] => []
  | 0, _, _ :: _ => []
  | limit + 1, offset, opcode :: behind =>
    let i := Instruction.ofCells offset opcode behind
    i :: cut limit (offset + i.size) (behind.drop i.data.length)

/-- The number of cells that instructions take up. -/
def span (instructions : List Instruction) : Nat :=
  (instructions.map Instruction.size).sum

@[simp] theorem span_nil : span [] = 0 := rfl

@[simp] theorem span_cons (i : Instruction) (rest : List Instruction) :
    span (i :: rest) = i.size + span rest := by
  rw [span, List.map_cons, List.sum_cons, span]

@[simp] theorem cut_nil (limit offset : Nat) : cut limit offset [] = [] := by
  cases limit <;> rfl

@[simp] theorem cut_zero (offset : Nat) (cells : List Cell) : cut 0 offset cells = [] := by
  cases cells <;> rfl

/-- The instructions take up the front part of the row, in order and without a gap. -/
theorem flatMap_cells_cut (limit offset : Nat) (cells : List Cell) :
    (cut limit offset cells).flatMap Instruction.cells
      = cells.take (span (cut limit offset cells)) := by
  induction limit generalizing offset cells with
  | zero => simp
  | succ limit ih =>
    cases cells with
    | nil => simp
    | cons opcode behind =>
      -- the cells of the first instruction are a front part of the row, then the rest is cut
      have hcells := Instruction.ofCells_cells_append offset opcode behind
      simp only [cut, List.flatMap_cons, span_cons, ih]
      rw [← hcells, ← Instruction.length_cells, List.take_length_add_append]

theorem drop_span_cons (offset : Nat) (opcode : Cell) (behind : List Cell) (taken : Nat) :
    (opcode :: behind).drop ((Instruction.ofCells offset opcode behind).size + taken)
      = (behind.drop (Instruction.ofCells offset opcode behind).data.length).drop taken := by
  rw [Instruction.size, Nat.add_assoc, Nat.add_comm 1, List.drop_succ_cons, List.drop_drop]

/-- **The scan is the cut.** It adds the instructions to those it has, counts each of them, and
    leaves the cells behind the last one. -/
theorem scan_eq_cut (limit offset : Nat) (tally : Tally) (out : List Instruction)
    (cells : List Cell) :
    scan limit offset tally out cells
      = (out.reverse ++ cut limit offset cells, (cut limit offset cells).foldl Tally.count tally,
          cells.drop (span (cut limit offset cells))) := by
  induction limit generalizing offset tally out cells with
  | zero => cases cells <;> simp [scan]
  | succ limit ih =>
    cases cells with
    | nil => simp [scan]
    | cons opcode behind =>
      simp only [scan, cut, ih, List.foldl_cons, span_cons, drop_span_cons]
      simp

/-! ## Members of a cut -/

/-- An instruction of a cut is the one at its own offset: its cells are found there. -/
theorem exists_drop_of_mem_cut (limit offset : Nat) (cells : List Cell) (i : Instruction)
    (hi : i ∈ cut limit offset cells) :
    offset ≤ i.offset ∧ ∃ opcode behind, cells.drop (i.offset - offset) = opcode :: behind
      ∧ i = Instruction.ofCells i.offset opcode behind := by
  induction limit generalizing offset cells with
  | zero => simp at hi
  | succ limit ih =>
    cases cells with
    | nil => simp at hi
    | cons opcode behind =>
      rw [cut, List.mem_cons] at hi
      rcases hi with rfl | hi
      · exact ⟨by simp, opcode, behind, by simp, by simp⟩
      · -- a later instruction starts behind the first one, so the two drops add up
        obtain ⟨hle, op, rest, hdrop, heq⟩ := ih _ _ hi
        have hsize : 0 < (Instruction.ofCells offset opcode behind).size := by
          rw [Instruction.size]; omega
        refine ⟨by omega, op, rest, ?_, heq⟩
        rw [← hdrop, ← drop_span_cons]
        congr 1
        omega

/-- The offsets of a cut increase. -/
theorem pairwise_offset_cut (limit offset : Nat) (cells : List Cell) :
    (cut limit offset cells).Pairwise (fun a b => a.offset < b.offset) := by
  induction limit generalizing offset cells with
  | zero => simp
  | succ limit ih =>
    cases cells with
    | nil => simp
    | cons opcode behind =>
      rw [cut, List.pairwise_cons]
      refine ⟨fun i hi => ?_, ih _ _⟩
      have hle := (exists_drop_of_mem_cut _ _ _ i hi).1
      rw [Instruction.size] at hle
      rw [Instruction.ofCells_offset]
      omega

theorem length_cut_le (limit offset : Nat) (cells : List Cell) :
    (cut limit offset cells).length ≤ limit := by
  induction limit generalizing offset cells with
  | zero => simp
  | succ limit ih =>
    cases cells with
    | nil => simp
    | cons opcode behind =>
      rw [cut, List.length_cons]
      exact Nat.succ_le_succ (ih _ _)

/-- The first instruction of a cut stands at its start. -/
theorem offset_of_getElem?_zero (limit offset : Nat) (cells : List Cell) (i : Instruction)
    (hi : (cut limit offset cells)[0]? = some i) : i.offset = offset := by
  cases limit with
  | zero => simp at hi
  | succ limit =>
    cases cells with
    | nil => simp at hi
    | cons opcode behind =>
      rw [cut, List.getElem?_cons_zero, Option.some.injEq] at hi
      rw [← hi, Instruction.ofCells_offset]

/-- Each instruction of a cut begins where the one before it ends. -/
theorem offset_succ_of_cut (limit offset : Nat) (cells : List Cell) (place : Nat)
    (a b : Instruction) (ha : (cut limit offset cells)[place]? = some a)
    (hb : (cut limit offset cells)[place + 1]? = some b) : b.offset = a.offset + a.size := by
  induction limit generalizing offset cells place with
  | zero => simp at ha
  | succ limit ih =>
    cases cells with
    | nil => simp at ha
    | cons opcode behind =>
      rw [cut, List.getElem?_cons_succ] at hb
      rw [cut] at ha
      cases place with
      | zero =>
        rw [List.getElem?_cons_zero, Option.some.injEq] at ha
        rw [offset_of_getElem?_zero _ _ _ _ hb, ← ha, Instruction.ofCells_offset]
      | succ place =>
        rw [List.getElem?_cons_succ] at ha
        exact ih _ _ _ ha hb

/-- Only the last instruction of a cut can lack data: where data falls short the row has ended. -/
theorem length_data_of_not_last (limit offset : Nat) (cells : List Cell) (place : Nat)
    (i : Instruction) (hi : (cut limit offset cells)[place]? = some i)
    (hlast : place + 1 < (cut limit offset cells).length) : i.data.length = i.declaredLength := by
  induction limit generalizing offset cells place with
  | zero => simp at hi
  | succ limit ih =>
    cases cells with
    | nil => simp at hi
    | cons opcode behind =>
      rw [cut] at hi
      rw [cut, List.length_cons] at hlast
      cases place with
      | zero =>
        rw [List.getElem?_cons_zero, Option.some.injEq] at hi
        subst hi
        have hle : (Instruction.ofCells offset opcode behind).data.length
            ≤ (Instruction.ofCells offset opcode behind).declaredLength := by
          rw [Instruction.ofCells_data, List.length_take]
          omega
        -- short data would leave nothing behind, but there is a next instruction
        rcases Nat.lt_or_ge (Instruction.ofCells offset opcode behind).data.length
          (Instruction.ofCells offset opcode behind).declaredLength with hshort | hfull
        · rw [Instruction.drop_eq_nil_of_short offset opcode behind hshort, cut_nil] at hlast
          simp at hlast
        · omega
      | succ place =>
        rw [List.getElem?_cons_succ] at hi
        exact ih _ _ _ hi (by omega)

end Decoding

end EvmScope
