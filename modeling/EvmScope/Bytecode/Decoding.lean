import EvmScope.Bytecode.Code
import EvmScope.Bytecode.Mnemonic

set_option autoImplicit false

/-! # Decoding

`decode` cuts a row of cells into instructions. An instruction takes its opcode cell and, for `PUSHn`,
the `n` cells behind it as inline data, fewer where the row ends. Every row has a decoding: an empty
opcode cell and an opcode without an instruction are `UNKNOWN` and take no data. Decoding stops at a
limit on the number of instructions.

The instructions lie end to end from offset zero on, so their cells in a row are the part of the code
that was decoded. What the input lacks is counted on the way in a `Tally`. -/

namespace EvmScope

/-- An instruction of a decoded code. -/
structure Instruction where
  /-- The place of the opcode cell in the row. -/
  offset : Nat
  /-- The name of the instruction. -/
  mnemonic : String
  /-- The opcode cell. -/
  opcode : Cell
  /-- The cells taken as inline data. -/
  data : List Cell
  deriving DecidableEq, Repr

namespace Instruction

/-- The cells of an instruction: its opcode and its inline data. -/
def cells (i : Instruction) : List Cell :=
  i.opcode :: i.data

/-- The number of cells of an instruction. -/
def size (i : Instruction) : Nat :=
  1 + i.data.length

/-- The number of data cells that the opcode asks for. -/
def declaredLength (i : Instruction) : Nat :=
  (i.opcode.map inlineLength).getD 0

/-- The bytes of the inline data; there are none unless every data cell is given. -/
def dataBytes (i : Instruction) : List UInt8 :=
  if i.data.all Option.isSome then i.data.filterMap id else []

/-- The number that a push puts on the stack, zero for other instructions. -/
def pushValue (i : Instruction) : Nat :=
  i.dataBytes.foldl (fun value byte => value * 256 + byte.toNat) 0

/-- The inline data in hexadecimal digits. -/
def dataHex (i : Instruction) : String :=
  String.ofList (i.dataBytes.flatMap (fun byte => Quoted.hexPadded 2 byte.toNat))

/-- The instruction as a line of a listing: its offset in at least four digits, its name and its
    data. -/
def listing (i : Instruction) : String :=
  let head := "0x" ++ String.ofList (Quoted.hexPadded 4 i.offset) ++ ": " ++ i.mnemonic
  if i.dataBytes.isEmpty then head else head ++ " 0x" ++ i.dataHex

/-- The instruction whose opcode cell stands at `offset` with the cells `behind` after it. -/
def ofCells (offset : Nat) (opcode : Cell) (behind : List Cell) : Instruction :=
  match opcode with
  | none => ⟨offset, unknownMnemonic, none, []⟩
  | some byte => ⟨offset, EvmScope.mnemonic byte, some byte, behind.take (inlineLength byte)⟩

end Instruction

/-! ## Counting what is missing -/

/-- What decoding met that is not as it should be. -/
structure Tally where
  /-- The number of instructions named `UNKNOWN`. -/
  unknown : Nat
  /-- The number of empty cells. -/
  emptyCells : Nat
  /-- Whether a push had fewer cells behind it than it asks for. -/
  truncatedPush : Bool
  deriving DecidableEq, Repr

namespace Tally

/-- Nothing met yet. -/
def clean : Tally := ⟨0, 0, false⟩

/-- Count one instruction. -/
def count (tally : Tally) (i : Instruction) : Tally where
  unknown := if i.mnemonic = unknownMnemonic then tally.unknown + 1 else tally.unknown
  emptyCells := tally.emptyCells + i.cells.countP Option.isNone
  truncatedPush := tally.truncatedPush || i.data.length < i.declaredLength

end Tally

/-! ## Decoding a row -/

/-- The outcome of decoding. -/
structure Decoding where
  /-- The instructions in order. -/
  instructions : List Instruction
  /-- The number of cells of the code. -/
  byteLength : Nat
  /-- What was met on the way. -/
  tally : Tally
  /-- Whether decoding stopped at the limit with cells left over. -/
  limitHit : Bool
  deriving Repr

namespace Decoding

/-- Cut off up to `limit` instructions; `out` holds those cut off before, last first. The outcome is
    the instructions, the tally and the cells left over. -/
def scan : Nat → Nat → Tally → List Instruction → List Cell → List Instruction × Tally × List Cell
  | _, _, tally, out, [] => (out.reverse, tally, [])
  | 0, _, tally, out, opcode :: behind => (out.reverse, tally, opcode :: behind)
  | limit + 1, offset, tally, out, opcode :: behind =>
    let i := Instruction.ofCells offset opcode behind
    scan limit (offset + i.size) (tally.count i) (i :: out) (behind.drop i.data.length)

/-- Decode a row of cells. -/
def ofCells (limit : Nat) (cells : List Cell) : Decoding :=
  let (instructions, tally, left) := scan limit 0 Tally.clean [] cells
  ⟨instructions, cells.length, tally, !left.isEmpty⟩

/-- Whether nothing was decoded. -/
def isEmpty (d : Decoding) : Bool :=
  d.instructions.isEmpty

/-- The offsets of the instructions with their places in the list. -/
def index (d : Decoding) : List (Nat × Nat) :=
  d.instructions.mapIdx (fun place i => (i.offset, place))

end Decoding

/-- The number of instructions that are decoded unless a limit is given. -/
def defaultInstructionLimit : Nat := 100000

/-- Decode code up to a limit on the number of instructions. -/
def decode (limit : Nat) (code : Code) : Decoding :=
  Decoding.ofCells limit code.cells

end EvmScope
