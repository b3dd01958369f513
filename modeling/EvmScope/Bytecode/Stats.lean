import EvmScope.Bytecode.Decoding

set_option autoImplicit false

/-! # Instruction counts

Counts of the instructions that matter for a rough price of a call, and that price. Counts are signed
so that differences of counts can be priced as well. -/

namespace EvmScope

/-- Counts of instructions by what they do. -/
structure OpcodeStats where
  sloads : Int
  sstores : Int
  calls : Int
  delegateCalls : Int
  staticCalls : Int
  logs : Int
  creates : Int
  selfDestructs : Int
  memoryOps : Int
  hashes : Int
  total : Int
  deriving DecidableEq, Repr

namespace OpcodeStats

/-- No instruction counted. -/
def empty : OpcodeStats := ⟨0, 0, 0, 0, 0, 0, 0, 0, 0, 0, 0⟩

/-- Count one opcode. -/
def countOpcode (stats : OpcodeStats) (opcode : Nat) : OpcodeStats :=
  match opcode with
  | 0x54 => { stats with sloads := stats.sloads + 1 }
  | 0x55 => { stats with sstores := stats.sstores + 1 }
  | 0xF1 | 0xF2 => { stats with calls := stats.calls + 1 }
  | 0xF4 => { stats with delegateCalls := stats.delegateCalls + 1 }
  | 0xFA => { stats with staticCalls := stats.staticCalls + 1 }
  | 0xF0 | 0xF5 => { stats with creates := stats.creates + 1 }
  | 0xFF => { stats with selfDestructs := stats.selfDestructs + 1 }
  | 0x51 | 0x52 | 0x53 => { stats with memoryOps := stats.memoryOps + 1 }
  | 0x20 => { stats with hashes := stats.hashes + 1 }
  | n => if 0xA0 ≤ n && n ≤ 0xA4 then { stats with logs := stats.logs + 1 } else stats

/-- Count one instruction. -/
def count (stats : OpcodeStats) (i : Instruction) : OpcodeStats :=
  let stats := { stats with total := stats.total + 1 }
  match i.opcode with
  | some opcode => stats.countOpcode opcode.toNat
  | none => stats

/-- The counts of a list of instructions. -/
def ofInstructions (instructions : List Instruction) : OpcodeStats :=
  instructions.foldl count empty

/-- The gas that every transaction costs. -/
def transactionGas : Int := 21000

/-- A rough upper price of a call that runs every counted instruction once: new slots for all
    writes, cold access for all reads. -/
def baseGas (stats : OpcodeStats) : Int :=
  transactionGas + stats.sstores * 20000 + stats.sloads * 2100 + stats.calls * 2600
    + stats.logs * 1000 + stats.creates * 32000 + stats.hashes * 30

end OpcodeStats

end EvmScope
