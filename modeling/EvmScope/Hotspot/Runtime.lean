import EvmScope.Bytecode.Decoding
import EvmScope.Trace.Parsed
import Std.Data.HashMap

set_option autoImplicit false

/-! # Costs recorded at run time

A trace of the same code gives the gas that instructions took. Only the outermost call frame counts:
entries of inner calls run other code, and the cost of the call itself includes them.

An entry shows its cost directly or, where none is recorded, by the gas that is left before the next
entry of the frame. The costs of all entries at one offset are added up, so an instruction that ran in a
loop is charged for every turn. An entry whose offset is not that of an instruction is *unmatched*. -/

namespace EvmScope

/-- The gas that the instruction at an offset took over a whole run. -/
abbrev RuntimeCosts := Std.HashMap Int Int

namespace RuntimeCosts

/-! ## Single entries -/

/-- The entries of the outermost call frame. -/
def outerFrame (trace : ParsedTrace) : List TraceEntry :=
  match trace.outerDepth? with
  | some depth => trace.entries.filter (fun entry => entry.depth == depth)
  | none => []

/-- The gas that an entry took, given the next entry of its frame; `none` if nothing shows it. -/
def gasOf? (entry : TraceEntry) (next? : Option TraceEntry) : Option Int :=
  match entry.gasCost, next? with
  | some cost, _ => some cost
  | none, some next => if next.gas ≤ entry.gas then some (entry.gas - next.gas) else none
  | none, none => none

/-- The offsets of the entries of a frame with the gas they took. -/
def observations (frame : List TraceEntry) : List (Int × Option Int) :=
  (frame.zip (frame.tail.map some ++ [none])).map (fun (entry, next?) =>
    (entry.pc, gasOf? entry next?))

/-! ## Whole traces -/

/-- Charge gas to an offset; a negative figure charges nothing. -/
def charge (costs : RuntimeCosts) (offset gas : Int) : RuntimeCosts :=
  costs.insert offset (costs.getD offset 0 + max gas 0)

/-- The offsets at which instructions stand. -/
def offsetSet (instructions : List Instruction) : Std.HashMap Int Unit :=
  instructions.foldl (fun offsets i => offsets.insert i.offset ()) ∅

/-- What a trace says about the costs of a code. -/
structure Evidence where
  /-- The gas per offset. -/
  costs : RuntimeCosts
  /-- The number of entries of the frame that show no cost. -/
  unpriced : Nat
  /-- The number of entries with a cost at offsets without an instruction. -/
  unmatched : Nat

/-- Take the costs of a code from a trace. -/
def evidence (instructions : List Instruction) (trace : ParsedTrace) : Evidence :=
  let offsets := offsetSet instructions
  let seen := observations (outerFrame trace)
  let priced := seen.filterMap (fun (offset, gas?) => gas?.map (fun gas => (offset, gas)))
  let (matched, unmatched) := priced.partition (fun (offset, _) => offsets.contains offset)
  { costs := matched.foldl (fun costs (offset, gas) => costs.charge offset gas) ∅
    unpriced := seen.length - priced.length
    unmatched := unmatched.length }

/-- No trace, no evidence. -/
def Evidence.none : Evidence := ⟨∅, 0, 0⟩

end RuntimeCosts

end EvmScope
