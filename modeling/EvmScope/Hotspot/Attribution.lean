import EvmScope.Gas.Cost
import EvmScope.Hotspot.Runtime
import EvmScope.SourceMap.Mapping
import Std.Data.HashMap

set_option autoImplicit false

/-! # Attributing gas to source ranges

Every instruction is charged what a trace records for it, or else its static cost, and the charge goes
to the source range that the source map gives for the instruction. A charge is *placed* exactly once:
an instruction that costs nothing is left out, one without a source range is counted as unmapped, one
of another file than the wanted one is passed over, and all others are added to the group of their
range. -/

namespace EvmScope

/-- What an instruction is charged. -/
structure Charge where
  mnemonic : String
  gas : Int
  /-- Whether a trace gave the figure. -/
  refined : Bool
  deriving DecidableEq, Repr

/-- The charge of an instruction: the cost at run time if there is one, else the static cost. -/
def Charge.ofInstruction (costs : RuntimeCosts) (i : Instruction) : Charge :=
  match costs[(i.offset : Int)]? with
  | some gas => ⟨i.mnemonic, gas, true⟩
  | none => ⟨i.mnemonic, (GasCost.ofCapitals i.mnemonic).base, false⟩

/-- Where a charge goes. -/
inductive Placement
  /-- There is nothing to place. -/
  | free
  /-- No source range is known. -/
  | unmapped
  /-- The range lies in a file that is not asked for. -/
  | elsewhere
  /-- The charge goes to the range of this mapping. -/
  | placed (mapping : Mapping)
  deriving DecidableEq, Repr

/-- Place a charge; `file?` is the file asked for, `none` for any. -/
def Placement.of (file? : Option Int) (charge : Charge) (mapping? : Option Mapping) : Placement :=
  if charge.gas ≤ 0 then .free
  else
    match mapping? with
    | none => .unmapped
    | some mapping =>
      if !mapping.hasSource then .unmapped
      else if file?.all (· == mapping.fileIndex) then .placed mapping
      else .elsewhere

/-- The charges of all instructions with their places. -/
def placements (costs : RuntimeCosts) (file? : Option Int) (map : SourceMap)
    (instructions : List Instruction) : List (Charge × Placement) :=
  let missing := List.replicate (instructions.length - map.entries.length) none
  (instructions.zip (map.entries.map some ++ missing)).map (fun (i, mapping?) =>
    let charge := Charge.ofInstruction costs i
    (charge, Placement.of file? charge mapping?))

/-! ## Groups -/

/-- The charges of one source range added up. -/
structure Group where
  /-- The file of the first charge. -/
  fileIndex : Int
  gas : Int
  /-- The names of the instructions, the last one first. -/
  mnemonics : List String
  refined : Bool
  deriving DecidableEq, Repr

/-- A group without charges. -/
def Group.empty (fileIndex : Int) : Group := ⟨fileIndex, 0, [], false⟩

/-- Add a charge to a group. -/
def Group.add (group : Group) (charge : Charge) : Group where
  fileIndex := group.fileIndex
  gas := group.gas + charge.gas
  mnemonics := charge.mnemonic :: group.mnemonics
  refined := group.refined || charge.refined

/-- Groups by the two ends of their ranges. -/
abbrev Groups := Std.HashMap (Int × Int) Group

/-- Add a charge that has a place to the group of its range. -/
def Groups.place (groups : Groups) : Charge × Placement → Groups
  | (charge, .placed mapping) =>
    groups.alter (mapping.start, mapping.finish) (fun group? =>
      some ((group?.getD (Group.empty mapping.fileIndex)).add charge))
  | _ => groups

/-- The groups of placed charges. -/
def Groups.ofPlacements (placed : List (Charge × Placement)) : Groups :=
  placed.foldl Groups.place ∅

end EvmScope
