import EvmScope.Hotspot.Attribution
import Mathlib.Algebra.Ring.Int.Defs

set_option autoImplicit false

/-! # What an instruction costs

`RuntimeCosts.evidence` collects the costs of a trace in a hash table. Here the cost of an instruction
is said without one: `recorded` lists the figures that the outermost frame shows at its offset, and
`costOf` is their sum, negative figures counted as zero, or the static cost where there is no figure.
`ofInstruction_evidence` says that the table gives just this charge to every instruction. -/

namespace EvmScope

namespace RuntimeCosts

/-! ## Recorded figures -/

/-- A step is seen with the step behind it. -/
theorem observations_cons_cons (e next : TraceEntry) (rest : List TraceEntry) :
    observations (e :: next :: rest)
      = (e.pc, gasOf? e (some next)) :: observations (next :: rest) := rfl

/-- The gas figures that the outermost frame of a trace shows at the offset of an instruction. -/
def recorded (trace? : Option ParsedTrace) (i : Instruction) : List Int :=
  match trace? with
  | none => []
  | some trace =>
    (observations (outerFrame trace)).filterMap
      (fun (pc, gas?) => if pc = i.offset then gas? else none)

/-- The cost of an instruction: the sum of the recorded figures, else its static cost. -/
def costOf (trace? : Option ParsedTrace) (i : Instruction) : Int :=
  if recorded trace? i = [] then (GasCost.ofCapitals i.mnemonic).base
  else ((recorded trace? i).map (max · 0)).sum

/-- The charge of an instruction: its cost, marked as refined where a trace records it. -/
def chargeOf (trace? : Option ParsedTrace) (i : Instruction) : Charge :=
  ⟨i.mnemonic, costOf trace? i, decide (recorded trace? i ≠ [])⟩

/-- The evidence of a trace, if there is one. -/
def evidenceOf (instructions : List Instruction) (trace? : Option ParsedTrace) : Evidence :=
  match trace? with
  | some trace => evidence instructions trace
  | none => Evidence.none

/-! ## The set of offsets -/

theorem contains_foldl_insert (instructions : List Instruction) (offsets : Std.HashMap Int Unit)
    (offset : Int) :
    (instructions.foldl (fun offsets i => offsets.insert (i.offset : Int) ()) offsets).contains offset
      = (offsets.contains offset || instructions.any (fun i => (i.offset : Int) == offset)) := by
  induction instructions generalizing offsets with
  | nil => simp
  | cons i rest ih =>
    rw [List.foldl_cons, ih, Std.HashMap.contains_insert, List.any_cons, Bool.or_comm (_ == _),
      Bool.or_assoc]

theorem contains_offsetSet (instructions : List Instruction) (i : Instruction)
    (hi : i ∈ instructions) : (offsetSet instructions).contains (i.offset : Int) = true := by
  rw [offsetSet, contains_foldl_insert, Bool.or_eq_true]
  exact Or.inr (List.any_eq_true.2 ⟨i, hi, beq_self_eq_true _⟩)

/-! ## Adding figures up -/

/-- Add a figure to the sum at an offset, if there is one; a negative figure adds nothing. -/
def addFigure (sum? : Option Int) (figure : Int) : Option Int :=
  some (sum?.getD 0 + max figure 0)

/-- The table after some charges has at an offset what the figures of this offset add up to. -/
theorem getElem?_foldl_charge (charges : List (Int × Int)) (costs : RuntimeCosts) (offset : Int) :
    (charges.foldl (fun costs (offset, gas) => charge costs offset gas) costs)[offset]?
      = (charges.filterMap (fun (pc, gas) => if pc = offset then some gas else none)).foldl addFigure
          costs[offset]? := by
  -- the table is arbitrary, as every charge makes a new one
  induction charges generalizing costs with
  | nil => rfl
  | cons entry rest ih =>
    obtain ⟨pc, gas⟩ := entry
    rw [List.foldl_cons, ih, List.filterMap_cons]
    simp only [charge, Std.HashMap.getElem?_insert]
    by_cases hpc : pc = offset
    · subst hpc
      simp only [beq_self_eq_true, if_true, List.foldl_cons, addFigure,
        Std.HashMap.getD_eq_getD_getElem?]
    · have hbeq : (pc == offset) = false := by simpa using hpc
      simp only [hbeq, hpc, if_false, Bool.false_eq_true]

theorem foldl_addFigure_some (figures : List Int) (sum : Int) :
    figures.foldl addFigure (some sum) = some (sum + (figures.map (max · 0)).sum) := by
  induction figures generalizing sum with
  | nil => simp
  | cons figure rest ih =>
    rw [List.foldl_cons, addFigure, Option.getD_some, ih, List.map_cons, List.sum_cons, Int.add_assoc]

theorem foldl_addFigure_none (figures : List Int) :
    figures.foldl addFigure none
      = if figures = [] then none else some ((figures.map (max · 0)).sum) := by
  cases figures with
  | nil => rfl
  | cons figure rest =>
    rw [List.foldl_cons, addFigure, foldl_addFigure_some, if_neg (List.cons_ne_nil _ _), List.map_cons,
      List.sum_cons, Option.getD_none, Int.zero_add]

/-! ## The evidence of a trace -/

/-- The figures at the offset of an instruction are all among those that match an instruction. -/
theorem filterMap_matched (offsets : Std.HashMap Int Unit) (seen : List (Int × Option Int))
    (offset : Int) (hoffset : offsets.contains offset = true) :
    (((seen.filterMap (fun (pc, gas?) => gas?.map (fun gas => (pc, gas)))).filter
        (fun (pc, _) => offsets.contains pc)).filterMap
          (fun (pc, gas) => if pc = offset then some gas else none))
      = seen.filterMap (fun (pc, gas?) => if pc = offset then gas? else none) := by
  induction seen with
  | nil => rfl
  | cons entry rest ih =>
    obtain ⟨pc, gas?⟩ := entry
    cases gas? with
    | none =>
      rw [List.filterMap_cons_none rfl, ih, List.filterMap_cons_none (by simp)]
    | some gas =>
      by_cases hpc : pc = offset
      · -- a figure at this offset passes the filter, whatever happens to the others
        subst hpc
        simp [hoffset, ih]
      · by_cases hmem : offsets.contains pc = true
        · simp [hpc, hmem, ih]
        · simp [hpc, hmem, ih]

/-- The table holds the sum of the recorded figures for an instruction of the code, and nothing where
    no figure is recorded. -/
theorem getElem?_evidence_costs (instructions : List Instruction) (trace : ParsedTrace)
    (i : Instruction) (hi : i ∈ instructions) :
    (evidence instructions trace).costs[(i.offset : Int)]?
      = if recorded (some trace) i = [] then none
        else some (((recorded (some trace) i).map (max · 0)).sum) := by
  have hfigures := filterMap_matched (offsetSet instructions) (observations (outerFrame trace))
    i.offset (contains_offsetSet instructions i hi)
  rw [evidence]
  simp only [List.partition_eq_filter_filter]
  rw [getElem?_foldl_charge, hfigures, Std.HashMap.getElem?_empty, foldl_addFigure_none]
  rfl

/-- **The charge of an instruction** is what the table of the trace gives it. -/
theorem ofInstruction_evidence (instructions : List Instruction) (trace? : Option ParsedTrace)
    (i : Instruction) (hi : i ∈ instructions) :
    Charge.ofInstruction (evidenceOf instructions trace?).costs i = chargeOf trace? i := by
  cases trace? with
  | none =>
    rw [Charge.ofInstruction, evidenceOf, Evidence.none, Std.HashMap.getElem?_empty]
    rfl
  | some trace =>
    rw [Charge.ofInstruction, evidenceOf, getElem?_evidence_costs instructions trace i hi, chargeOf,
      costOf]
    by_cases hnone : recorded (some trace) i = []
    · simp [hnone]
    · simp [hnone]

end RuntimeCosts

end EvmScope
