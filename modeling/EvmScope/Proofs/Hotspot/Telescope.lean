import EvmScope.Proofs.Bytecode.Concatenation
import EvmScope.Proofs.Hotspot.Accounting
import EvmScope.Proofs.Hotspot.Attribution

set_option autoImplicit false

/-! # Derived costs telescope

Where a trace records no costs, a step of the outermost frame shows its cost by the gas that is left
before the step behind it. If the gas never rises, each step but the last one takes the difference to its
successor, and these differences add up to what the whole frame took: the gas before its first step less
the gas before its last one. The evidence divides the sum by instructions, and it does so without loss as
no two instructions share an offset. Which entries stand between the steps of the frame does not matter,
as they are not in it. -/

namespace EvmScope

namespace RuntimeCosts

/-! ## Falling gas -/

/-- A frame whose steps record no cost and whose gas never rises. -/
structure Falling (frame : List TraceEntry) : Prop where
  gasCost_eq_none : ∀ e ∈ frame, e.gasCost = none
  gas_le : frame.Pairwise (fun e later => later.gas ≤ e.gas)

theorem Falling.tail {e : TraceEntry} {rest : List TraceEntry} (h : Falling (e :: rest)) :
    Falling rest where
  gasCost_eq_none := fun step hstep => h.gasCost_eq_none step (List.mem_cons_of_mem e hstep)
  gas_le := (List.pairwise_cons.1 h.gas_le).2

/-- The steps of a frame with the steps behind them; the last one has none. -/
def successive (frame : List TraceEntry) : List (TraceEntry × TraceEntry) :=
  frame.zip frame.tail

/-- The gas between two steps of a frame. -/
def drop (pair : TraceEntry × TraceEntry) : Int :=
  pair.1.gas - pair.2.gas

/-- Every step of a falling frame but the last one shows the gas up to the step behind it. -/
theorem observations_of_falling (e : TraceEntry) (rest : List TraceEntry) (h : Falling (e :: rest)) :
    observations (e :: rest)
      = (successive (e :: rest)).map (fun pair => (pair.1.pc, some (drop pair)))
        ++ [(((e :: rest).getLast (List.cons_ne_nil e rest)).pc, none)] := by
  induction rest generalizing e with
  | nil =>
    have hcost := h.gasCost_eq_none e List.mem_cons_self
    simp [observations, successive, gasOf?, hcost]
  | cons next rest ih =>
    have hcost := h.gasCost_eq_none e List.mem_cons_self
    have hle := (List.pairwise_cons.1 h.gas_le).1 next List.mem_cons_self
    have hshown : gasOf? e (some next) = some (drop (e, next)) := by
      simp [gasOf?, hcost, hle, drop]
    rw [observations_cons_cons, ih next h.tail, hshown, List.getLast_cons (List.cons_ne_nil next rest)]
    rfl

theorem priced_of_falling (e : TraceEntry) (rest : List TraceEntry) (h : Falling (e :: rest)) :
    priced (e :: rest) = (successive (e :: rest)).map (fun pair => (pair.1.pc, drop pair)) := by
  rw [priced, observations_of_falling e rest h, List.filterMap_append, List.filterMap_map]
  simp

/-- **The drops of a falling frame telescope.** -/
theorem sum_drop_of_falling (e : TraceEntry) (rest : List TraceEntry) (h : Falling (e :: rest)) :
    ((successive (e :: rest)).map (fun pair => max (drop pair) 0)).sum
      = e.gas - ((e :: rest).getLast (List.cons_ne_nil e rest)).gas := by
  induction rest generalizing e with
  | nil => simp [successive]
  | cons next rest ih =>
    have hle := (List.pairwise_cons.1 h.gas_le).1 next List.mem_cons_self
    have hdrop : max (drop (e, next)) 0 = e.gas - next.gas := by
      simp only [drop]
      omega
    have hrest := ih next h.tail
    rw [List.getLast_cons (List.cons_ne_nil next rest)]
    change max (drop (e, next)) 0
      + ((successive (next :: rest)).map (fun pair => max (drop pair) 0)).sum = _
    omega

/-! ## The sum over the instructions -/

theorem isMatched_iff (instructions : List Instruction) (step : Int × Int) :
    isMatched instructions step = true ↔ ∃ i ∈ instructions, step.1 = i.offset := by
  rw [isMatched, offsetSet, contains_foldl_insert, Std.HashMap.contains_empty, Bool.false_or,
    List.any_eq_true]
  simp only [beq_iff_eq, eq_comm (a := step.1)]

theorem figures_eq (steps : List (Int × Int)) (offset : Int) :
    steps.filterMap (fun step => if step.1 = offset then some step.2 else none)
      = (steps.filter (fun step => step.1 = offset)).map (·.2) := by
  induction steps with
  | nil => rfl
  | cons step rest ih =>
    by_cases hoffset : step.1 = offset
    · simp [hoffset, ih]
    · simp [hoffset, ih]

/-- The table gives an offset what the matched steps there took. -/
theorem getD_evidence_costs (instructions : List Instruction) (trace : ParsedTrace) (offset : Int) :
    (evidence instructions trace).costs.getD offset 0
      = ((((priced (outerFrame trace)).filter (isMatched instructions)).filter
          (fun step => step.1 = offset)).map (fun step => max step.2 0)).sum := by
  rw [evidence_eq]
  have htable := getElem?_foldl_charge
    ((priced (outerFrame trace)).filter (isMatched instructions)) ∅ offset
  simp only [figures_eq, Std.HashMap.getElem?_empty, foldl_addFigure_none, List.map_map] at htable
  rw [Std.HashMap.getD_eq_getD_getElem?, htable]
  split
  · next hnone =>
    rw [List.map_eq_nil_iff.1 hnone]
    rfl
  · rfl

/-- **The costs of all instructions** are those of the matched steps together, if no two instructions have
    one offset. -/
theorem sum_evidence_costs (instructions : List Instruction) (trace : ParsedTrace)
    (hdistinct : (instructions.map (fun i => (i.offset : Int))).Nodup) :
    (instructions.map (fun i => (evidence instructions trace).costs.getD i.offset 0)).sum
      = (((priced (outerFrame trace)).filter (isMatched instructions)).map
          (fun step => max step.2 0)).sum := by
  have hkeys : ∀ step ∈ (priced (outerFrame trace)).filter (isMatched instructions),
      step.1 ∈ instructions.map (fun i => (i.offset : Int)) := by
    intro step hstep
    obtain ⟨i, hi, hoffset⟩ := (isMatched_iff instructions step).1 (List.mem_filter.1 hstep).2
    exact List.mem_map.2 ⟨i, hi, hoffset.symm⟩
  rw [← Report.sum_map_sum_filter _ hdistinct (fun step : Int × Int => step.1)
    (fun step => max step.2 0) _ hkeys, List.map_map]
  simp only [Function.comp_def, getD_evidence_costs]

end RuntimeCosts

namespace Report

open RuntimeCosts

/-! ## Derived costs of a code -/

theorem nodup_offsets_decode (limit : Nat) (code : Code) :
    ((decode limit code).instructions.map (fun i => (i.offset : Int))).Nodup := by
  rw [decode, Decoding.instructions_ofCells, List.nodup_iff_pairwise_ne, List.pairwise_map]
  refine (Decoding.pairwise_offset_cut limit 0 code.cells).imp (fun hlt => ?_)
  omega

/-- Of a falling frame at instructions every step shows a cost but the last one, and none is unmatched. -/
theorem evidence_of_falling {instructions : List Instruction} {trace : ParsedTrace}
    {first : TraceEntry} {rest : List TraceEntry} (hframe : outerFrame trace = first :: rest)
    (hfalling : Falling (first :: rest))
    (hoffsets : ∀ e ∈ first :: rest, ∃ i ∈ instructions, e.pc = i.offset) :
    (priced (first :: rest)).filter (isMatched instructions) = priced (first :: rest)
      ∧ (evidence instructions trace).unpriced = 1 ∧ (evidence instructions trace).unmatched = 0 := by
  have hpriced := priced_of_falling first rest hfalling
  have hall : ∀ step ∈ priced (first :: rest), isMatched instructions step = true := by
    intro step hstep
    rw [hpriced] at hstep
    obtain ⟨pair, hpair, rfl⟩ := List.mem_map.1 hstep
    exact (isMatched_iff _ _).2 (hoffsets pair.1 (List.of_mem_zip hpair).1)
  refine ⟨List.filter_eq_self.2 hall, ?_, ?_⟩
  · simp [evidence_eq, hframe, hpriced, successive]
  · rw [evidence_eq, hframe, List.length_eq_zero_iff, List.filter_eq_nil_iff]
    intro step hstep
    simp [hall step hstep]

/-- The derived costs of a code telescope from the first step of a frame to its last one. -/
structure Telescopes (settings : Settings) (code : Code) (trace : ParsedTrace)
    (first last : TraceEntry) : Prop where
  /-- All instructions together have the gas that fell over the frame. -/
  sum_eq : ((decode settings.instructionLimit code).instructions.map (fun i =>
      (evidence (decode settings.instructionLimit code).instructions trace).costs.getD i.offset 0)).sum
    = first.gas - last.gas
  /-- Every step of the frame shows a cost but the last one. -/
  observations_eq : observations (outerFrame trace)
    = (successive (outerFrame trace)).map (fun pair => (pair.1.pc, some (drop pair)))
      ++ [(last.pc, none)]
  /-- So one step is without a cost, and none is unmatched. -/
  unpriced_eq : (evidence (decode settings.instructionLimit code).instructions trace).unpriced = 1
    ∧ (evidence (decode settings.instructionLimit code).instructions trace).unmatched = 0
  /-- Every report counts one entry as skipped beyond those that reading skipped. -/
  counts_eq : ∀ (map : SourceMap) (source : String) (file? : Option Int) (report : Report),
    analyze settings code map source (some trace) file? = .ok report →
    report.diagnostics.skippedTraceEntries = trace.skipped + 1
      ∧ report.diagnostics.unmatchedOffsets = 0

/-- **Derived costs telescope.** If the steps of the outermost frame record no costs, have gas that never
    rises and stand at instructions, all instructions together are charged the gas before the first step
    less the gas before the last one, and the last step is the only one that is skipped, whatever stands
    between the steps of the frame and however often an instruction comes up. -/
theorem costs_telescope (settings : Settings) (code : Code) (trace : ParsedTrace)
    (first last : TraceEntry) (hfirst : (outerFrame trace).head? = some first)
    (hlast : (outerFrame trace).getLast? = some last) (hfalling : Falling (outerFrame trace))
    (hoffsets : ∀ e ∈ outerFrame trace,
      ∃ i ∈ (decode settings.instructionLimit code).instructions, e.pc = i.offset) :
    Telescopes settings code trace first last := by
  obtain ⟨rest, hframe⟩ : ∃ rest, outerFrame trace = first :: rest := List.head?_eq_some_iff.1 hfirst
  have hend : last = (first :: rest).getLast (List.cons_ne_nil first rest) := by
    rw [hframe, List.getLast?_eq_some_getLast (List.cons_ne_nil first rest)] at hlast
    exact (Option.some.inj hlast).symm
  rw [hframe] at hfalling hoffsets
  obtain ⟨hmatched, hunpriced, hunmatched⟩ := evidence_of_falling hframe hfalling hoffsets
  refine ⟨?_, ?_, ⟨hunpriced, hunmatched⟩, ?_⟩
  · rw [sum_evidence_costs _ _ (nodup_offsets_decode _ _), hframe, hmatched,
      priced_of_falling first rest hfalling, List.map_map, hend]
    exact sum_drop_of_falling first rest hfalling
  · rw [hframe, hend]
    exact observations_of_falling first rest hfalling
  · intro map source file? report hok
    rcases traceCounts_of_analyze hok with ⟨hnone, -⟩ | ⟨-, hskipped, hoff, -⟩
    · -- the first step stands at an instruction, so there is code
      obtain ⟨i, hi, -⟩ := hoffsets first List.mem_cons_self
      rw [hnone] at hi
      exact absurd hi List.not_mem_nil
    · exact ⟨hskipped.trans (congrArg (trace.skipped + ·) hunpriced), hoff.trans hunmatched⟩

/-- Two turns of a loop with a step of an inner call and a broken entry in between. -/
theorem costs_telescope_over_turns :
    let step (pc gas depth : Int) : Json :=
      .obj [("pc", .int pc), ("op", .str "JUMPDEST"), ("gas", .int gas), ("depth", .int depth)]
    let trace := ParsedTrace.ofJson (some Settings.standard.traceLimit) (.obj [("structLogs", .arr
      [step 0 100 1, step 1 90 1, step 0 500 2, .null, step 0 90 1, step 1 40 1])])
    let first : TraceEntry := ⟨0, "JUMPDEST", 100, none, 1, []⟩
    let last : TraceEntry := ⟨1, "JUMPDEST", 40, none, 1, []⟩
    (outerFrame trace).head? = some first ∧ (outerFrame trace).getLast? = some last
      ∧ Falling (outerFrame trace)
      ∧ (∀ e ∈ outerFrame trace, ∃ i ∈ (decode Settings.standard.instructionLimit
          (.text "5b5b00")).instructions, e.pc = i.offset)
      ∧ Telescopes Settings.standard (.text "5b5b00") trace first last := by
  intro step trace first last
  have hframe : outerFrame trace = [first, ⟨1, "JUMPDEST", 90, none, 1, []⟩,
      ⟨0, "JUMPDEST", 90, none, 1, []⟩, last] := by decide +kernel
  have hfirst : (outerFrame trace).head? = some first := by rw [hframe]; rfl
  have hlast : (outerFrame trace).getLast? = some last := by rw [hframe]; rfl
  have hfalling : Falling (outerFrame trace) := by
    rw [hframe]
    exact ⟨by decide, by decide⟩
  have hoffsets : ∀ e ∈ outerFrame trace, ∃ i ∈ (decode Settings.standard.instructionLimit
      (.text "5b5b00")).instructions, e.pc = i.offset := by
    rw [hframe]
    decide +kernel
  exact ⟨hfirst, hlast, hfalling, hoffsets,
    costs_telescope _ _ trace first last hfirst hlast hfalling hoffsets⟩

end Report

end EvmScope
