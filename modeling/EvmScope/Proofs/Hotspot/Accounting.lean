import EvmScope.Proofs.Hotspot.Report
import EvmScope.Proofs.Trace.Accounting

set_option autoImplicit false

/-! # Every entry of a trace is counted once

An entry of a trace can get lost at three places: the limit cuts it off, it cannot be read, or it is a
step of the outermost frame that shows no cost. Reading counts the first two and the evidence of the trace
the third, all of them as skipped. A step that shows a cost is either unmatched or charged to an
instruction, and an instruction is refined by one step or by several. So the counts of a report stand for
entries that are all different, and together they keep below the number of entries: the steps of the
frame are among the kept entries, and these make up the list with those that reading skips. -/

namespace EvmScope

namespace RuntimeCosts

/-! ## Steps of the frame -/

theorem length_outerFrame_le (trace : ParsedTrace) :
    (outerFrame trace).length ≤ trace.entries.length := by
  unfold outerFrame
  split
  · exact List.length_filter_le _ _
  · exact Nat.zero_le _

theorem length_observations (frame : List TraceEntry) :
    (observations frame).length = frame.length := by
  simp only [observations, List.length_map, List.length_zip, List.length_append, List.length_tail,
    List.length_singleton]
  omega

/-- The steps of a frame that show a cost: their offsets with the gas they took. -/
def priced (frame : List TraceEntry) : List (Int × Int) :=
  (observations frame).filterMap (fun seen => seen.2.map (fun gas => (seen.1, gas)))

theorem length_priced_le (frame : List TraceEntry) : (priced frame).length ≤ frame.length := by
  rw [← length_observations]
  exact List.length_filterMap_le _ _

/-- Whether an instruction stands at the offset of a step. -/
def isMatched (instructions : List Instruction) (step : Int × Int) : Bool :=
  (offsetSet instructions).contains step.1

/-- The evidence of a trace in terms of the steps with a cost. -/
theorem evidence_eq (instructions : List Instruction) (trace : ParsedTrace) :
    evidence instructions trace =
      { costs := ((priced (outerFrame trace)).filter (isMatched instructions)).foldl
          (fun costs step => charge costs step.1 step.2) ∅
        unpriced := (outerFrame trace).length - (priced (outerFrame trace)).length
        unmatched := ((priced (outerFrame trace)).filter
          (fun step => !isMatched instructions step)).length } := by
  rw [← length_observations, evidence]
  simp only [List.partition_eq_filter_filter]
  rfl

/-- A charge adds at most one offset to the table. -/
theorem size_foldl_charge_le (steps : List (Int × Int)) (costs : RuntimeCosts) :
    (steps.foldl (fun costs step => charge costs step.1 step.2) costs).size
      ≤ costs.size + steps.length := by
  induction steps generalizing costs with
  | nil => exact Nat.le_refl _
  | cons step rest ih =>
    have hone : (charge costs step.1 step.2).size ≤ costs.size + 1 := Std.HashMap.size_insert_le
    have hrest := ih (charge costs step.1 step.2)
    rw [List.foldl_cons, List.length_cons]
    omega

/-- Every step of the frame is counted for one thing at most. -/
theorem counts_evidence_le (instructions : List Instruction) (trace : ParsedTrace) :
    (evidence instructions trace).unpriced + (evidence instructions trace).unmatched
      + (evidence instructions trace).costs.size ≤ (outerFrame trace).length := by
  have hpriced := length_priced_le (outerFrame trace)
  have hsplit := List.length_eq_length_filter_add (l := priced (outerFrame trace))
    (isMatched instructions)
  have hsize := size_foldl_charge_le ((priced (outerFrame trace)).filter (isMatched instructions)) ∅
  rw [Std.HashMap.size_empty] at hsize
  rw [evidence_eq]
  dsimp only
  omega

end RuntimeCosts

namespace Report

open RuntimeCosts

/-! ## The counts of a report -/

section Counts

variable {settings : Settings} {code : Code} {map : SourceMap} {source : String}
  {trace? : Option ParsedTrace} {file? : Option Int} {report : Report}

/-- What a report says about its trace are the counts of reading it and those of its evidence, unless
    there is no code: then nothing is counted. -/
theorem traceCounts_of_analyze
    (hok : analyze settings code map source trace? file? = .ok report) :
    (decode settings.instructionLimit code).instructions = [] ∧ report = nothing ∨
      let evidence := evidenceOf (decode settings.instructionLimit code).instructions trace?
      report.diagnostics.traceEntries = (trace?.map (·.total)).getD 0
        ∧ report.diagnostics.skippedTraceEntries
          = (trace?.map (·.skipped)).getD 0 + evidence.unpriced
        ∧ report.diagnostics.unmatchedOffsets = evidence.unmatched
        ∧ report.diagnostics.refinedInstructions = evidence.costs.size := by
  unfold analyze at hok
  dsimp only at hok
  split at hok
  · next hempty => exact Or.inl ⟨List.isEmpty_iff.1 hempty, (Except.ok.inj hok).symm⟩
  · right
    split at hok
    · exact absurd hok (by simp)
    · obtain rfl := Except.ok.inj hok
      cases trace? with
      | none => exact ⟨rfl, rfl, rfl, rfl⟩
      | some trace => exact ⟨rfl, rfl, rfl, rfl⟩

/-- The counts of a report keep below the number of entries, for a trace document of any shape. -/
theorem counts_le_traceEntries {document : Json}
    (hok : analyze settings code map source (traceOf settings document) file? = .ok report) :
    report.diagnostics.skippedTraceEntries + report.diagnostics.unmatchedOffsets
      + report.diagnostics.refinedInstructions ≤ report.diagnostics.traceEntries := by
  rcases traceCounts_of_analyze hok with ⟨-, rfl⟩ | ⟨htotal, hskipped, hunmatched, hrefined⟩
  · exact Nat.le_refl 0
  · rw [htotal, hskipped, hunmatched, hrefined]
    cases htrace : traceOf settings document with
    | none => simp [evidenceOf, Evidence.none]
    | some trace =>
      have hcounts := counts_evidence_le (decode settings.instructionLimit code).instructions trace
      have hframe := length_outerFrame_le trace
      have hread := ParsedTrace.length_entries_add_skipped settings.traceLimit document
      rw [← eq_ofJson_of_traceOf htrace] at hread
      simp only [evidenceOf, Option.map_some, Option.getD_some]
      omega

end Counts

/-! ## From the list to the report -/

/-- Every entry of the list of a trace document is counted once: in what is read of the list, with a limit
    or without one, and in every report. -/
structure CountsOnce (document : Json) (logs : List Json) : Prop where
  accountsFor : ∀ limit? : Option Nat,
    ParsedTrace.AccountsFor limit? logs (ParsedTrace.ofJson (limit?.map Nat.cast) document)
  /-- What a limit lets through stands in front of what is read without one. -/
  isPrefix : ∀ limit : Nat,
    (ParsedTrace.ofJson (some limit) document).entries <+: (ParsedTrace.ofJson none document).entries
  /-- A list that is cut in two is read part by part. -/
  partByPart : ∀ (front back : Json) (first second : List Json), logs = first ++ second →
    ParsedTrace.logs? front = some first → ParsedTrace.logs? back = some second →
    (ParsedTrace.ofJson none document).entries
        = (ParsedTrace.ofJson none front).entries ++ (ParsedTrace.ofJson none back).entries
      ∧ (ParsedTrace.ofJson none document).skipped
        = (ParsedTrace.ofJson none front).skipped + (ParsedTrace.ofJson none back).skipped
  /-- The skipped entries, the unmatched steps and the refined instructions of a report are no more than
      the entries. -/
  counts_le : ∀ (settings : Settings) (code : Code) (map : SourceMap) (source : String)
    (file? : Option Int) (report : Report),
    analyze settings code map source (traceOf settings document) file? = .ok report →
    report.diagnostics.skippedTraceEntries + report.diagnostics.unmatchedOffsets
      + report.diagnostics.refinedInstructions ≤ report.diagnostics.traceEntries

/-- **Every entry of a trace is accounted for once.** Of a document with a list of entries, reading keeps
    the readable ones within the limit in their order and counts the others as skipped, and no mix of
    unreadable entries, inner frames, unmatched steps and steps without a cost makes the counts of a report
    exceed the number of entries. -/
theorem logs_countOnce (document : Json) (logs : List Json)
    (hlogs : ParsedTrace.logs? document = some logs) : CountsOnce document logs where
  accountsFor := ParsedTrace.accountsFor_ofJson hlogs
  isPrefix := ParsedTrace.entries_isPrefix hlogs
  partByPart := by
    rintro front back first second rfl hfront hback
    exact ParsedTrace.read_append hfront hback hlogs
  counts_le := fun _ _ _ _ _ _ hok => counts_le_traceEntries hok

/-- A list with an entry of each kind: one that cannot be read, two steps of one instruction with an inner
    one between them, a step where no instruction stands, and a last step that shows no cost. -/
theorem logs_countOnce_of_each_kind :
    let step (pc : Int) (depth : Int) (cost : Json) : Json :=
      .obj [("pc", .int pc), ("op", .str "JUMPDEST"), ("depth", .int depth), ("gasCost", cost)]
    let logs := [.null, step 0 1 (.int 1), step 0 2 (.int 5), step 0 1 (.int 1), step 9 1 (.int 3),
      step 1 1 .null]
    ParsedTrace.logs? (.obj [("structLogs", .arr logs)]) = some logs
      ∧ CountsOnce (.obj [("structLogs", .arr logs)]) logs := by
  intro step logs
  exact ⟨rfl, logs_countOnce _ logs rfl⟩

end Report

end EvmScope
