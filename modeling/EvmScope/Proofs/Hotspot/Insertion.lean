import EvmScope.Hotspot.Report
import EvmScope.Proofs.Trace.Logs

set_option autoImplicit false

/-! # What does not belong to the outermost frame is of no account

Entries of inner calls and entries that cannot be read may stand anywhere in a trace: an analysis gives
the same hotspots with them and without them. Inserting entries makes the list of entries an
interleaving of the old one with the inserted ones (`Interleaving`), and reading keeps this. If the
inserted entries lie deeper than the outermost frame, this frame stays as it is, entry by entry. So the
neighbour that shows the cost of an entry stays the same too, and with it all that the trace says about
the code. -/

namespace EvmScope

/-! ## Interleaving -/

/-- A list is made of the members of two others, the members of each in their order. -/
inductive Interleaving {α : Type} : List α → List α → List α → Prop
  | nil : Interleaving [] [] []
  | left {a : α} {kept inserted woven : List α} (h : Interleaving kept inserted woven) :
    Interleaving (a :: kept) inserted (a :: woven)
  | right {a : α} {kept inserted woven : List α} (h : Interleaving kept inserted woven) :
    Interleaving kept (a :: inserted) (a :: woven)

namespace Interleaving

variable {α β : Type} {kept inserted woven : List α}

theorem mem_iff (h : Interleaving kept inserted woven) (a : α) :
    a ∈ woven ↔ a ∈ kept ∨ a ∈ inserted := by
  induction h with
  | nil => simp
  | left _ ih => simp [ih, or_assoc]
  | right _ ih => simp [ih, or_left_comm]

theorem length_eq (h : Interleaving kept inserted woven) :
    woven.length = kept.length + inserted.length := by
  induction h with
  | nil => rfl
  | left _ ih => simp only [List.length_cons, ih]; omega
  | right _ ih => simp only [List.length_cons, ih]; omega

theorem countP_eq (h : Interleaving kept inserted woven) (p : α → Bool) :
    woven.countP p = kept.countP p + inserted.countP p := by
  induction h with
  | nil => rfl
  | left _ ih => simp only [List.countP_cons, ih]; omega
  | right _ ih => simp only [List.countP_cons, ih]; omega

theorem filterMap (h : Interleaving kept inserted woven) (f : α → Option β) :
    Interleaving (kept.filterMap f) (inserted.filterMap f) (woven.filterMap f) := by
  induction h with
  | nil => exact .nil
  | @left a _ _ _ _ ih =>
    cases hf : f a with
    | none => simpa only [List.filterMap_cons, hf] using ih
    | some b => simpa only [List.filterMap_cons, hf] using ih.left
  | @right a _ _ _ _ ih =>
    cases hf : f a with
    | none => simpa only [List.filterMap_cons, hf] using ih
    | some b => simpa only [List.filterMap_cons, hf] using ih.right

/-- A filter that refuses all that is inserted passes the same list as before. -/
theorem filter_eq (h : Interleaving kept inserted woven) (p : α → Bool)
    (hp : ∀ a ∈ inserted, p a = false) : woven.filter p = kept.filter p := by
  induction h with
  | nil => rfl
  | left _ ih => rw [List.filter_cons, List.filter_cons, ih hp]
  | right _ ih =>
    rw [List.forall_mem_cons] at hp
    rw [List.filter_cons_of_neg (by simp [hp.1]), ih hp.2]

end Interleaving

/-! ## The outermost frame -/

namespace ParsedTrace

theorem outerDepth?_eq_some_iff (trace : ParsedTrace) (depth : Int) :
    trace.outerDepth? = some depth ↔ (∃ e ∈ trace.entries, e.depth = depth)
      ∧ ∀ e ∈ trace.entries, depth ≤ e.depth := by
  rw [outerDepth?, List.min?_eq_some_iff, List.forall_mem_map, List.mem_map]

end ParsedTrace

namespace RuntimeCosts

/-- Deeper entries, wherever they are inserted, leave the outermost frame as it is. -/
theorem outerFrame_of_interleaving {trace woven : ParsedTrace} {inserted : List TraceEntry}
    {depth : Int} (hwoven : Interleaving trace.entries inserted woven.entries)
    (hdepth : trace.outerDepth? = some depth) (hdeeper : ∀ e ∈ inserted, depth < e.depth) :
    outerFrame woven = outerFrame trace := by
  have hsame : woven.outerDepth? = some depth := by
    rw [ParsedTrace.outerDepth?_eq_some_iff] at hdepth ⊢
    obtain ⟨⟨e, he, heq⟩, hleast⟩ := hdepth
    refine ⟨⟨e, (hwoven.mem_iff e).2 (Or.inl he), heq⟩, ?_⟩
    intro other hother
    rcases (hwoven.mem_iff other).1 hother with hkept | hin
    · exact hleast other hkept
    · exact Int.le_of_lt (hdeeper other hin)
  rw [outerFrame, outerFrame, hsame, hdepth]
  refine hwoven.filter_eq _ ?_
  intro e he
  have hlt := hdeeper e he
  exact beq_eq_false_iff_ne.2 (by omega)

theorem evidence_congr (instructions : List Instruction) {trace other : ParsedTrace}
    (hframe : outerFrame other = outerFrame trace) :
    evidence instructions other = evidence instructions trace := by
  rw [evidence, evidence, hframe]

end RuntimeCosts

/-! ## Analyses -/

namespace Report

/-- A report whose diagnostics count some more entries, a number of them as skipped; a report on no
    code has no counts. -/
def withEntries (report : Report) (entries skipped : Nat) : Report :=
  if report.diagnostics.nothingToAnalyze then report
  else
    { report with
      diagnostics :=
        { report.diagnostics with
          traceEntries := report.diagnostics.traceEntries + entries
          skippedTraceEntries := report.diagnostics.skippedTraceEntries + skipped } }

/-- Traces with one outermost frame give one report but for the counts of their entries. -/
theorem analyze_of_outerFrame_eq (settings : Settings) (code : Code) (map : SourceMap)
    (source : String) (file? : Option Int) {trace other : ParsedTrace} {entries skipped : Nat}
    (hframe : RuntimeCosts.outerFrame other = RuntimeCosts.outerFrame trace)
    (htotal : other.total = trace.total + entries)
    (hskipped : other.skipped = trace.skipped + skipped) :
    analyze settings code map source (some other) file?
      = (analyze settings code map source (some trace) file?).map
          (fun report => report.withEntries entries skipped) := by
  have hevidence := RuntimeCosts.evidence_congr
    (decode settings.instructionLimit code).instructions hframe
  unfold analyze
  by_cases hempty : (decode settings.instructionLimit code).isEmpty = true
  · rw [if_pos hempty, if_pos hempty]
    rfl
  · rw [if_neg hempty, if_neg hempty]
    dsimp only
    rw [hevidence]
    split
    · rfl
    · simp only [Except.map, withEntries, Bool.false_eq_true, if_false, Option.map_some,
        Option.getD_some, htotal, hskipped, Nat.add_right_comm]

/-- A trace document with a list of entries is read as a trace. -/
theorem traceOf_of_logs (settings : Settings) {document : Json} {logs : List Json}
    (hlogs : ParsedTrace.logs? document = some logs) :
    traceOf settings document
      = some (ParsedTrace.ofJson (some settings.traceLimit) document) := by
  cases document with
  | null => cases hlogs
  | _ => rfl

/-- **Inner frames and unreadable entries are of no account.** Take a trace document with a list of
    entries, of which one can be read, and insert anywhere entries that cannot be read or that lie
    deeper than the outermost frame, within the limit on entries. The analysis gives the same report or
    the same fault as before, but that the report counts the inserted entries, those that cannot be read
    as skipped. A report on code without instructions has no counts and stays as it is. -/
theorem analyze_of_interleaving (settings : Settings) (code : Code) (map : SourceMap)
    (source : String) (file? : Option Int) (document woven : Json) (logs inserted logs' : List Json)
    (depth : Int) (hlogs : ParsedTrace.logs? document = some logs)
    (hlogs' : ParsedTrace.logs? woven = some logs') (hwoven : Interleaving logs inserted logs')
    (hlimit : logs'.length ≤ settings.traceLimit)
    (hdepth : (ParsedTrace.ofJson (some settings.traceLimit) document).outerDepth? = some depth)
    (hinserted : ∀ log ∈ inserted, ∀ e, TraceEntry.ofJson? log = some e → depth < e.depth) :
    analyze settings code map source (traceOf settings woven) file?
      = (analyze settings code map source (traceOf settings document) file?).map
          (fun report => report.withEntries inserted.length
            (inserted.countP (fun log => (TraceEntry.ofJson? log).isNone))) := by
  have hlength := hwoven.length_eq
  have hlimit₀ : logs.length ≤ settings.traceLimit := by omega
  have hentries := ParsedTrace.entries_of_logs hlogs hlimit₀
  have hentries' := ParsedTrace.entries_of_logs hlogs' hlimit
  -- reading keeps the interleaving, so the frame keeps its entries
  have hframe : RuntimeCosts.outerFrame (ParsedTrace.ofJson (some settings.traceLimit) woven)
      = RuntimeCosts.outerFrame (ParsedTrace.ofJson (some settings.traceLimit) document) := by
    have hread := hwoven.filterMap TraceEntry.ofJson?
    rw [← hentries, ← hentries'] at hread
    refine RuntimeCosts.outerFrame_of_interleaving hread hdepth ?_
    intro e he
    obtain ⟨log, hlog, hread⟩ := List.mem_filterMap.1 he
    exact hinserted log hlog e hread
  have htotal : (ParsedTrace.ofJson (some settings.traceLimit) woven).total
      = (ParsedTrace.ofJson (some settings.traceLimit) document).total + inserted.length := by
    rw [(ParsedTrace.read_of_logs hlogs).2.1, (ParsedTrace.read_of_logs hlogs').2.1, hlength]
  have hskipped : (ParsedTrace.ofJson (some settings.traceLimit) woven).skipped
      = (ParsedTrace.ofJson (some settings.traceLimit) document).skipped
        + inserted.countP (fun log => (TraceEntry.ofJson? log).isNone) := by
    rw [ParsedTrace.skipped_of_logs hlogs, ParsedTrace.skipped_of_logs hlogs',
      List.take_of_length_le hlimit, List.take_of_length_le hlimit₀, hwoven.countP_eq]
    omega
  rw [traceOf_of_logs settings hlogs, traceOf_of_logs settings hlogs']
  exact analyze_of_outerFrame_eq settings code map source file? hframe htotal hskipped

/-- A step of an inner call and a broken entry between two steps of the outermost frame, of which the
    first one shows its cost only by the second. -/
theorem analyze_of_interleaving_between_steps :
    let first : Json := .obj
      [("pc", .int 0), ("op", .str "SLOAD"), ("gas", .int 9000), ("depth", .int 1)]
    let second : Json := .obj
      [("pc", .int 1), ("op", .str "POP"), ("gas", .int 2000), ("depth", .int 1)]
    let inner : Json := .obj
      [("pc", .int 0), ("op", .str "SSTORE"), ("gas", .int 8000), ("depth", .int 2)]
    let broken : Json := .obj [("pc", .int (-1)), ("op", .str "POP"), ("gas", .int 7000)]
    let document (logs : List Json) : Json := .obj [("structLogs", .arr logs)]
    Interleaving [first, second] [inner, broken] [first, inner, broken, second]
      ∧ (ParsedTrace.ofJson (some Settings.standard.traceLimit)
          (document [first, second])).outerDepth? = some 1
      ∧ TraceEntry.ofJson? broken = none
      ∧ analyze Settings.standard (.text "5450") (SourceMap.ofText (some "0:1:0")) "ab"
          (traceOf Settings.standard (document [first, inner, broken, second])) none
        = (analyze Settings.standard (.text "5450") (SourceMap.ofText (some "0:1:0")) "ab"
            (traceOf Settings.standard (document [first, second])) none).map
            (fun report => report.withEntries 2 1) := by
  intro first second inner broken document
  have hwoven : Interleaving [first, second] [inner, broken] [first, inner, broken, second] :=
    .left (.right (.right (.left .nil)))
  have hdepth : (ParsedTrace.ofJson (some Settings.standard.traceLimit)
      (document [first, second])).outerDepth? = some 1 := by decide +kernel
  have hbroken : TraceEntry.ofJson? broken = none := by decide +kernel
  have hinner : TraceEntry.ofJson? inner = some ⟨0, "SSTORE", 8000, none, 2, []⟩ := by
    decide +kernel
  refine ⟨hwoven, hdepth, hbroken, ?_⟩
  have hdeeper : ∀ log ∈ [inner, broken], ∀ e, TraceEntry.ofJson? log = some e → 1 < e.depth := by
    intro log hlog e he
    simp only [List.mem_cons, List.not_mem_nil, or_false] at hlog
    rcases hlog with rfl | rfl
    · rw [hinner] at he
      cases he
      decide
    · rw [hbroken] at he
      cases he
  have hunread : [inner, broken].countP (fun log => (TraceEntry.ofJson? log).isNone) = 1 := by
    simp [hinner, hbroken]
  have hsame := analyze_of_interleaving Settings.standard (.text "5450")
    (SourceMap.ofText (some "0:1:0")) "ab" none (document [first, second])
    (document [first, inner, broken, second]) [first, second] [inner, broken]
    [first, inner, broken, second] 1 rfl rfl hwoven (by decide) hdepth hdeeper
  rw [hunread] at hsame
  exact hsame

/-- Without code nothing of a trace is counted, so an inserted entry is not counted either. -/
theorem traceEntries_of_no_code :
    let step : Json := .obj [("pc", .int 0), ("op", .str "STOP")]
    let document (logs : List Json) : Json := .obj [("structLogs", .arr logs)]
    Interleaving [step] [.null] [step, .null]
      ∧ (ParsedTrace.ofJson (some Settings.standard.traceLimit) (document [step])).outerDepth?
        = some 1
      ∧ TraceEntry.ofJson? .null = none
      ∧ ∃ report report',
        analyze Settings.standard (.text "") (SourceMap.ofText (some "")) ""
            (traceOf Settings.standard (document [step])) none = .ok report
          ∧ analyze Settings.standard (.text "") (SourceMap.ofText (some "")) ""
            (traceOf Settings.standard (document [step, .null])) none = .ok report'
          ∧ report'.diagnostics.traceEntries ≠ report.diagnostics.traceEntries + 1 := by
  intro step document
  refine ⟨.left (.right .nil), by decide +kernel, rfl, nothing, nothing, rfl, rfl, ?_⟩
  decide

end Report

end EvmScope
