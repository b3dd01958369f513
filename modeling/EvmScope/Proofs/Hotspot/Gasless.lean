import EvmScope.Proofs.Hotspot.Fault

set_option autoImplicit false

/-! # Traces without gas

A trace whose entries carry no gas shows no cost, so one expects it to change nothing. But gas that is
missing is read as zero gas left, and where an entry of the outermost frame is followed by another one,
the difference of the two is taken for a recorded cost: the instruction is charged nothing in place of
its static cost. An instruction that is *followed* in this sense drops out of its hotspot. All others
keep their static cost, so the hotspots are the same exactly where no attributed instruction is
followed. -/

namespace EvmScope

namespace RuntimeCosts

/-- Whether the outermost frame of a trace has a step of an instruction with another step behind it. -/
def followed (trace? : Option ParsedTrace) (i : Instruction) : Bool :=
  match trace? with
  | none => false
  | some trace => (outerFrame trace).dropLast.any (fun e => e.pc == (i.offset : Int))

/-- A trace of which no entry shows gas. -/
def Gasless (trace? : Option ParsedTrace) : Prop :=
  ∀ trace, trace? = some trace → ∀ e ∈ trace.entries, e.gas = 0 ∧ e.gasCost = none

/-! ## What is recorded -/

/-- Without gas every step but the last one shows a cost of zero. -/
theorem filterMap_observations_of_gasless (frame : List TraceEntry) (offset : Int)
    (hframe : ∀ e ∈ frame, e.gas = 0 ∧ e.gasCost = none) :
    (observations frame).filterMap (fun (pc, gas?) => if pc = offset then gas? else none)
      = (frame.dropLast.filter (fun e => e.pc == offset)).map (fun _ => 0) := by
  induction frame with
  | nil => rfl
  | cons e rest ih =>
    rw [List.forall_mem_cons] at hframe
    obtain ⟨⟨hgas, hcost⟩, hrest⟩ := hframe
    cases rest with
    | nil => simp [observations, gasOf?, hcost]
    | cons next rest =>
      -- the step behind has no gas either, so the difference is zero
      have hnext := (hrest next List.mem_cons_self).1
      have hshown : gasOf? e (some next) = some 0 := by simp [gasOf?, hcost, hgas, hnext]
      rw [observations_cons_cons, List.dropLast_cons_cons, List.filterMap_cons, List.filter_cons,
        ih hrest, hshown]
      by_cases hpc : e.pc = offset
      · simp [hpc]
      · simp [hpc]

theorem recorded_of_gasless {trace : ParsedTrace} (hgas : Gasless (some trace)) (i : Instruction) :
    recorded (some trace) i
      = ((outerFrame trace).dropLast.filter (fun e => e.pc == (i.offset : Int))).map (fun _ => 0) := by
  refine filterMap_observations_of_gasless _ _ ?_
  intro e he
  refine hgas trace rfl e ?_
  unfold outerFrame at he
  split at he
  · exact List.mem_of_mem_filter he
  · cases he

theorem recorded_eq_nil_iff {trace? : Option ParsedTrace} (hgas : Gasless trace?) (i : Instruction) :
    recorded trace? i = [] ↔ followed trace? i = false := by
  cases trace? with
  | none => simp [recorded, followed]
  | some trace =>
    rw [recorded_of_gasless hgas, List.map_eq_nil_iff, List.filter_eq_nil_iff, followed,
      List.any_eq_false]

/-- An instruction that is not followed keeps its static charge. -/
theorem chargeOf_of_not_followed {trace? : Option ParsedTrace} (hgas : Gasless trace?)
    {i : Instruction} (hi : followed trace? i = false) : chargeOf trace? i = chargeOf none i := by
  have hnone := (recorded_eq_nil_iff hgas i).2 hi
  have hplain : recorded none i = [] := rfl
  rw [chargeOf, chargeOf, costOf, costOf, hnone, hplain]

theorem costOf_of_not_followed {trace? : Option ParsedTrace} (hgas : Gasless trace?)
    {i : Instruction} (hi : followed trace? i = false) : costOf trace? i = costOf none i :=
  congrArg Charge.gas (chargeOf_of_not_followed hgas hi)

/-- An instruction that is followed costs nothing. -/
theorem costOf_of_followed {trace? : Option ParsedTrace} (hgas : Gasless trace?) {i : Instruction}
    (hi : followed trace? i = true) : costOf trace? i = 0 := by
  cases trace? with
  | none => cases hi
  | some trace =>
    have hsome : recorded (some trace) i ≠ [] := by
      rw [ne_eq, recorded_eq_nil_iff hgas, hi]
      decide
    rw [costOf, if_neg hsome, recorded_of_gasless hgas, List.map_map]
    exact List.sum_map_zero

end RuntimeCosts

open RuntimeCosts

/-- What a hotspot says but for the positions and the advice. -/
def Hotspot.outline (h : Hotspot) : (Int × Int) × Int × Severity × List String :=
  (h.range, h.gas, h.severity, h.mnemonics)

/-! ## Documents without gas -/

/-- No readable entry of a trace document carries gas. -/
def ParsedTrace.ShowsNoGas (document : Json) : Prop :=
  ∀ log ∈ (logs? document).getD [], (TraceEntry.ofJson? log).isSome → TraceEntry.HasNoGas log

theorem Report.gasless_traceOf (settings : Settings) {document : Json}
    (hgas : ParsedTrace.ShowsNoGas document) : Gasless (traceOf settings document) := by
  intro trace htrace e he
  rw [eq_ofJson_of_traceOf htrace, (ParsedTrace.read_eq settings.traceLimit document).1] at he
  obtain ⟨log, hlog, hsome⟩ := List.mem_filterMap.1 he
  exact TraceEntry.gas_of_hasNoGas
    (hgas log (List.mem_of_mem_take hlog) (Option.isSome_of_eq_some hsome)) hsome

namespace Report

variable {settings : Settings} {code : Code} {map : SourceMap} {source : String}
  {trace? : Option ParsedTrace} {file? : Option Int} {report traced : Report}

/-! ## What is left of the attribution -/

/-- The attributed instructions are those of an analysis without a trace that are not followed. -/
theorem shares_of_gasless (hgas : Gasless trace?) :
    shares settings code map trace? file?
      = (shares settings code map none file?).filter (fun share => !followed trace? share.1) := by
  rw [shares, shares, attributed, attributed, List.filter_filterMap]
  apply List.filterMap_congr
  rintro ⟨i, place⟩ -
  dsimp only
  cases map.entries[place]? with
  | none => rfl
  | some mapping =>
    rw [Option.bind_some, Option.bind_some]
    cases hi : followed trace? i with
    | false =>
      rw [costOf_of_not_followed hgas hi]
      split
      · simp [Option.filter, hi]
      · rfl
    | true =>
      rw [costOf_of_followed hgas hi, if_neg (fun hif => absurd hif.1 (by decide))]
      split
      · simp [Option.filter, hi]
      · rfl

theorem sharesAt_of_gasless (hgas : Gasless trace?) (range : Int × Int) :
    sharesAt settings code map trace? file? range
      = (sharesAt settings code map none file? range).filter
          (fun share => !followed trace? share.1) := by
  rw [sharesAt, sharesAt, shares_of_gasless hgas, List.filter_comm]

/-- No range gains gas. -/
theorem gasAt_le_of_gasless (hgas : Gasless trace?) (range : Int × Int) :
    gasAt settings code map trace? file? range ≤ gasAt settings code map none file? range := by
  have hsame : (sharesAt settings code map trace? file? range).map (fun s => costOf trace? s.1)
      = (sharesAt settings code map trace? file? range).map (fun s => costOf none s.1) := by
    refine List.map_congr_left ?_
    intro share hshare
    rw [sharesAt_of_gasless hgas] at hshare
    exact costOf_of_not_followed hgas (by simpa using (List.mem_filter.1 hshare).2)
  rw [gasAt, gasAt, hsame, sharesAt_of_gasless hgas]
  refine (List.filter_sublist.map _).sum_le_sum ?_
  rw [List.forall_mem_map]
  intro share hshare
  exact Int.le_of_lt (costOf_pos_of_mem_shares settings code map none file? share
    (List.mem_of_mem_filter hshare))

theorem exists_analyze_of_gasless (hgas : Gasless trace?)
    (hok : analyze settings code map source none file? = .ok report) :
    ∃ traced, analyze settings code map source trace? file? = .ok traced := by
  rw [exists_report_iff_gasAt]
  intro share hshare
  rw [shares_of_gasless hgas] at hshare
  have hfits := (exists_report_iff_gasAt settings code map source none file?).1 ⟨report, hok⟩ share
    (List.mem_of_mem_filter hshare)
  exact Int.lt_of_le_of_lt (gasAt_le_of_gasless hgas share.2.range) hfits

/-! ## When nothing is left out -/

theorem hotspots_of_not_followed (hgas : Gasless trace?)
    (hok : analyze settings code map source none file? = .ok report)
    (htraced : analyze settings code map source trace? file? = .ok traced)
    (hshares : ∀ share ∈ shares settings code map none file?, followed trace? share.1 = false) :
    traced.hotspots = report.hotspots := by
  have hall : shares settings code map trace? file? = shares settings code map none file? := by
    rw [shares_of_gasless hgas, List.filter_eq_self]
    intro share hshare
    rw [hshares share hshare, Bool.not_false]
  have hplaced : placedShares (placedCharges settings code map trace? file?)
      = placedShares (placedCharges settings code map none file?) := by
    rw [placedShares_placedCharges, placedShares_placedCharges, hall]
    refine List.map_congr_left ?_
    rintro ⟨i, m⟩ hshare
    dsimp only
    rw [chargeOf_of_not_followed hgas (hshares (i, m) hshare)]
  have hranked := (analyze_ok hok).1
  have hranked' := (analyze_ok htraced).1
  rw [Groups.ofPlacements_congr hplaced, hranked] at hranked'
  exact (Except.ok.inj hranked').symm

/-! ## When something is left out -/

/-- Hotspots of one outline have all their instructions, so none of these is followed. -/
theorem not_followed_of_outlines_eq (hgas : Gasless trace?)
    (hok : analyze settings code map source none file? = .ok report)
    (htraced : analyze settings code map source trace? file? = .ok traced)
    (hsame : traced.hotspots.map Hotspot.outline = report.hotspots.map Hotspot.outline)
    (share : Instruction × Mapping) (hshare : share ∈ shares settings code map none file?) :
    followed trace? share.1 = false := by
  have hranked := (analyze_ok hok).1
  have hranked' := (analyze_ok htraced).1
  -- the hotspot of its range, and the one of the same outline under the trace
  obtain ⟨h, hh, hrange⟩ := exists_hotspot_of_mem_shares hranked share hshare
  obtain ⟨h', hh', houtline⟩ : ∃ h' ∈ traced.hotspots, h'.outline = h.outline := by
    rw [← List.mem_map, hsame]
    exact List.mem_map_of_mem hh
  have hrange' : h'.range = h.range := congrArg (·.1) houtline
  have hmnemonics : h'.mnemonics = h.mnemonics := congrArg (·.2.2.2) houtline
  have hall := (figures_of_mem_ranked hranked h hh).2.1
  have hleft := (figures_of_mem_ranked hranked' h' hh').2.1
  have hlength : (sharesAt settings code map trace? file? share.2.range).length
      = (sharesAt settings code map none file? share.2.range).length := by
    rw [hmnemonics, hall, hrange', hrange] at hleft
    simpa only [List.length_map] using (congrArg List.length hleft).symm
  rw [sharesAt_of_gasless hgas, List.length_filter_eq_length_iff] at hlength
  have hkept := hlength share (List.mem_filter.2 ⟨hshare, by simp⟩)
  simpa using hkept

/-- What a trace without gas does to a report: it takes the gas of the followed instructions away. -/
structure LosesFollowed (settings : Settings) (code : Code) (map : SourceMap)
    (trace? : Option ParsedTrace) (file? : Option Int) (report traced : Report) : Prop where
  /-- What is attributed without the trace stays attributed unless it is followed. -/
  shares_eq : shares settings code map trace? file?
    = (shares settings code map none file?).filter (fun share => !followed trace? share.1)
  /-- The hotspots stay as they are if no attributed instruction is followed. -/
  hotspots_eq : (∀ share ∈ shares settings code map none file?, followed trace? share.1 = false) →
    traced.hotspots = report.hotspots
  /-- They show the same figures in no other case. -/
  not_followed : traced.hotspots.map Hotspot.outline = report.hotspots.map Hotspot.outline →
    ∀ share ∈ shares settings code map none file?, followed trace? share.1 = false

/-- **A trace without gas takes the gas of every followed instruction away.** If no readable entry of a
    trace document carries gas, an analysis attributes with the trace what it attributes without one, but
    for the instructions that the outermost frame follows up with another step. So the hotspots are the
    same with the trace as without it if no attributed instruction is followed, and only then. -/
theorem analyze_of_gasless (settings : Settings) (code : Code) (map : SourceMap) (source : String)
    (document : Json) (file? : Option Int) (report : Report)
    (hgas : ParsedTrace.ShowsNoGas document)
    (hreport : analyze settings code map source none file? = .ok report) :
    ∃ traced, analyze settings code map source (traceOf settings document) file? = .ok traced
      ∧ LosesFollowed settings code map (traceOf settings document) file? report traced := by
  have hgasless := gasless_traceOf settings hgas
  obtain ⟨traced, htraced⟩ := exists_analyze_of_gasless hgasless hreport
  exact ⟨traced, htraced, shares_of_gasless hgasless,
    hotspots_of_not_followed hgasless hreport htraced,
    not_followed_of_outlines_eq hgasless hreport htraced⟩

/-! ## A read of storage without gas -/

/-- The trace of a read of storage and of the stop behind it, without gas. -/
def gaslessRead : Json :=
  .obj [("structLogs", .arr [
    .obj [("pc", .int 0), ("op", .str "SLOAD"), ("depth", .int 1), ("stack", .arr [.str "0x0"])],
    .obj [("pc", .int 1), ("op", .str "STOP"), ("depth", .int 1), ("stack", .arr [])]])]

theorem gaslessRead_showsNoGas : ParsedTrace.ShowsNoGas gaslessRead := by
  have hlogs : (ParsedTrace.logs? gaslessRead).getD []
      = [ .obj [("pc", .int 0), ("op", .str "SLOAD"), ("depth", .int 1), ("stack", .arr [.str "0x0"])],
          .obj [("pc", .int 1), ("op", .str "STOP"), ("depth", .int 1), ("stack", .arr [])] ] := rfl
  intro log hlog _
  rw [hlogs] at hlog
  simp only [List.mem_cons, List.not_mem_nil, or_false] at hlog
  rcases hlog with rfl | rfl
  · exact ⟨rfl, rfl, rfl⟩
  · exact ⟨rfl, rfl, rfl⟩

theorem exists_analyze_withoutTrace :
    ∃ report, analyze Settings.standard (.text "5400") (SourceMap.ofText (some "0:1:0")) "ab" none none
      = .ok report := by
  rw [exists_report_iff]
  decide +kernel

theorem analyze_of_gasless_read :
    ParsedTrace.ShowsNoGas gaslessRead
      ∧ ∃ report, analyze Settings.standard (.text "5400") (SourceMap.ofText (some "0:1:0")) "ab" none
          none = .ok report
        ∧ ∃ traced, analyze Settings.standard (.text "5400") (SourceMap.ofText (some "0:1:0")) "ab"
            (traceOf Settings.standard gaslessRead) none = .ok traced
          ∧ LosesFollowed Settings.standard (.text "5400") (SourceMap.ofText (some "0:1:0"))
            (traceOf Settings.standard gaslessRead) none report traced := by
  refine ⟨gaslessRead_showsNoGas, exists_analyze_withoutTrace.imp (fun report hreport => ?_)⟩
  exact ⟨hreport,
    analyze_of_gasless _ _ _ _ gaslessRead none report gaslessRead_showsNoGas hreport⟩

/-- The hotspot of the read is lost under the trace. -/
theorem outline_of_gasless_read :
    ParsedTrace.ShowsNoGas gaslessRead
      ∧ ∃ report traced,
        analyze Settings.standard (.text "5400") (SourceMap.ofText (some "0:1:0")) "ab" none none
          = .ok report
        ∧ analyze Settings.standard (.text "5400") (SourceMap.ofText (some "0:1:0")) "ab"
          (traceOf Settings.standard gaslessRead) none = .ok traced
        ∧ traced.hotspots.map Hotspot.outline ≠ report.hotspots.map Hotspot.outline := by
  have hgasless := gasless_traceOf Settings.standard gaslessRead_showsNoGas
  obtain ⟨report, hreport⟩ := exists_analyze_withoutTrace
  obtain ⟨traced, htraced⟩ := exists_analyze_of_gasless hgasless hreport
  refine ⟨gaslessRead_showsNoGas, report, traced, hreport, htraced, ?_⟩
  intro hsame
  have hnone := not_followed_of_outlines_eq hgasless hreport htraced hsame
  -- yet the read is attributed without the trace and followed by the stop
  have hsome : ¬ ∀ share ∈ shares Settings.standard (.text "5400")
      (SourceMap.ofText (some "0:1:0")) none none,
      followed (traceOf Settings.standard gaslessRead) share.1 = false := by
    decide +kernel
  exact hsome hnone

end Report

end EvmScope
