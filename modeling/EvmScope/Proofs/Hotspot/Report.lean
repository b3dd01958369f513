import EvmScope.Hotspot.Report
import EvmScope.Proofs.Hotspot.Runtime
import EvmScope.Proofs.Traversal

set_option autoImplicit false

/-! # What a report is made of

The hotspots of a report are the groups of the placed charges, each turned into a hotspot, in their
ranking. `analyze_ok` takes a report apart into these steps, also where there is no code: without
instructions there are no groups. The ranking is a total preorder that is decided by gas and range
alone, so the hotspots stand in it whatever order the groups came in. -/

namespace EvmScope

/-! ## The ranking -/

namespace Hotspot

theorem ranksBefore_iff (a b : Hotspot) :
    ranksBefore a b = true ↔ b.gas < a.gas ∨ (a.gas = b.gas ∧ (a.start < b.start
      ∨ (a.start = b.start ∧ a.finish ≤ b.finish))) := by
  simp [ranksBefore]

theorem ranksBefore_trans (a b c : Hotspot) (hab : ranksBefore a b = true)
    (hbc : ranksBefore b c = true) : ranksBefore a c = true := by
  rw [ranksBefore_iff] at hab hbc ⊢
  omega

theorem ranksBefore_total (a b : Hotspot) : (ranksBefore a b || ranksBefore b a) = true := by
  rw [Bool.or_eq_true, ranksBefore_iff, ranksBefore_iff]
  omega

end Hotspot

namespace Report

variable {settings : Settings} {source : String}

/-! ## One hotspot -/

/-- The hotspot of a group carries its figures, the range it was asked for, the severity of its gas, and
    the positions of both ends. -/
theorem hotspotOf_ok {range : Int × Int} {group : Group} {h : Hotspot}
    (hok : hotspotOf settings source range group = .ok h) :
    h.range = range ∧ h.gas = group.gas ∧ h.mnemonics = group.mnemonics.reverse
      ∧ h.refined = group.refined ∧ h.severity = Severity.ofGas settings.thresholds h.gas
      ∧ h.startPosition = positionAt source h.start
      ∧ h.finishPosition = positionAt source h.finish := by
  rw [hotspotOf] at hok
  cases hadvice : (GasPattern.detect group.mnemonics.reverse settings.loopLength).recommend
      group.mnemonics.reverse group.gas with
  | error cause =>
    simp only [hadvice] at hok
    cases hok
  | ok advice =>
    simp only [hadvice] at hok
    cases hok
    exact ⟨rfl, rfl, rfl, rfl, rfl, rfl, rfl⟩

theorem fileIndex_of_hotspotOf {range : Int × Int} {group : Group} {h : Hotspot}
    (hok : hotspotOf settings source range group = .ok h) : h.fileIndex = group.fileIndex := by
  obtain ⟨advice, -, rfl⟩ := map_eq_ok_iff.1 hok
  rfl

/-- The only thing that can go wrong with a hotspot is that its gas is too long to be written. -/
theorem hotspotOf_error {range : Int × Int} {group : Group} {cause : NumeralError}
    (herror : hotspotOf settings source range group = .error cause) : cause = .tooLongToWrite := by
  rw [hotspotOf, GasPattern.recommend, Numeral.decimalWithin] at herror
  by_cases hlong : Numeral.maxDigits < (Nat.toDigits 10 group.gas.natAbs).length
  · rw [if_pos hlong] at herror
    cases herror
    rfl
  · rw [if_neg hlong] at herror
    cases herror

/-- A group has a hotspot exactly if its gas can be written into the advice. -/
theorem exists_hotspotOf_iff (range : Int × Int) (group : Group) :
    (∃ h, hotspotOf settings source range group = .ok h)
      ↔ (Nat.toDigits 10 group.gas.natAbs).length ≤ Numeral.maxDigits := by
  rw [hotspotOf, GasPattern.recommend, Numeral.decimalWithin]
  by_cases hlong : Numeral.maxDigits < (Nat.toDigits 10 group.gas.natAbs).length
  · rw [if_pos hlong]
    constructor
    · rintro ⟨h, hok⟩
      cases hok
    · intro hfits
      omega
  · rw [if_neg hlong]
    constructor
    · intro _
      omega
    · intro _
      exact ⟨_, rfl⟩

/-! ## All hotspots -/

section Ranked

variable {groups : Groups} {hotspots : List Hotspot}

/-- Ranking turns every group into a hotspot and sorts the hotspots. -/
theorem ranked_ok (hok : ranked settings source groups = .ok hotspots) :
    ∃ unsorted, groups.toList.mapM (fun (range, group) => hotspotOf settings source range group)
        = .ok unsorted
      ∧ hotspots = unsorted.mergeSort Hotspot.ranksBefore := by
  rw [ranked] at hok
  cases hmap : groups.toList.mapM
      (fun (range, group) => hotspotOf settings source range group) with
  | error cause =>
    rw [hmap] at hok
    cases hok
  | ok unsorted =>
    rw [hmap] at hok
    cases hok
    exact ⟨unsorted, rfl, rfl⟩

/-- Ranking succeeds exactly if the gas of every group can be written into the advice. -/
theorem exists_ranked_iff :
    (∃ hotspots, ranked settings source groups = .ok hotspots)
      ↔ ∀ (range : Int × Int) (group : Group), groups[range]? = some group →
        (Nat.toDigits 10 group.gas.natAbs).length ≤ Numeral.maxDigits := by
  have hmap := exists_mapM_eq_ok_iff
    (fun ((range, group) : (Int × Int) × Group) => hotspotOf settings source range group)
    groups.toList
  simp only [Prod.forall, Std.HashMap.mem_toList_iff_getElem?_eq_some, exists_hotspotOf_iff] at hmap
  rw [Prod.forall, ← hmap]
  constructor
  · rintro ⟨hotspots, hok⟩
    obtain ⟨unsorted, hunsorted, -⟩ := ranked_ok hok
    exact ⟨unsorted, hunsorted⟩
  · rintro ⟨unsorted, hunsorted⟩
    refine ⟨unsorted.mergeSort Hotspot.ranksBefore, ?_⟩
    rw [ranked, hunsorted]
    rfl

theorem ranked_error {cause : NumeralError}
    (herror : ranked settings source groups = .error cause) : cause = .tooLongToWrite := by
  rw [ranked] at herror
  cases hmap : groups.toList.mapM
      (fun (range, group) => hotspotOf settings source range group) with
  | ok unsorted =>
    rw [hmap] at herror
    cases herror
  | error found =>
    rw [hmap] at herror
    cases herror
    obtain ⟨⟨range, group⟩, -, hhotspot⟩ := exists_of_mapM_error hmap
    exact hotspotOf_error hhotspot

/-- The hotspots of a report stand in their ranking. -/
theorem ranked_pairwise (hok : ranked settings source groups = .ok hotspots) :
    hotspots.Pairwise (fun a b => Hotspot.ranksBefore a b = true) := by
  obtain ⟨unsorted, -, rfl⟩ := ranked_ok hok
  exact List.pairwise_mergeSort Hotspot.ranksBefore_trans Hotspot.ranksBefore_total unsorted

/-- Every hotspot of a report comes from the group of its range. -/
theorem exists_group_of_mem_ranked (hok : ranked settings source groups = .ok hotspots)
    (h : Hotspot) (hh : h ∈ hotspots) :
    ∃ group, groups[h.range]? = some group ∧ hotspotOf settings source h.range group = .ok h := by
  obtain ⟨unsorted, hmap, rfl⟩ := ranked_ok hok
  rw [List.mem_mergeSort] at hh
  obtain ⟨⟨range, group⟩, hmem, hhotspot⟩ := exists_of_mem_mapM hmap h hh
  have hrange : h.range = range := (hotspotOf_ok hhotspot).1
  rw [hrange]
  exact ⟨group, Std.HashMap.mem_toList_iff_getElem?_eq_some.1 hmem, hhotspot⟩

/-- The ranges of the hotspots are those of the groups, in some order. -/
theorem map_range_ranked_perm (hok : ranked settings source groups = .ok hotspots) :
    (hotspots.map Hotspot.range).Perm groups.keys := by
  obtain ⟨unsorted, hmap, rfl⟩ := ranked_ok hok
  have hranges : unsorted.map Hotspot.range = groups.keys := by
    rw [map_eq_map_of_mapM hmap Prod.fst Hotspot.range
      (fun entry h hhotspot => (hotspotOf_ok hhotspot).1), Std.HashMap.map_fst_toList_eq_keys]
  rw [← hranges]
  exact (List.mergeSort_perm unsorted Hotspot.ranksBefore).map _

end Ranked

/-! ## The whole report -/

/-- The trace of a document is what is read of it up to the limit of the settings. -/
theorem eq_ofJson_of_traceOf {document : Json} {trace : ParsedTrace}
    (htrace : traceOf settings document = some trace) :
    trace = ParsedTrace.ofJson (some settings.traceLimit) document := by
  unfold traceOf at htrace
  split at htrace
  · exact absurd htrace (by simp)
  · exact (Option.some.inj htrace).symm

/-- The instructions of a code with their charges placed. -/
def placedCharges (settings : Settings) (code : Code) (map : SourceMap)
    (trace? : Option ParsedTrace) (file? : Option Int) : List (Charge × Placement) :=
  let instructions := (decode settings.instructionLimit code).instructions
  placements (RuntimeCosts.evidenceOf instructions trace?).costs file? map instructions

variable {code : Code} {map : SourceMap} {trace? : Option ParsedTrace} {file? : Option Int}

/-- A report ranks the groups of the placed charges, adds up their gas, and counts the charges
    without a place. -/
theorem analyze_ok {report : Report}
    (hok : analyze settings code map source trace? file? = .ok report) :
    ranked settings source
        (Groups.ofPlacements (placedCharges settings code map trace? file?)) = .ok report.hotspots
      ∧ report.totalGas = (report.hotspots.map Hotspot.gas).sum
      ∧ report.diagnostics.unmapped
        = (placedCharges settings code map trace? file?).countP (·.2 == .unmapped) := by
  have htotal : ∀ hotspots : List Hotspot,
      hotspots.foldl (fun total h => total + h.gas) 0 = (hotspots.map Hotspot.gas).sum := by
    intro hotspots
    rw [List.sum_eq_foldl, List.foldl_map]
  unfold analyze at hok
  by_cases hempty : (decode settings.instructionLimit code).isEmpty = true
  · -- without instructions nothing is placed, and there are no groups to rank
    rw [if_pos hempty] at hok
    have hnone : (decode settings.instructionLimit code).instructions = [] :=
      List.isEmpty_iff.1 hempty
    cases hok
    refine ⟨?_, rfl, ?_⟩
    · simp only [placedCharges, hnone, placements, List.zip_nil_left, List.map_nil]
      rw [Groups.ofPlacements, List.foldl_nil, ranked, Std.HashMap.toList_empty, List.mapM_nil]
      exact congrArg Except.ok List.mergeSort_nil
    · simp only [placedCharges, hnone, placements, List.zip_nil_left, List.map_nil]
      rfl
  · rw [if_neg hempty] at hok
    dsimp only at hok
    split at hok
    · cases hok
    · next hotspots hranked =>
      cases hok
      exact ⟨hranked, htotal hotspots, rfl⟩

/-- The positions of a hotspot are those of the ends of its range. -/
theorem positions_of_analyze {report : Report}
    (hok : analyze settings code map source trace? file? = .ok report) (h : Hotspot)
    (hh : h ∈ report.hotspots) :
    h.startPosition = positionAt source h.start ∧ h.finishPosition = positionAt source h.finish := by
  obtain ⟨group, -, hhotspot⟩ := exists_group_of_mem_ranked (analyze_ok hok).1 h hh
  exact (hotspotOf_ok hhotspot).2.2.2.2.2

/-- An analysis fails only where the ranking does. -/
theorem analyze_error {fault : Fault}
    (herror : analyze settings code map source trace? file? = .error fault) :
    ∃ cause, ranked settings source
        (Groups.ofPlacements (placedCharges settings code map trace? file?)) = .error cause
      ∧ fault = .numeral cause := by
  unfold analyze at herror
  by_cases hempty : (decode settings.instructionLimit code).isEmpty = true
  · rw [if_pos hempty] at herror
    cases herror
  · rw [if_neg hempty] at herror
    dsimp only at herror
    split at herror
    · next cause hranked =>
      cases herror
      exact ⟨cause, hranked, rfl⟩
    · cases herror

/-- A report is made exactly if its groups can be ranked. -/
theorem exists_analyze_iff :
    (∃ report, analyze settings code map source trace? file? = .ok report)
      ↔ ∃ hotspots, ranked settings source
        (Groups.ofPlacements (placedCharges settings code map trace? file?)) = .ok hotspots := by
  constructor
  · rintro ⟨report, hok⟩
    exact ⟨report.hotspots, (analyze_ok hok).1⟩
  · rintro ⟨hotspots, hranked⟩
    cases hmade : analyze settings code map source trace? file? with
    | ok report => exact ⟨report, rfl⟩
    | error fault =>
      obtain ⟨cause, hfailed, -⟩ := analyze_error hmade
      rw [hranked] at hfailed
      cases hfailed

end Report

end EvmScope
