import EvmScope.Proofs.Hotspot.Group
import EvmScope.Proofs.Hotspot.Report
import Mathlib.Algebra.BigOperators.Group.List.Basic

set_option autoImplicit false

/-! # Gas is attributed without loss

`Report.Attributes` states what a report says about the gas of a code, in terms of the instructions
alone: those of positive cost with a source range in the wanted file are divided by their ranges, and
each range makes one hotspot. It holds of every report that is made.

The proof follows the charges: an instruction is placed exactly if it is among the attributed ones,
the placed charges of a range make its group, and ranking neither loses nor adds a group. That the
total is kept is a count in two ways: the sum over the distinct ranges of the sums over their shares is
the sum over all shares. -/

namespace EvmScope

open RuntimeCosts

/-! ## What is attributed -/

/-- The instructions whose gas is attributed, with their mappings: those of positive cost with a
    mapping that has a source range, in the file asked for if there is one. -/
def attributed (trace? : Option ParsedTrace) (file? : Option Int) (map : SourceMap)
    (instructions : List Instruction) : List (Instruction × Mapping) :=
  instructions.zipIdx.filterMap (fun (i, place) =>
    map.entries[place]?.bind (fun mapping =>
      if 0 < costOf trace? i ∧ mapping.hasSource = true
          ∧ (file? = none ∨ file? = some mapping.fileIndex)
      then some (i, mapping) else none))

/-- Whether the instruction at a place has a positive cost and no source range. -/
def lacksSource (trace? : Option ParsedTrace) (map : SourceMap) (entry : Instruction × Nat) : Bool :=
  0 < costOf trace? entry.1 && map.entries[entry.2]?.all (fun mapping => !mapping.hasSource)

/-- The strict ranking: more gas first, then the range that begins or else ends first. -/
def Hotspot.Precedes (a b : Hotspot) : Prop :=
  b.gas < a.gas ∨ (a.gas = b.gas ∧ (a.start < b.start ∨ (a.start = b.start ∧ a.finish < b.finish)))

namespace Report

/-- The attributed instructions of an analysis. -/
def shares (settings : Settings) (code : Code) (map : SourceMap) (trace? : Option ParsedTrace)
    (file? : Option Int) : List (Instruction × Mapping) :=
  attributed trace? file? map (decode settings.instructionLimit code).instructions

/-- The attributed instructions of one range. -/
def sharesAt (settings : Settings) (code : Code) (map : SourceMap) (trace? : Option ParsedTrace)
    (file? : Option Int) (range : Int × Int) : List (Instruction × Mapping) :=
  (shares settings code map trace? file?).filter (fun share => share.2.range = range)

/-- A report attributes the gas of a code: nothing is lost, counted twice or put elsewhere. -/
structure Attributes (settings : Settings) (code : Code) (map : SourceMap)
    (trace? : Option ParsedTrace) (file? : Option Int) (report : Report) : Prop where
  /-- No range has two hotspots. -/
  ranges_nodup : (report.hotspots.map Hotspot.range).Nodup
  /-- The ranges of the hotspots are those of the attributed instructions. -/
  mem_ranges_iff : ∀ range, range ∈ report.hotspots.map Hotspot.range ↔
    ∃ share ∈ shares settings code map trace? file?, share.2.range = range
  gas_eq : ∀ h ∈ report.hotspots,
    h.gas = ((sharesAt settings code map trace? file? h.range).map (fun s => costOf trace? s.1)).sum
  /-- The mnemonics stand in the order of the instructions. -/
  mnemonics_eq : ∀ h ∈ report.hotspots,
    h.mnemonics = (sharesAt settings code map trace? file? h.range).map (fun s => s.1.mnemonic)
  /-- A hotspot is refined if the trace records a cost for one of its instructions. -/
  refined_iff : ∀ h ∈ report.hotspots, h.refined = true ↔
    ∃ share ∈ sharesAt settings code map trace? file? h.range, recorded trace? share.1 ≠ []
  /-- The hotspots stand in their strict ranking. -/
  strictly_ranked : report.hotspots.Pairwise Hotspot.Precedes
  totalGas_eq : report.totalGas
    = ((shares settings code map trace? file?).map (fun s => costOf trace? s.1)).sum
  unmapped_eq : report.diagnostics.unmapped
    = (decode settings.instructionLimit code).instructions.zipIdx.countP (lacksSource trace? map)

end Report

/-! ## Placing the instructions -/

/-- Pairing instructions with the entries of a map, filled up with `none`, gives every instruction the
    entry of its place. -/
theorem zip_entries_eq (instructions : List Instruction) (entries : List Mapping) :
    instructions.zip
        (entries.map some ++ List.replicate (instructions.length - entries.length) none)
      = instructions.zipIdx.map (fun (i, place) => (i, entries[place]?)) := by
  apply List.ext_getElem
  · simp only [List.length_zip, List.length_append, List.length_map, List.length_replicate,
      List.length_zipIdx]
    omega
  · intro place hleft hright
    have hplace : place < instructions.length := by
      rw [List.length_map, List.length_zipIdx] at hright
      exact hright
    rw [List.getElem_zip, List.getElem_map, List.getElem_zipIdx, Nat.zero_add]
    congr 1
    rcases Nat.lt_or_ge place entries.length with hlt | hge
    · rw [List.getElem_append_left (by rwa [List.length_map]), List.getElem_map,
        List.getElem?_eq_getElem hlt]
    · rw [List.getElem_append_right (by rwa [List.length_map]), List.getElem_replicate,
        List.getElem?_eq_none hge]

theorem placements_eq (costs : RuntimeCosts) (file? : Option Int) (map : SourceMap)
    (instructions : List Instruction) :
    placements costs file? map instructions
      = instructions.zipIdx.map (fun (i, place) => (Charge.ofInstruction costs i,
          Placement.of file? (Charge.ofInstruction costs i) map.entries[place]?)) := by
  simp only [placements, zip_entries_eq, List.map_map]
  rfl

/-- A charge has a place exactly if it is positive and its mapping has a wanted source range. -/
theorem placement_eq_placed_iff (file? : Option Int) (charge : Charge) (mapping? : Option Mapping)
    (mapping : Mapping) :
    Placement.of file? charge mapping? = .placed mapping ↔
      0 < charge.gas ∧ mapping? = some mapping ∧ mapping.hasSource = true
        ∧ (file? = none ∨ file? = some mapping.fileIndex) := by
  unfold Placement.of
  by_cases hgas : charge.gas ≤ 0
  · have hpos : ¬ 0 < charge.gas := by omega
    simp [hgas, hpos]
  · rw [if_neg hgas]
    cases mapping? with
    | none => simp
    | some there =>
      have hpos : 0 < charge.gas := by omega
      by_cases hsource : there.hasSource = true
      · -- the file filter is the only test left
        have hfile : file?.all (· == there.fileIndex) = true
            ↔ file? = none ∨ file? = some there.fileIndex := by
          cases file? <;> simp
        by_cases hall : file?.all (· == there.fileIndex) = true
        · simp only [hsource, hall, hpos, if_true, Bool.not_true, Bool.false_eq_true, if_false,
            true_and, Placement.placed.injEq, Option.some.injEq]
          constructor
          · rintro rfl
            exact ⟨rfl, hsource, hfile.1 hall⟩
          · exact fun h => h.1
        · simp only [hsource, hall, Bool.not_true, Bool.false_eq_true, if_false, reduceCtorEq,
            false_iff]
          rintro ⟨-, hthere, -, hwanted⟩
          cases hthere
          exact hall (hfile.2 hwanted)
      · simp only [hsource, Bool.not_false, if_true, reduceCtorEq, false_iff]
        rintro ⟨-, hthere, hhas, -⟩
        cases hthere
        exact hsource hhas

/-- A charge is counted as unmapped exactly if it is positive and has no source range. -/
theorem placement_beq_unmapped (file? : Option Int) (charge : Charge) (mapping? : Option Mapping) :
    (Placement.of file? charge mapping? == .unmapped)
      = (decide (0 < charge.gas) && mapping?.all (fun mapping => !mapping.hasSource)) := by
  unfold Placement.of
  by_cases hgas : charge.gas ≤ 0
  · have hpos : ¬ 0 < charge.gas := by omega
    simp [hgas, hpos]
  · have hpos : 0 < charge.gas := by omega
    rw [if_neg hgas]
    cases mapping? with
    | none => simp [hpos]
    | some there =>
      by_cases hsource : there.hasSource = true
      · by_cases hall : file?.all (· == there.fileIndex) = true
        · simp [hsource, hall]
        · simp [hsource, hall]
      · simp [hsource, hpos]

/-- What is attributed has a positive cost and a source range in the file asked for. -/
theorem of_mem_attributed {trace? : Option ParsedTrace} {file? : Option Int} {map : SourceMap}
    {instructions : List Instruction} {share : Instruction × Mapping}
    (hshare : share ∈ attributed trace? file? map instructions) :
    0 < costOf trace? share.1 ∧ share.2.hasSource = true
      ∧ (file? = none ∨ file? = some share.2.fileIndex) := by
  obtain ⟨⟨i, place⟩, -, hsome⟩ := List.mem_filterMap.1 hshare
  obtain ⟨mapping, -, hif⟩ := Option.bind_eq_some_iff.1 hsome
  rw [Option.ite_none_right_eq_some] at hif
  obtain ⟨hwanted, hsame⟩ := hif
  obtain rfl := Option.some.inj hsame
  exact hwanted

namespace Report

section Analysis

variable (settings : Settings) (code : Code) (map : SourceMap) (trace? : Option ParsedTrace)
  (file? : Option Int)

/-- The placed charges are those of the attributed instructions. -/
theorem placedShares_placedCharges :
    placedShares (placedCharges settings code map trace? file?)
      = (shares settings code map trace? file?).map (fun (i, m) => (chargeOf trace? i, m)) := by
  simp only [placedShares, placedCharges, placements_eq, shares, attributed, List.filterMap_map,
    List.map_filterMap]
  apply List.filterMap_congr
  rintro ⟨i, place⟩ hmem
  have hi : i ∈ (decode settings.instructionLimit code).instructions :=
    List.fst_mem_of_mem_zipIdx hmem
  simp only [Function.comp_apply, ofInstruction_evidence _ _ i hi]
  have hiff := placement_eq_placed_iff file? (chargeOf trace? i) map.entries[place]?
  have hnone : (∀ mapping,
        Placement.of file? (chargeOf trace? i) map.entries[place]? ≠ .placed mapping) →
      (map.entries[place]?.bind (fun mapping =>
        if 0 < costOf trace? i ∧ mapping.hasSource = true
            ∧ (file? = none ∨ file? = some mapping.fileIndex)
        then some (i, mapping) else none)) = none := by
    intro hno
    cases hmapping : map.entries[place]? with
    | none => rfl
    | some mapping =>
      rw [Option.bind_some, if_neg]
      rintro ⟨hgas, hwanted⟩
      exact hno mapping ((hiff mapping).2 ⟨hgas, hmapping, hwanted⟩)
  cases hplace : Placement.of file? (chargeOf trace? i) map.entries[place]? with
  | placed mapping =>
    obtain ⟨hgas, hmapping, hwanted⟩ := (hiff mapping).1 hplace
    rw [hmapping, Option.bind_some, if_pos ⟨hgas, hwanted⟩]
    rfl
  | free =>
    rw [hnone (by simp [hplace])]
    rfl
  | unmapped =>
    rw [hnone (by simp [hplace])]
    rfl
  | elsewhere =>
    rw [hnone (by simp [hplace])]
    rfl

/-- The charges without a place are those of the instructions that lack a source range. -/
theorem countP_placedCharges :
    (placedCharges settings code map trace? file?).countP (·.2 == .unmapped)
      = (decode settings.instructionLimit code).instructions.zipIdx.countP
          (lacksSource trace? map) := by
  rw [placedCharges, placements_eq, List.countP_map]
  apply List.countP_congr
  rintro ⟨i, place⟩ hmem
  have hi : i ∈ (decode settings.instructionLimit code).instructions :=
    List.fst_mem_of_mem_zipIdx hmem
  simp only [Function.comp_apply, ofInstruction_evidence _ _ i hi, placement_beq_unmapped]
  rfl

/-! ## One hotspot -/

/-- The group of a range has the charges of its attributed instructions. -/
theorem getElem?_groups (range : Int × Int) :
    (Groups.ofPlacements (placedCharges settings code map trace? file?))[range]?
      = Group.ofShares ((sharesAt settings code map trace? file? range).map
          (fun (i, m) => (chargeOf trace? i, m))) := by
  rw [Groups.getElem?_ofPlacements, placedShares_placedCharges, List.filter_map, sharesAt]
  rfl

variable {settings code map trace? file?} in
/-- The gas of a group is that of the attributed instructions of its range. -/
theorem gas_of_getElem?_groups {range : Int × Int} {group : Group}
    (hgroup : (Groups.ofPlacements (placedCharges settings code map trace? file?))[range]?
      = some group) :
    group.gas
      = ((sharesAt settings code map trace? file? range).map (fun s => costOf trace? s.1)).sum := by
  rw [getElem?_groups, Group.ofShares, Option.map_eq_some_iff] at hgroup
  obtain ⟨first, -, rfl⟩ := hgroup
  rw [List.map_map]
  rfl

variable {settings code map trace? file?} in
/-- The figures of a hotspot are those of the attributed instructions of its range. -/
theorem figures_of_mem_ranked {source : String} {hotspots : List Hotspot}
    (hok : ranked settings source
      (Groups.ofPlacements (placedCharges settings code map trace? file?)) = .ok hotspots)
    (h : Hotspot) (hh : h ∈ hotspots) :
    h.gas = ((sharesAt settings code map trace? file? h.range).map (fun s => costOf trace? s.1)).sum
      ∧ h.mnemonics
        = (sharesAt settings code map trace? file? h.range).map (fun s => s.1.mnemonic)
      ∧ h.refined = (sharesAt settings code map trace? file? h.range).any
          (fun s => decide (recorded trace? s.1 ≠ [])) := by
  obtain ⟨group, hgroup, hhotspot⟩ := exists_group_of_mem_ranked hok h hh
  obtain ⟨-, hgas, hmnemonics, hrefined, -⟩ := hotspotOf_ok hhotspot
  rw [hgas, hmnemonics, hrefined]
  refine ⟨gas_of_getElem?_groups hgroup, ?_⟩
  rw [getElem?_groups, Group.ofShares, Option.map_eq_some_iff] at hgroup
  obtain ⟨first, -, rfl⟩ := hgroup
  refine ⟨?_, ?_⟩
  · rw [List.reverse_reverse, List.map_map]
    rfl
  · rw [List.any_map]
    rfl

/-! ## All hotspots -/

/-- The ranges with a group are those of the attributed instructions. -/
theorem mem_keys_groups (range : Int × Int) :
    range ∈ (Groups.ofPlacements (placedCharges settings code map trace? file?)).keys
      ↔ ∃ share ∈ shares settings code map trace? file?, share.2.range = range := by
  rw [Groups.mem_keys_ofPlacements, placedShares_placedCharges]
  simp only [List.mem_map, exists_exists_and_eq_and]

variable {settings code map trace? file?} in
/-- The range of every attributed instruction has a hotspot. -/
theorem exists_hotspot_of_mem_shares {source : String} {hotspots : List Hotspot}
    (hok : ranked settings source
      (Groups.ofPlacements (placedCharges settings code map trace? file?)) = .ok hotspots)
    (share : Instruction × Mapping) (hshare : share ∈ shares settings code map trace? file?) :
    ∃ h ∈ hotspots, h.range = share.2.range := by
  rw [← List.mem_map, (map_range_ranked_perm hok).mem_iff, mem_keys_groups]
  exact ⟨share, hshare, rfl⟩

/-- A report is made exactly if the gas of every range can be written in digits. -/
theorem exists_report_iff (source : String) :
    (∃ report, analyze settings code map source trace? file? = .ok report)
      ↔ ∀ share ∈ shares settings code map trace? file?,
        (Nat.toDigits 10 ((sharesAt settings code map trace? file? share.2.range).map
          (fun s => costOf trace? s.1)).sum.natAbs).length ≤ Numeral.maxDigits := by
  rw [exists_analyze_iff, exists_ranked_iff]
  constructor
  · intro hfits share hshare
    have hkey := (mem_keys_groups settings code map trace? file? share.2.range).2
      ⟨share, hshare, rfl⟩
    obtain ⟨group, hsome⟩ := (Groups.mem_keys_iff _ _).1 hkey
    rw [← gas_of_getElem?_groups hsome]
    exact hfits _ _ hsome
  · intro hfits range group hsome
    obtain ⟨share, hshare, rfl⟩ := (mem_keys_groups settings code map trace? file? range).1
      ((Groups.mem_keys_iff _ _).2 ⟨group, hsome⟩)
    rw [gas_of_getElem?_groups hsome]
    exact hfits share hshare

end Analysis

/-- Two hotspots of different ranges are never level in the ranking. -/
theorem precedes_of_ranksBefore (a b : Hotspot) (hrange : a.range ≠ b.range)
    (hranks : Hotspot.ranksBefore a b = true) : Hotspot.Precedes a b := by
  rw [Hotspot.ranksBefore_iff] at hranks
  have hends : ¬ (a.start = b.start ∧ a.finish = b.finish) := by
    rintro ⟨hstart, hfinish⟩
    exact hrange (by rw [Hotspot.range, Hotspot.range, hstart, hfinish])
  unfold Hotspot.Precedes
  omega

/-- The sums over the parts of a list that belong to distinct keys make up the sum over the whole. -/
theorem sum_map_sum_filter {α κ : Type} [DecidableEq κ] (keys : List κ) (hnodup : keys.Nodup)
    (key : α → κ) (f : α → Int) (l : List α) (hkeys : ∀ a ∈ l, key a ∈ keys) :
    (keys.map (fun k => ((l.filter (fun a => key a = k)).map f).sum)).sum = (l.map f).sum := by
  induction l with
  | nil => simp
  | cons a rest ih =>
    -- the first element counts at its own key and nowhere else
    have hsplit : ∀ k, (((a :: rest).filter (fun b => key b = k)).map f).sum
        = (if k = key a then f a else 0) + ((rest.filter (fun b => key b = k)).map f).sum := by
      intro k
      by_cases hk : key a = k
      · simp [hk]
      · have hk' : ¬ k = key a := fun h => hk h.symm
        simp [hk, hk']
    have hcount : keys.count (key a) = 1 := by
      rw [hnodup.count, if_pos (hkeys a List.mem_cons_self)]
    rw [List.map_congr_left (fun k _ => hsplit k), List.sum_map_add,
      ih (fun b hb => hkeys b (List.mem_cons_of_mem _ hb)), List.sum_map_ite_eq, hcount]
    simp

/-- **Gas is attributed without loss.** Every report that is made has exactly one hotspot for each
    range among the attributed instructions, with the figures of the instructions of this range, in a
    strict ranking; its total is their whole gas, and the unmapped are those without a source range. -/
theorem analyze_attributes (settings : Settings) (code : Code) (map : SourceMap) (source : String)
    (trace? : Option ParsedTrace) (file? : Option Int) (report : Report)
    (hreport : analyze settings code map source trace? file? = .ok report) :
    Attributes settings code map trace? file? report := by
  obtain ⟨hranked, htotal, hunmapped⟩ := analyze_ok hreport
  have hperm := map_range_ranked_perm hranked
  have hnodup : (report.hotspots.map Hotspot.range).Nodup :=
    hperm.nodup_iff.2 Std.HashMap.nodup_keys
  have hranges : ∀ range, range ∈ report.hotspots.map Hotspot.range ↔
      ∃ share ∈ shares settings code map trace? file?, share.2.range = range := by
    intro range
    rw [hperm.mem_iff, mem_keys_groups]
  have hfigures := figures_of_mem_ranked hranked
  refine ⟨hnodup, hranges, ?_, ?_, ?_, ?_, ?_, ?_⟩
  · intro h hh
    exact (hfigures h hh).1
  · intro h hh
    exact (hfigures h hh).2.1
  · intro h hh
    rw [(hfigures h hh).2.2, List.any_eq_true]
    simp only [decide_eq_true_eq]
  · -- the ranking is strict because no two hotspots share a range
    have hdistinct : report.hotspots.Pairwise (fun a b => a.range ≠ b.range) :=
      List.pairwise_map.1 hnodup
    exact ((ranked_pairwise hranked).and hdistinct).imp
      (fun {a b} h => precedes_of_ranksBefore a b h.2 h.1)
  · -- every hotspot has the gas of its range, and every attributed instruction has one range
    have hgas : report.hotspots.map Hotspot.gas
        = (report.hotspots.map Hotspot.range).map (fun range =>
            ((sharesAt settings code map trace? file? range).map (fun s => costOf trace? s.1)).sum) := by
      rw [List.map_map]
      exact List.map_congr_left (fun h hh => (hfigures h hh).1)
    have hcover : ∀ share ∈ shares settings code map trace? file?,
        share.2.range ∈ report.hotspots.map Hotspot.range := by
      intro share hshare
      exact (hranges share.2.range).2 ⟨share, hshare, rfl⟩
    rw [htotal, hgas]
    exact sum_map_sum_filter _ hnodup (fun share : Instruction × Mapping => share.2.range) _ _ hcover
  · rw [hunmapped, countP_placedCharges]

theorem analyze_attributes_revisited_range :
    ∃ report, analyze Settings.standard (.text "0x60016002015b")
        (SourceMap.ofText (some "4:5:0;8:1:0;4:5:0;-1:0:0")) "a = 1 + 2;"
        (traceOf Settings.standard (.obj [("structLogs",
          .arr [.obj [("pc", .int 2), ("op", .str "PUSH1"), ("gasCost", .int 7)]])])) (some 0)
        = .ok report
      ∧ Attributes Settings.standard (.text "0x60016002015b")
        (SourceMap.ofText (some "4:5:0;8:1:0;4:5:0;-1:0:0"))
        (traceOf Settings.standard (.obj [("structLogs",
          .arr [.obj [("pc", .int 2), ("op", .str "PUSH1"), ("gasCost", .int 7)]])])) (some 0)
        report := by
  refine Exists.imp
    (fun report hreport => ⟨hreport, analyze_attributes _ _ _ _ _ _ report hreport⟩) ?_
  rw [exists_report_iff]
  decide +kernel

end Report

end EvmScope
